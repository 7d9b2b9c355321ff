import ScriptBind.Library.Manifest
import ScriptBind.Proofs.Binding.Invariant
import ScriptBind.Proofs.Json.Coded

/-!
# ScriptBind.Proofs.Binding.Manifest

A manifest is read back, both as bindings and as a library.

* `Bindings.Fits` - the numbers have the sizes that the manifest has for them.
* `Bindings.withoutDefinitions` - what a manifest holds of bindings.
* `Manifest.coded_kind`, `Manifest.coded_table` - shapes.
* `Bindings.read?_manifestText` - a manifest is read back.
-/

namespace ScriptBind

/-! ### Sizes -/

/-- Widths of integers have 8 bits, and lengths of arrays 64. -/
def ShapeKind.isSized : ShapeKind → Bool
  | .scalar (.int width _) => width < 1 <<< 8
  | .array length _ => length < 1 <<< 64
  | _ => true

/-- Positions have 32 bits. -/
structure Shape.Fits (s : Shape) : Prop where
  id : s.id < 1 <<< 32
  refs : s.kind.Below (1 <<< 32)
  sized : s.kind.isSized = true

structure ConverterEntry.Fits (e : ConverterEntry) : Prop where
  id : e.id < 1 <<< 32
  shape : e.shape < 1 <<< 32
  deps : ∀ id ∈ e.deps, id < 1 <<< 32

structure Export.Fits (e : Export) : Prop where
  shape : e.shape < 1 <<< 32
  converter : e.converter < 1 <<< 32

namespace Bindings

/-- Every number has the size that its machine type has. -/
structure Fits (b : Bindings) : Prop where
  shapes : ∀ s ∈ b.shapes.shapes.toList, s.Fits
  converters : ∀ e ∈ b.converters, e.Fits
  bridges : ∀ s ∈ b.bridges, s.element < 1 <<< 32
  /-- Each name stands once, in the order of the names. -/
  aliases : b.aliases.Pairwise (·.1 < ·.1)
  exports : ∀ e ∈ b.exports, e.Fits

/-- What a manifest holds. -/
def withoutDefinitions (b : Bindings) : Bindings :=
  { b with converters := b.converters.map fun e => { e with definition := none } }

end Bindings

section Decidable

instance (kind : ShapeKind) (n : Nat) : Decidable (kind.Below n) :=
  inferInstanceAs (Decidable (∀ id ∈ kind.refs, id < n))

instance (s : Shape) : Decidable s.Fits :=
  decidable_of_iff (s.id < 1 <<< 32 ∧ s.kind.Below (1 <<< 32) ∧ s.kind.isSized = true)
    ⟨fun ⟨id, refs, sized⟩ => ⟨id, refs, sized⟩, fun h => ⟨h.id, h.refs, h.sized⟩⟩

instance (e : ConverterEntry) : Decidable e.Fits :=
  decidable_of_iff (e.id < 1 <<< 32 ∧ e.shape < 1 <<< 32 ∧ ∀ id ∈ e.deps, id < 1 <<< 32)
    ⟨fun ⟨id, shape, deps⟩ => ⟨id, shape, deps⟩, fun h => ⟨h.id, h.shape, h.deps⟩⟩

instance (e : Export) : Decidable e.Fits :=
  decidable_of_iff (e.shape < 1 <<< 32 ∧ e.converter < 1 <<< 32)
    ⟨fun ⟨shape, converter⟩ => ⟨shape, converter⟩, fun h => ⟨h.shape, h.converter⟩⟩

instance (b : Bindings) : Decidable b.Fits :=
  decidable_of_iff ((∀ s ∈ b.shapes.shapes.toList, s.Fits) ∧ (∀ e ∈ b.converters, e.Fits) ∧
      (∀ s ∈ b.bridges, s.element < 1 <<< 32) ∧ b.aliases.Pairwise (·.1 < ·.1) ∧
      ∀ e ∈ b.exports, e.Fits)
    ⟨fun ⟨shapes, converters, bridges, aliases, exports⟩ =>
      ⟨shapes, converters, bridges, aliases, exports⟩,
      fun h => ⟨h.shapes, h.converters, h.bridges, h.aliases, h.exports⟩⟩

end Decidable

/-! ### Parts of shapes -/

namespace Manifest

open Json (Coded record nat nats list? fields?_record exact_record_iff)

theorem coded_id {n : Nat} (h : n < 1 <<< 32) : Coded (nat n) id? n := .nat (by decide) h

theorem coded_ids {ns : List Nat} (h : ∀ n ∈ ns, n < 1 <<< 32) : Coded (nats ns) ids? ns :=
  .list fun n hn => coded_id (h n hn)

theorem coded_direction (d : Direction) : Coded (.string d.text) direction? d :=
  ⟨.string _, d.ofText?_text⟩

theorem coded_chanDir (nothing : Json → Bool) (d : ChanDir) :
    Coded (.string d.text) (chanDir? nothing) d :=
  ⟨.string _, d.ofText?_text⟩

theorem coded_signedness (s : Signedness) : Coded (.string s.word) signedness? s :=
  ⟨.string _, by cases s <;> rfl⟩

theorem coded_precision (p : Precision) : Coded (.string p.word) precision? p :=
  ⟨.string _, by cases p <;> rfl⟩

theorem coded_func {f : FuncShape} (h : (ShapeKind.func f).Below (1 <<< 32)) :
    Coded (record (funcMembers f)) func? f := by
  have hparams := coded_ids fun n hn => h n (List.mem_append_left _ hn)
  have hresults := coded_ids fun n hn => h n (List.mem_append_right _ hn)
  have hkeys : ["params", "results", "variadic"].Nodup := by decide
  have hfields : (record (funcMembers f)).fields? ["params", "results", "variadic"] =
      some [nats f.params, nats f.results, .bool f.variadic] := fields?_record hkeys
  refine ⟨exact_record_iff.2 ?_, ?_⟩
  · simp only [funcMembers, List.forall_mem_cons]
    exact ⟨hparams.exact, hresults.exact, .bool _, List.forall_mem_nil _⟩
  · rw [func?, hfields]
    simp only [hparams.decoded, hresults.decoded, (Coded.bool f.variadic).decoded]
    rfl

theorem coded_method {m : MethodShape} (h : (ShapeKind.func m.func).Below (1 <<< 32)) :
    Coded (record [("name", .string m.name), ("func", record (funcMembers m.func))]) method? m := by
  have hfunc := coded_func h
  have hkeys : ["name", "func"].Nodup := by decide
  have hfields : Json.fields? ["name", "func"]
      (record [("name", .string m.name), ("func", record (funcMembers m.func))]) =
      some [.string m.name, record (funcMembers m.func)] := fields?_record hkeys
  refine ⟨exact_record_iff.2 ?_, ?_⟩
  · simp only [List.forall_mem_cons]
    exact ⟨.string _, hfunc.exact, List.forall_mem_nil _⟩
  · rw [method?, hfields]
    simp only [hfunc.decoded, (Coded.string m.name).decoded]
    rfl

theorem coded_field {f : FieldShape} (h : f.shape < 1 <<< 32) :
    Coded (record [("name", .string f.name), ("shape", nat f.shape)]) field? f := by
  have hshape := coded_id h
  have hkeys : ["name", "shape"].Nodup := by decide
  have hfields : Json.fields? ["name", "shape"]
      (record [("name", .string f.name), ("shape", nat f.shape)]) =
      some [.string f.name, nat f.shape] := fields?_record hkeys
  refine ⟨exact_record_iff.2 ?_, ?_⟩
  · simp only [List.forall_mem_cons]
    exact ⟨.string _, hshape.exact, List.forall_mem_nil _⟩
  · rw [field?, hfields]
    simp only [hshape.decoded, (Coded.string f.name).decoded]
    rfl

/-! ### Kinds -/

theorem one?_record (name : String) (value : Json) :
    one? name (record [(name, value)]) = some value := by
  have hfields : (record [(name, value)]).fields? [name] = some [value] :=
    fields?_record (List.nodup_singleton name)
  rw [one?, hfields]

theorem two?_record {first second : String} (hne : first ≠ second) (a b : Json) :
    two? first second (record [(first, a), (second, b)]) = some (a, b) := by
  have hfields : (record [(first, a), (second, b)]).fields? [first, second] = some [a, b] :=
    fields?_record (List.nodup_cons.2 ⟨by simpa using hne, List.nodup_singleton second⟩)
  rw [two?, hfields]

/-- A kind without fields of its own is only its word. -/
theorem coded_scalar {s : Scalar} (h : (ShapeKind.scalar s).isSized = true) :
    (∀ m ∈ scalarMembers s, m.2.Exact) ∧
      kindBody? s.label (record (scalarMembers s)) = some (.scalar s) := by
  cases s with
  | bool | string | any | error => exact ⟨nofun, rfl⟩
  | int width signedness =>
    have hwidth : Coded (nat width) (Json.nat? 8) width :=
      .nat (by decide) (of_decide_eq_true h)
    have hsignedness := coded_signedness signedness
    refine ⟨by simp [scalarMembers, hwidth.exact, hsignedness.exact], ?_⟩
    simp [Scalar.label, scalarMembers, kindBody?, two?_record, hwidth.decoded, hsignedness.decoded]
  | float precision =>
    have hprecision := coded_precision precision
    refine ⟨by simp [scalarMembers, hprecision.exact], ?_⟩
    simp [Scalar.label, scalarMembers, kindBody?, one?_record, hprecision.decoded]

theorem coded_kindMembers {kind : ShapeKind} (hrefs : kind.Below (1 <<< 32))
    (hsized : kind.isSized = true) : (∀ m ∈ kindMembers kind, m.2.Exact) ∧
      kindBody? kind.label (record (kindMembers kind)) = some kind := by
  cases kind with
  | scalar s => exact coded_scalar hsized
  | slice element | map value | pointer element =>
    have hpart := coded_id (hrefs _ (List.mem_singleton_self _))
    refine ⟨by simp [kindMembers, hpart.exact], ?_⟩
    simp [ShapeKind.label, kindMembers, kindBody?, one?_record, hpart.decoded]
  | array length element =>
    have helement := coded_id (hrefs _ (List.mem_singleton_self _))
    have hlength : Coded (nat length) (Json.nat? 64) length :=
      .nat (by decide) (of_decide_eq_true hsized)
    refine ⟨by simp [kindMembers, helement.exact, hlength.exact], ?_⟩
    simp [ShapeKind.label, kindMembers, kindBody?, two?_record, helement.decoded, hlength.decoded]
  | func f =>
    have hfunc := coded_func hrefs
    refine ⟨exact_record_iff.1 hfunc.exact, ?_⟩
    simp [ShapeKind.label, kindMembers, kindBody?, hfunc.decoded]
  | chan direction element =>
    have helement := coded_id (hrefs _ (List.mem_singleton_self _))
    have hdirection := coded_chanDir Json.isNullOrEmpty direction
    refine ⟨by simp [kindMembers, helement.exact, hdirection.exact], ?_⟩
    simp [ShapeKind.label, kindMembers, kindBody?, two?_record, helement.decoded,
      hdirection.decoded]
  | interface methods =>
    have hmethods : Coded _ (list? method?) methods := .list fun m hm =>
      coded_method fun id hid => hrefs id (List.mem_flatMap.2 ⟨m, hm, hid⟩)
    refine ⟨by simp [kindMembers, hmethods.exact], ?_⟩
    simp [ShapeKind.label, kindMembers, kindBody?, one?_record, hmethods.decoded]
  | record fields =>
    have hfields : Coded _ (list? field?) fields := .list fun f hf =>
      coded_field (hrefs f.shape (List.mem_map_of_mem hf))
    refine ⟨by simp [kindMembers, hfields.exact], ?_⟩
    simp [ShapeKind.label, kindMembers, kindBody?, one?_record, hfields.decoded]
  | boxed reason =>
    have hreason := Coded.string reason
    refine ⟨by simp [kindMembers, hreason.exact], ?_⟩
    simp [ShapeKind.label, kindMembers, kindBody?, one?_record, hreason.decoded]

theorem key_kindMembers_ne (kind : ShapeKind) : ∀ m ∈ kindMembers kind, m.1 ≠ "kind" := by
  rcases kind with s | _ | _ | _ | _ | _ | _ | _ | _ | _
  case scalar => cases s <;> simp [kindMembers, scalarMembers]
  all_goals simp [kindMembers, funcMembers]

theorem depth_funcMembers_le (f : FuncShape) : ∀ m ∈ funcMembers f, m.2.depth ≤ 1 := by
  have hnats : ∀ ns, (nats ns).depth ≤ 1 := by
    refine fun ns => Json.depth_array_le fun j hj => ?_
    obtain ⟨n, _, rfl⟩ := List.mem_map.1 hj
    exact Nat.le_refl 0
  simp only [funcMembers, List.forall_mem_cons]
  exact ⟨hnats _, hnats _, Nat.zero_le 1, List.forall_mem_nil _⟩

theorem depth_kindMembers_le (kind : ShapeKind) : ∀ m ∈ kindMembers kind, m.2.depth ≤ 4 := by
  cases kind with
  | scalar s => cases s <;> simp [kindMembers, scalarMembers, nat, Json.depth]
  | func f => exact fun m hm => Nat.le_trans (depth_funcMembers_le f m hm) (by decide)
  | interface methods =>
    simp only [kindMembers, List.forall_mem_singleton]
    refine Json.depth_array_le fun j hj => ?_
    obtain ⟨m, _, rfl⟩ := List.mem_map.1 hj
    refine Json.depth_record_le ?_
    simp only [List.forall_mem_cons]
    exact ⟨Nat.zero_le 2, Json.depth_record_le (depth_funcMembers_le m.func), List.forall_mem_nil _⟩
  | record fields =>
    simp only [kindMembers, List.forall_mem_singleton]
    refine Nat.le_trans (Json.depth_array_le (d := 1) fun j hj => ?_) (by decide)
    obtain ⟨f, _, rfl⟩ := List.mem_map.1 hj
    exact Json.depth_record_le (by simp [nat, Json.depth])
  | _ => simp [kindMembers, nat, Json.depth]

theorem tagged?_record {tag : String} {members : List (String × Json)}
    (h : ∀ m ∈ members, m.1 ≠ "kind") :
    tagged? (record (("kind", .string tag) :: members)) = some (tag, record members) := by
  have hkeys : ∀ m ∈ Json.memberList members, m.key ≠ "kind" := by
    intro m hm
    obtain ⟨p, hp, rfl⟩ := List.mem_map.1 hm
    exact h p hp
  have hnone : (Json.memberList members).filter (·.key = "kind") = [] :=
    List.filter_eq_nil_iff.2 fun m hm => by simpa using hkeys m hm
  have hall : (Json.memberList members).filter (·.key ≠ "kind") = Json.memberList members :=
    List.filter_eq_self.2 fun m hm => by simpa using hkeys m hm
  show tagged? (.object (⟨"kind", .string tag⟩ :: Json.memberList members)) =
    some (tag, .object (Json.memberList members))
  rw [tagged?, Json.once?, List.filter_cons, List.filter_cons, hnone, hall]
  rfl

theorem coded_kind {kind : ShapeKind} (hrefs : kind.Below (1 <<< 32)) (hsized : kind.isSized = true) :
    Coded (kindJson kind) kind? kind := by
  obtain ⟨hexact, hbody⟩ := coded_kindMembers hrefs hsized
  have hall : (kindJson kind).Exact :=
    exact_record_iff.2 (List.forall_mem_cons.2 ⟨.string _, hexact⟩)
  have hdepth : (kindJson kind).depth ≤ 4 + 1 :=
    Json.depth_record_le (List.forall_mem_cons.2 ⟨Nat.zero_le 4, depth_kindMembers_le kind⟩)
  have hready : ((kindJson kind).depth ≤ kindDepth && (kindJson kind).isDecodable) = true := by
    rw [hall.isDecodable, Bool.and_true]
    exact decide_eq_true (Nat.le_trans hdepth (by decide))
  refine ⟨hall, ?_⟩
  rw [kind?, if_pos hready, kindJson, tagged?_record (key_kindMembers_ne kind)]
  exact hbody

theorem coded_shape {s : Shape} (h : s.Fits) : Coded (shapeJson s) shape? s := by
  have hid := coded_id h.id
  have hkind := coded_kind h.refs h.sized
  have hkeys : ["id", "name", "kind"].Nodup := by decide
  have hfields : (shapeJson s).fields? ["id", "name", "kind"] =
      some [nat s.id, .string s.name, kindJson s.kind] := fields?_record hkeys
  refine ⟨exact_record_iff.2 ?_, ?_⟩
  · simp only [List.forall_mem_cons]
    exact ⟨hid.exact, .string _, hkind.exact, List.forall_mem_nil _⟩
  · rw [shape?, hfields]
    simp only [hid.decoded, (Coded.string s.name).decoded, hkind.decoded]
    rfl

theorem coded_table {t : ShapeTable} (h : ∀ s ∈ t.shapes.toList, s.Fits) :
    Coded (tableJson t) table? t := by
  have hshapes : Coded _ (list? shape?) t.shapes.toList := .list fun s hs => coded_shape (h s hs)
  refine ⟨exact_record_iff.2 (List.forall_mem_singleton.2 hshapes.exact), ?_⟩
  rw [table?, tableJson, one?_record]
  simp [hshapes.decoded]

/-! ### Converters and channels -/

theorem coded_entry {e : ConverterEntry} (h : e.Fits) :
    Coded (entryJson e) entry? { e with definition := none } := by
  have hid := coded_id h.id
  have hshape := coded_id h.shape
  have hdirection := coded_direction e.direction
  have hdeps := coded_ids h.deps
  have hkeys : ["id", "shape", "direction", "ident", "deps"].Nodup := by decide
  have hfields : (entryJson e).fields? ["id", "shape", "direction", "ident", "deps"] =
      some [nat e.id, nat e.shape, .string e.direction.text, .string e.ident, nats e.deps] :=
    fields?_record hkeys
  refine ⟨exact_record_iff.2 ?_, ?_⟩
  · simp only [List.forall_mem_cons]
    exact ⟨hid.exact, hshape.exact, hdirection.exact, .string _, hdeps.exact, List.forall_mem_nil _⟩
  · unfold entry?
    rw [hfields]
    simp only [hid.decoded, hshape.decoded, hdirection.decoded, (Coded.string e.ident).decoded,
      hdeps.decoded]
    rfl

theorem coded_bridge {b : BridgeSupport} (h : b.element < 1 <<< 32) :
    Coded (bridgeJson b) bridge? b := by
  have helement := coded_id h
  have hdirection := coded_chanDir Json.isNull b.direction
  have hkeys : ["ident", "element", "direction"].Nodup := by decide
  have hfields : (bridgeJson b).fields? ["ident", "element", "direction"] =
      some [.string b.ident, nat b.element, .string b.direction.text] := fields?_record hkeys
  refine ⟨exact_record_iff.2 ?_, ?_⟩
  · simp only [List.forall_mem_cons]
    exact ⟨.string _, helement.exact, hdirection.exact, List.forall_mem_nil _⟩
  · rw [bridge?, hfields]
    simp only [(Coded.string b.ident).decoded, helement.decoded, hdirection.decoded]
    rfl

theorem coded_limitation (l : Limitation) : Coded (limitationJson l) limitation? l := by
  have hkeys : ["type_name", "reason"].Nodup := by decide
  have hfields : (limitationJson l).fields? ["type_name", "reason"] =
      some [.string l.typeName, .string l.reason] := fields?_record hkeys
  refine ⟨exact_record_iff.2 ?_, ?_⟩
  · simp only [List.forall_mem_cons]
    exact ⟨.string _, .string _, List.forall_mem_nil _⟩
  · rw [limitation?, hfields]
    rfl

theorem coded_export {e : Export} (h : e.Fits) : Coded (exportJson e) Manifest.export? e := by
  have hshape := coded_id h.shape
  have hdirection := coded_direction e.direction
  have hconverter := coded_id h.converter
  have hkeys : ["label", "shape", "direction", "converter"].Nodup := by decide
  have hfields : (exportJson e).fields? ["label", "shape", "direction", "converter"] =
      some [.string e.label, nat e.shape, .string e.direction.text, nat e.converter] :=
    fields?_record hkeys
  refine ⟨exact_record_iff.2 ?_, ?_⟩
  · simp only [List.forall_mem_cons]
    exact ⟨.string _, hshape.exact, hdirection.exact, hconverter.exact, List.forall_mem_nil _⟩
  · rw [Manifest.export?, hfields]
    simp only [(Coded.string e.label).decoded, hshape.decoded, hdirection.decoded,
      hconverter.decoded]
    rfl

end Manifest

/-! ### Bindings -/

namespace TypeNames

/-- If no name is there twice, all are registered. -/
theorem listings_foldl_register {found aliases : List (String × String)}
    (h : ((found ++ aliases).map (·.1)).Nodup) :
    (aliases.foldl (fun names (name, listing) => names.register name listing) ⟨found⟩ :
      TypeNames).listings = found ++ aliases := by
  induction aliases generalizing found with
  | nil => exact (List.append_nil found).symm
  | cons p aliases ih =>
    obtain ⟨name, listing⟩ := p
    rw [List.append_cons] at h
    have hnew : found.lookup name = none := by
      rw [List.map_append, List.map_append] at h
      have hfound := (List.nodup_append.1 (List.nodup_append.1 h).1).2.2
      refine List.lookup_eq_none_iff.2 fun q hq => bne_iff_ne.2 fun heq => ?_
      exact hfound q.1 (List.mem_map_of_mem hq) name (List.mem_singleton_self _) heq.symm
    have hstep : (⟨found⟩ : TypeNames).register name listing = ⟨found ++ [(name, listing)]⟩ := by
      rw [register, listing?, hnew]
    have hrest := ih h
    rw [← hstep] at hrest
    exact hrest.trans (List.append_cons found (name, listing) aliases).symm

theorem ofList_eq {aliases : List (String × String)} (h : (aliases.map (·.1)).Nodup) :
    ofList aliases = ⟨aliases⟩ :=
  congrArg TypeNames.mk (@listings_foldl_register [] aliases h)

end TypeNames

namespace Bindings

open Json (Coded list? record fields?_record exact_record_iff)
open Manifest

def aliasesJson (b : Bindings) : Json :=
  record (b.aliases.map fun (name, listing) => (name, .string listing))

def members (b : Bindings) : List (String × Json) :=
  [("shapes", tableJson b.shapes), ("converters", .array (b.converters.map entryJson)),
    ("bridges", .array (b.bridges.map bridgeJson)), ("aliases", b.aliasesJson),
    ("limitations", .array (b.limitations.map limitationJson)),
    ("exports", .array (b.exports.map exportJson))]

theorem nodup_members (b : Bindings) : (b.members.map (·.1)).Nodup := by
  show ["shapes", "converters", "bridges", "aliases", "limitations", "exports"].Nodup
  decide

theorem map_entryJson (b : Bindings) :
    b.withoutDefinitions.converters.map entryJson = b.converters.map entryJson :=
  List.map_map

theorem coded {b : Bindings} (h : b.Fits) : Coded b.toJson ofJson? b.withoutDefinitions := by
  have hshapes := coded_table h.shapes
  have hconverters : Coded (.array (b.converters.map entryJson)) (list? entry?)
      b.withoutDefinitions.converters := by
    rw [← map_entryJson]
    refine .list fun e' he' => ?_
    obtain ⟨e, he, rfl⟩ := List.mem_map.1 he'
    have hentry := coded_entry (h.converters e he)
    exact hentry
  have hbridges : Coded (.array (b.bridges.map bridgeJson)) (list? bridge?) b.bridges :=
    .list fun s hs => coded_bridge (h.bridges s hs)
  have haliases : Coded b.aliasesJson Json.textMap? b.aliases := .textMap h.aliases
  have hlimitations : Coded (.array (b.limitations.map limitationJson)) (list? limitation?)
      b.limitations := .list fun l _ => coded_limitation l
  have hexports : Coded (.array (b.exports.map exportJson)) (list? Manifest.export?) b.exports :=
    .list fun e he => coded_export (h.exports e he)
  have hfields : b.toJson.fields?
      ["shapes", "converters", "bridges", "aliases", "limitations", "exports"] =
      some [tableJson b.shapes, .array (b.converters.map entryJson),
        .array (b.bridges.map bridgeJson), b.aliasesJson,
        .array (b.limitations.map limitationJson), .array (b.exports.map exportJson)] :=
    fields?_record b.nodup_members
  refine ⟨exact_record_iff.2 ?_, ?_⟩
  · simp only [List.forall_mem_cons]
    exact ⟨hshapes.exact, hconverters.exact, hbridges.exact, haliases.exact, hlimitations.exact,
      hexports.exact, List.forall_mem_nil _⟩
  · rw [ofJson?, hfields]
    simp only [hshapes.decoded, hconverters.decoded, hbridges.decoded, haliases.decoded,
      hlimitations.decoded, hexports.decoded]
    rfl

end Bindings

theorem Library.ofManifest?_toJson {b : Bindings} (h : b.Fits) :
    ofManifest? b.toJson = some ⟨b.shapes, ⟨b.aliases⟩⟩ := by
  have hshapes : Json.once? "shapes" (Json.memberList b.members) =
      some (Manifest.tableJson b.shapes) :=
    Json.once?_memberList b.nodup_members List.mem_cons_self
  have haliases : (Json.memberList b.members).filter (·.key = "aliases") =
      [⟨"aliases", b.aliasesJson⟩] := by
    have hmem : ("aliases", b.aliasesJson) ∈ b.members := by simp [Bindings.members]
    exact Json.filter_memberList b.nodup_members hmem
  have hparts : manifestParts? b.toJson =
      some (Manifest.tableJson b.shapes, some b.aliasesJson) := by
    show manifestParts? (.object (Json.memberList b.members)) = _
    rw [manifestParts?, hshapes, haliases]
  have htexts : b.aliasesJson.textMap? = some b.aliases := (Json.Coded.textMap h.aliases).decoded
  have hnodup : (b.aliases.map (·.1)).Nodup :=
    List.pairwise_map.2 (h.aliases.imp fun hlt => String.ne_of_lt hlt)
  rw [ofManifest?, hparts]
  simp only [Option.bind_eq_bind, Option.bind_some, (Manifest.coded_table h.shapes).decoded, htexts,
    TypeNames.ofList_eq hnodup]
  rfl

/-- Bindings of any size with any texts are read back, and a library knows their shapes and the
names of their structs. -/
theorem Bindings.read?_manifestText {b : Bindings} (h : b.Fits) :
    Bindings.read? b.manifestText = some b.withoutDefinitions ∧
      Library.read? b.manifestText = some ⟨b.shapes, ⟨b.aliases⟩⟩ := by
  have hcoded := Bindings.coded h
  have htext : Json.read? b.manifestText = some b.toJson := Json.read?_pretty hcoded.exact
  rw [Bindings.read?, Library.read?, htext]
  exact ⟨hcoded.decoded, Library.ofManifest?_toJson h⟩

/-- A list of the greatest length, over a type whose name needs escapes. -/
def ledger : Bindings where
  shapes := ⟨#[⟨0, "ledger.Rows", .array (1 <<< 64 - 1) 1⟩,
    ⟨1, "\"\\\x07é", .record [⟨"balance", 2⟩, ⟨"phase", 3⟩]⟩,
    ⟨2, "int64", .scalar (.int 64 .signed)⟩, ⟨3, "complex128", .boxed "no rule for complex128"⟩]⟩
  converters := [⟨0, 2, .toScript, "to_script_int64",
    some ⟨"to_script_int64", "int64", .toScript, .whole (.scalar (.int 64 .signed))⟩, []⟩]
  bridges := [⟨"bridge_int64", 2, .recvOnly⟩]
  aliases := [("Struct_0", "balance int64;"), ("Struct_1", "")]
  limitations := [⟨"complex128", "no rule for complex128"⟩]
  exports := [⟨"ledger.Balance", 2, .toScript, 0⟩]

theorem read?_manifestText_ledger : ledger.Fits ∧
    Bindings.read? ledger.manifestText = some ledger.withoutDefinitions ∧
    Library.read? ledger.manifestText = some ⟨ledger.shapes, ⟨ledger.aliases⟩⟩ := by
  have hfits : ledger.Fits := by decide +kernel
  exact ⟨hfits, Bindings.read?_manifestText hfits⟩

end ScriptBind
