import ScriptBind.Proofs.Binding.Finish
import ScriptBind.Proofs.Binding.Runs

/-!
# ScriptBind.Proofs.Binding.WellFormed

Whatever is asked for, the bindings are complete and contain nothing else.

* `Bindings.Resolves` - how a part of a converter is converted.
* `Bindings.WellFormed` - every reference leads to its place, and the converters are those that are
  asked for and those that they call, at any depth.
* `Generator.wellFormed_finish` - the bindings of any run without failures.
-/

namespace ScriptBind

open Relation (ReflTransGen)

/-! ### Parts -/

/-- The shapes that a converter goes through. -/
def ShapeKind.parts : ShapeKind → List ShapeId
  | .slice element => [element]
  | .array _ element => [element]
  | .map value => [value]
  | .pointer element => [element]
  | .record fields => fields.map (·.shape)
  | _ => []

def Body.parts : Body → List Part
  | .slice element => [element]
  | .array _ element => [element]
  | .map value => [value]
  | .pointer element => [element]
  | .record fields => fields.map (·.2)
  | .whole _ => []
  | .boxed => []

theorem ShapeKind.Needs.of_mem_parts {kind : ShapeKind} {id : ShapeId} (h : id ∈ kind.parts)
    (direction : Direction) : kind.Needs direction (id, direction) := by
  cases kind with
  | slice element | array length element | map value | pointer element =>
    cases List.mem_singleton.1 h
    constructor
  | record fields =>
    obtain ⟨f, hf, rfl⟩ := List.mem_map.1 h
    exact .field hf
  | _ => cases h

theorem Converter.parts_bodyOf (shapes : ShapeTable) (idents : Idents) (direction : Direction)
    (shape : Shape) : (bodyOf shapes idents direction shape).parts =
      shape.kind.parts.map (part shapes idents direction) := by
  obtain ⟨id, name, kind⟩ := shape
  cases kind with
  | record fields => simp [bodyOf, Body.parts, ShapeKind.parts]
  | _ => rfl

namespace Bindings

/-- The rule of a shape. -/
def rule? (b : Bindings) (id : ShapeId) : Option ShapeKind := (b.shapes.get? id).map (·.kind)

/-- The part is converted in place, or by the converter of its shape. -/
def Resolves (b : Bindings) (direction : Direction) (id : ShapeId) (part : Part) : Prop :=
  (∃ scalar, b.rule? id = some (.scalar scalar) ∧ part = .scalar scalar) ∨
    ∃ e ∈ b.converters, e.key = (id, direction) ∧ part = .call e.ident

structure WellFormed (b : Bindings) (roots : List ConverterKey) : Prop where
  shapes : ∀ id shape, b.shapes.get? id = some shape →
    shape.id = id ∧ shape.kind.Below b.shapes.size
  converters : ∀ (id : ConverterId) e, b.converters[id]? = some e → e.id = id
  distinct : (b.converters.map (·.key)).Nodup
  keys : ∀ key, key ∈ b.converters.map (·.key) ↔
    ∃ root ∈ roots, ReflTransGen (Needs b.rule?) root key
  ascending : ∀ e ∈ b.converters, e.deps.Pairwise (· < ·)
  deps : ∀ e ∈ b.converters, ∀ id, id ∈ e.deps ↔
    ∃ e', b.converters[id]? = some e' ∧ Needs b.rule? e.key e'.key
  parts : ∀ e ∈ b.converters, ∃ shape c, b.shapes.get? e.shape = some shape ∧
    e.definition = some c ∧ List.Forall₂ (b.Resolves e.direction) shape.kind.parts c.body.parts

end Bindings

namespace Generator

variable {graph : TypeGraph} {g : Generator} {roots : List ConverterKey}

theorem rule?_finish (h : g.Complete) : g.finish.rule? = g.kindOf? := by
  funext id
  show (g.shapeTable.get? id).map _ = _
  rw [get?_shapeTable, kindOf?_eq]
  cases hrow : g.rows[id]? with
  | none => rfl
  | some row =>
    obtain ⟨kind, hkind, _⟩ := h id (Array.getElem?_eq_some_iff.1 hrow).1
    rw [kindOf?_eq, hrow] at hkind
    have hkind : row.kind = some kind := hkind
    simp [hkind]

theorem key_finish (g : Generator) (id : ConverterId) :
    (g.finish.converters[id]?).map (·.key) = g.keyOf? id := by
  rw [keyOf?, ← List.getElem?_map, map_converters_finish fun _ _ => rfl, List.getElem?_map,
    Array.getElem?_toList]

theorem exists_get?_shapeTable {id : ShapeId} {kind : ShapeKind} (h : g.kindOf? id = some kind) :
    ∃ name, g.shapeTable.get? id = some ⟨id, name, kind⟩ := by
  rw [kindOf?_eq] at h
  obtain ⟨row, hrow, hkind⟩ := Option.bind_eq_some_iff.1 h
  refine ⟨row.name, ?_⟩
  rw [get?_shapeTable, hrow, Option.map_some, hkind]
  rfl

theorem exists_identsOf {id : ConverterId} {key : ConverterKey} (h : g.keyOf? id = some key) :
    ∃ e ∈ g.entries.toList, e.key = key ∧
      identsOf g.entries.toList key.1 key.2 = some e.ident := by
  obtain ⟨e, he, rfl⟩ := Option.map_eq_some_iff.1 h
  have hmem := Array.mem_toList_iff.2 (Array.mem_of_getElem? he)
  have hsome : (g.entries.toList.reverse.find? fun e' =>
      e'.shape = e.key.1 && e'.direction = e.key.2).isSome :=
    List.find?_isSome.2 ⟨e, List.mem_reverse.2 hmem, by simp [ConverterEntry.key]⟩
  obtain ⟨found, hfound⟩ := Option.isSome_iff_exists.1 hsome
  refine ⟨found, List.mem_reverse.1 (List.mem_of_find?_eq_some hfound), ?_, ?_⟩
  · have hkey := List.find?_some hfound
    simp only [Bool.and_eq_true, decide_eq_true_eq] at hkey
    exact Prod.ext hkey.1 hkey.2
  · rw [identsOf, hfound]

namespace Settled

variable (h : Settled graph roots g)

include h

theorem mem_keys_iff (key : ConverterKey) : key ∈ g.entries.toList.map (·.key) ↔
    ∃ root ∈ roots, ReflTransGen (Needs g.kindOf?) root key := by
  constructor
  · intro hkey
    obtain ⟨e, he, rfl⟩ := List.mem_map.1 hkey
    exact h.reached e (Array.mem_toList_iff.1 he)
  · have hmem : ∀ {key id}, g.keyOf? id = some key → key ∈ g.entries.toList.map (·.key) := by
      intro key id hid
      obtain ⟨e, he, rfl⟩ := Option.map_eq_some_iff.1 hid
      exact List.mem_map_of_mem (Array.mem_toList_iff.2 (Array.mem_of_getElem? he))
    rintro ⟨root, hroot, hreach⟩
    induction hreach with
    | refl =>
      obtain ⟨id, hid⟩ := h.requested root hroot
      exact hmem hid
    | tail _ hneeds ih =>
      obtain ⟨e, he, rfl⟩ := List.mem_map.1 ih
      obtain ⟨id, _, hid⟩ := (h.wired e (Array.mem_toList_iff.1 he)).covered _ hneeds
      exact hmem hid

theorem mem_deps_iff {e : ConverterEntry} (he : e ∈ g.entries) (id : ConverterId) :
    id ∈ e.deps ↔ ∃ key, g.keyOf? id = some key ∧ Needs g.kindOf? e.key key := by
  refine ⟨(h.wired e he).needed id, ?_⟩
  rintro ⟨key, hkey, hneeds⟩
  obtain ⟨id', hid', hkey'⟩ := (h.wired e he).covered key hneeds
  -- a converter has one entry
  obtain ⟨a, ha, hak⟩ := Option.map_eq_some_iff.1 hkey
  obtain ⟨b, hb, hbk⟩ := Option.map_eq_some_iff.1 hkey'
  have hab : a = b := List.inj_on_of_nodup_map h.keyed.nodup
    (Array.mem_toList_iff.2 (Array.mem_of_getElem? ha))
    (Array.mem_toList_iff.2 (Array.mem_of_getElem? hb)) (hak.trans hbk.symm)
  have hid : id = id' := by
    rw [← h.keyed.ids id a ha, ← h.keyed.ids id' b hb, hab]
  exact hid ▸ hid'

theorem resolves {e : ConverterEntry} (he : e ∈ g.entries) {kind : ShapeKind}
    (hkind : g.kindOf? e.shape = some kind) {id : ShapeId} (hid : id ∈ kind.parts) :
    g.finish.Resolves e.direction id
      (Converter.part g.shapeTable (identsOf g.entries.toList) e.direction id) := by
  have hneeds := ShapeKind.Needs.of_mem_parts hid e.direction
  have hbelow := h.sound.below_of_kindOf? hkind
  have hlt := hbelow _ (mem_refs_of_mem_dependencies (mem_dependencies_iff.2 hneeds))
  obtain ⟨rule, hrule, _⟩ := h.complete id hlt
  obtain ⟨name, hget⟩ := exists_get?_shapeTable hrule
  rw [Bindings.Resolves, rule?_finish h.complete, hrule, Converter.part, hget]
  by_cases hinline : rule.isInline = true
  · cases rule with
    | scalar s => exact .inl ⟨s, rfl, rfl⟩
    | _ => cases hinline
  · have hstep : Needs g.kindOf? e.key (id, e.direction) :=
      ⟨⟨kind, hkind, hneeds⟩, rule, hrule, Bool.eq_false_of_not_eq_true hinline⟩
    obtain ⟨i, _, hi⟩ := (h.wired e he).covered _ hstep
    obtain ⟨found, hfound, hkey, hident⟩ := exists_identsOf hi
    refine .inr ⟨_, List.mem_map.2 ⟨found, hfound, rfl⟩, hkey, ?_⟩
    cases rule with
    | scalar s => exact absurd rfl hinline
    | _ => simp only [hident]

theorem wellFormed : g.finish.WellFormed roots where
  shapes id shape hid := by
    have hrules := rule?_finish h.complete
    have hshape : shape.id = id := by
      rw [finish, get?_shapeTable] at hid
      obtain ⟨row, _, rfl⟩ := Option.map_eq_some_iff.1 hid
      rfl
    refine ⟨hshape, ?_⟩
    have hkind : g.kindOf? id = some shape.kind := by
      rw [← hrules, Bindings.rule?, hid]
      rfl
    exact (size_shapeTable g).symm ▸ h.sound.below_of_kindOf? hkind
  converters id e he := by
    rw [finish, List.getElem?_map, Array.getElem?_toList] at he
    obtain ⟨entry, hentry, rfl⟩ := Option.map_eq_some_iff.1 he
    exact h.keyed.ids id entry hentry
  distinct := by
    rw [map_converters_finish fun _ _ => rfl]
    exact h.keyed.nodup
  keys key := by
    rw [map_converters_finish fun _ _ => rfl, rule?_finish h.complete]
    exact h.mem_keys_iff key
  ascending e he := by
    obtain ⟨entry, hentry, rfl⟩ := List.mem_map.1 he
    exact (h.wired entry (Array.mem_toList_iff.1 hentry)).ascending
  deps e he id := by
    obtain ⟨entry, hentry, rfl⟩ := List.mem_map.1 he
    rw [rule?_finish h.complete]
    refine (h.mem_deps_iff (Array.mem_toList_iff.1 hentry) id).trans ?_
    rw [← key_finish]
    constructor
    · rintro ⟨key, hkey, hneeds⟩
      obtain ⟨e', he', rfl⟩ := Option.map_eq_some_iff.1 hkey
      exact ⟨e', he', hneeds⟩
    · rintro ⟨e', he', hneeds⟩
      exact ⟨e'.key, Option.map_eq_some_iff.2 ⟨e', he', rfl⟩, hneeds⟩
  parts e he := by
    obtain ⟨entry, hentry, rfl⟩ := List.mem_map.1 he
    have hmem := Array.mem_toList_iff.1 hentry
    obtain ⟨kind, hkind, _⟩ := h.complete _ (h.shape_lt hmem)
    obtain ⟨name, hget⟩ := exists_get?_shapeTable hkind
    refine ⟨_, _, hget, congrArg (Option.map _) hget, ?_⟩
    show List.Forall₂ _ kind.parts (Converter.bodyOf _ _ _ _).parts
    rw [Converter.parts_bodyOf, List.forall₂_map_right_iff, List.forall₂_same]
    exact fun id hid => h.resolves hmem hkind hid

end Settled

/-- A list that is linked through pointers and through functions over them. -/
def relay : TypeGraph where
  nodes := #[.int 64 .signed, .named "relay.Node" (some 5) [], .pointer 1,
    .func ⟨[⟨some "from", 2⟩], [⟨none, 4⟩], false, none, []⟩,
    .chan .recvOnly 1, .struct [⟨"load", 0⟩, ⟨"next", 2⟩, ⟨"pass", 3⟩], .slice 2]
  names := [("relay.Node", 1)]

end Generator
end ScriptBind
