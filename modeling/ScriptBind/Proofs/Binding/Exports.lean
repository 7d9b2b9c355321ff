import ScriptBind.Proofs.Binding.Finish
import ScriptBind.Proofs.Binding.Steps
import ScriptBind.Proofs.Declaration.Determined
import ScriptBind.Proofs.TypeExpr.RoundTrip

/-!
# ScriptBind.Proofs.Binding.Exports

Which converter a label leads to. Of several requests with one label and direction the first is
found, so a request is served under its label just if it asks for the same type as the first.

* `Generator.Serves` - an export has the shape and the converter of a request.
* `Generator.Exported` - what the exports of a run are.
* `Lowered.export?_of_generate` - which requests are found under their labels.
-/

namespace ScriptBind

namespace Generator

open GenM (Keeps)

/-- What making shapes leaves alone. -/
def outer (g : Generator) : Array ConverterEntry × Array Export := (g.entries, g.exports)

theorem keeps_degrade (name reason : String) : Keeps outer (degrade name reason) :=
  Keeps.bind (.modify fun _ => rfl) fun _ => .pure _

theorem keeps_registerBridge (element : ShapeId) (direction : ChanDir) :
    Keeps outer (registerBridge element direction) := by
  refine .modify fun g => ?_
  split <;> rfl

theorem keeps_kindFor {shape : CanonId → GenM ShapeId} (hshape : ∀ d, Keeps outer (shape d))
    (name : String) (kind : Option CanonKind) : Keeps outer (kindFor shape name kind) :=
  .of_agrees (agrees_kindFor (fun d => .of_keeps (hshape d)) keeps_degrade keeps_registerBridge
    name kind)

theorem keeps_shapeIn (fuel : Nat) (c : CanonId) : Keeps outer (shapeIn fuel c) := by
  induction fuel generalizing c with
  | zero => exact .pure _
  | succ fuel ih =>
    rw [shapeIn]
    refine .get fun g => ?_
    split
    · exact .pure _
    · have hreserve : Keeps outer (reserveShape c (g.canon.typeString c)) := fun _ => rfl
      exact hreserve.bind fun id => (keeps_kindFor ih _ _).bind fun kind =>
        Keeps.bind (.modify fun _ => rfl) fun _ => .pure _

section Entry

variable {γ : Type} {part : Generator → γ}

theorem keeps_entriesFor {entry : ShapeId → Direction → GenM ConverterId}
    (hentry : ∀ shape direction, Keeps part (entry shape direction))
    (needed : List (ShapeId × Direction)) (found : List ConverterId) :
    Keeps part (entriesFor entry needed found) :=
  .of_agrees (agrees_entriesFor (fun shape direction => .of_keeps (hentry shape direction)) needed
    found)

variable (hpart : ∀ g entries events,
  part { g with entries := entries, events := events } = part g)

include hpart

theorem keeps_entryIn (fuel : Nat) (shape : ShapeId) (direction : Direction) :
    Keeps part (entryIn fuel shape direction) := by
  induction fuel generalizing shape direction with
  | zero => exact .pure _
  | succ fuel ih =>
    rw [entryIn]
    refine .get fun g => ?_
    split
    · exact .pure _
    · have hreserve : Keeps part (reserveEntry shape direction) := fun g => hpart g _ _
      exact hreserve.bind fun id => (keeps_entriesFor ih _ _).bind fun deps =>
        Keeps.bind (.modify fun g => hpart g _ g.events) fun _ => .pure _

theorem keeps_entryFor (shape : ShapeId) (direction : Direction) :
    Keeps part (entryFor shape direction) :=
  .get fun _ => keeps_entryIn hpart _ shape direction

end Entry

theorem keeps_shape (graph : TypeGraph) (type : TypeId) : Keeps outer (shape graph type) := by
  have hcanonical : Keeps outer (canonical graph type) := fun _ => rfl
  have hshapeFor : ∀ c, Keeps outer (shapeFor c) := fun c => .get fun g => keeps_shapeIn _ c
  refine hcanonical.bind fun result => ?_
  cases result with
  | error e => exact .pure _
  | ok c => exact (hshapeFor c).bind fun id => .pure _

theorem keeps_add (graph : TypeGraph) (type : TypeId) (direction : Direction) :
    Keeps exports (add graph type direction) := by
  refine Keeps.bind (fun g => congrArg Prod.snd (keeps_shape graph type g)) fun result => ?_
  cases result with
  | error e => exact .pure _
  | ok id =>
    have hentry : Keeps exports (entryFor id direction) :=
      keeps_entryFor (fun _ _ _ => rfl) id direction
    exact hentry.bind fun n => .pure _

/-! ### Requests -/

/-- The shape is that of the type that is asked for, and the converter is that of the shape in the
direction that is asked for. -/
structure Serves (graph : TypeGraph) (g : Generator) (r : Request) (e : Export) : Prop where
  shape : ∃ c, g.canon.Represents graph r.type c ∧ (c, e.shape) ∈ g.shapeOf
  converter : g.keyOf? e.converter = some (e.shape, r.direction)

/-- The request is for this label and direction. -/
def isFor (label : String) (direction : Direction) (r : Request) : Bool :=
  r.label = label && r.direction = direction

/-- After these requests each has its export in the list, and under a label and a direction the
export of the first one is found. -/
structure Exported (graph : TypeGraph) (done : List Request) (g : Generator) : Prop where
  own : ∀ r ∈ done, ∃ e ∈ g.exports.toList, e.label = r.label ∧ e.direction = r.direction ∧
    Serves graph g r e
  first : ∀ label direction, Option.Rel (Serves graph g) (done.find? (isFor label direction))
    (g.exports.toList.find? fun e => e.label = label && e.direction = direction)

variable {graph : TypeGraph} {g g' : Generator} {roots : List ConverterKey} {r first : Request}
  {e : Export}

theorem Serves.mono (h : Serves graph g r e) (hg : g.canon.Interned) (hg' : g'.canon.Interned)
    (hadvances : g.Advances g')
    (hkeys : ∀ id key, g.keyOf? id = some key → g'.keyOf? id = some key) :
    Serves graph g' r e where
  shape := by
    obtain ⟨c, hrep, hc⟩ := h.shape
    exact ⟨c, hrep.mono hg hg' hadvances.canon.extends, hadvances.shapeOf _ hc⟩
  converter := hkeys _ _ h.converter

/-- An export serves two requests just if they ask for the same type. -/
theorem Settled.serves_iff (h : Settled graph roots g) (hfirst : Serves graph g first e)
    (hown : ∃ e, Serves graph g r e) (hdirection : first.direction = r.direction) :
    Serves graph g r e ↔ ∃ u, graph.Unfolds r.type u ∧ graph.Unfolds first.type u := by
  obtain ⟨c, hrep, hc⟩ := hfirst.shape
  constructor
  · rintro ⟨⟨c', hrep', hc'⟩, _⟩
    cases h.tabled.type_unique hc hc'
    exact ⟨_, hrep'.unfolds, hrep.unfolds⟩
  · rintro ⟨u, hu, hfirst'⟩
    obtain ⟨e', ⟨c', hrep', _⟩, _⟩ := hown
    have hsame : g.canon.unfold c' = g.canon.unfold c :=
      (hrep'.unfolds.unique hu).trans (hfirst'.unique hrep.unfolds)
    cases h.canon.interned.eq_of_unfold_eq hrep'.lt_size hrep.lt_size hsame
    exact ⟨⟨c, hrep', hc⟩, hdirection ▸ hfirst.converter⟩

/-- An export that is there already is not added again, but it is found before the new one. -/
theorem find?_addExport (g : Generator) (e : Export) (p : Export → Bool) :
    (g.addExport e).exports.toList.find? p =
      (g.exports.toList.find? p).or ([e].find? p) := by
  rw [addExport]
  split
  · rename_i hcontains
    have hmem : e ∈ g.exports.toList := by simpa using hcontains
    cases hfound : g.exports.toList.find? p with
    | some found => rfl
    | none =>
      have hnot : p e = false := by simpa using List.find?_eq_none.1 hfound e hmem
      rw [List.find?_cons_of_neg (by simp [hnot])]
      rfl
  · rw [Array.toList_push, List.find?_append]

theorem keyOf?_addExport (g : Generator) (e : Export) : (g.addExport e).keyOf? = g.keyOf? := by
  rw [addExport]
  split <;> rfl

theorem mem_addExport {e' : Export} :
    e' ∈ (g.addExport e).exports.toList ↔ e' ∈ g.exports.toList ∨ e' = e := by
  rw [addExport]
  split
  · rename_i hcontains
    have hmem : e ∈ g.exports.toList := by simpa using hcontains
    exact ⟨.inl, fun h => h.elim id fun heq => heq ▸ hmem⟩
  · rw [Array.toList_push, List.mem_append, List.mem_singleton]

namespace Settled

variable (h : Settled graph roots g)

include h

/-- A converter that is asked for has the shape of its type. -/
theorem add_serves {type : TypeId} {direction : Direction} {n : ConverterId}
    (hok : (Generator.add graph type direction g).1 = .ok n) : ∃ id g',
    (Generator.add graph type direction g).2 = g' ∧
    Settled graph (roots ++ [(id, direction)]) g' ∧ g.Advances g' ∧ g'.exports = g.exports ∧
    (∀ i key, g.keyOf? i = some key → g'.keyOf? i = some key) ∧
    g'.keyOf? n = some (id, direction) ∧
    ∃ c, g'.canon.Represents graph type c ∧ (c, id) ∈ g'.shapeOf := by
  have hexports := keeps_add graph type direction g
  rw [Generator.add, bind_apply] at hok
  cases hresult : (Generator.shape graph type g).1 with
  | error e =>
    rw [hresult] at hok
    cases hok
  | ok id =>
    rw [hresult] at hok
    cases hok
    obtain ⟨hsettled, hadvances, c, hrep, hc⟩ := h.shape hresult
    have hlt := hsettled.tabled.lt_size hc
    obtain ⟨hsettled', hadvances'⟩ := hsettled.entryFor hlt direction
    obtain ⟨_, hlinked, hkey⟩ :=
      enters_entryFor (id, direction) hsettled.keyed hsettled.complete hlt
    have hrun : (Generator.add graph type direction g).2 =
        (Generator.entryFor id direction (Generator.shape graph type g).2).2 := by
      rw [Generator.add, bind_apply, hresult]
      rfl
    have hentries : (Generator.shape graph type g).2.entries = g.entries :=
      congrArg Prod.fst (keeps_shape graph type g)
    refine ⟨id, _, hrun, hsettled', hadvances.trans hadvances', hrun ▸ hexports,
      fun i key hi => hlinked.keyOf? ?_, hkey, c, ?_, hadvances'.shapeOf _ hc⟩
    · rw [keyOf?, hentries]
      exact hi
    · exact hrep.mono hsettled.canon.interned hsettled'.canon.interned hadvances'.canon.extends

/-- One more request. -/
theorem exported_request {done : List Request} {n : ConverterId} (hdone : Exported graph done g)
    (hok : (Generator.request graph r g).1 = .ok n) : ∃ roots,
      Settled graph roots (Generator.request graph r g).2 ∧
        Exported graph (done ++ [r]) (Generator.request graph r g).2 := by
  cases hresult : (Generator.add graph r.type r.direction g).1 with
  | error e =>
    rw [Generator.request, bind_apply, hresult] at hok
    cases hok
  | ok n =>
    obtain ⟨id, g', hrun, hsettled, hadvances, hexports, hkeys, hkey, hshape⟩ :=
      h.add_serves hresult
    have hentry : g'.entryShape n = id := by
      obtain ⟨entry, hentry, heq⟩ := Option.map_eq_some_iff.1 hkey
      rw [entryShape, hentry]
      exact congrArg Prod.fst heq
    have hrequest : (Generator.request graph r g).2 =
        g'.addExport ⟨r.label, id, r.direction, n⟩ := by
      rw [Generator.request, bind_apply, hresult, hrun, ← hentry]
      rfl
    rw [hrequest]
    obtain ⟨hexport, hadvances'⟩ := hsettled.addExport ⟨r.label, id, r.direction, n⟩
    have hserves : Serves graph g' r ⟨r.label, id, r.direction, n⟩ := ⟨hshape, hkey⟩
    have hnew := hserves.mono hsettled.canon.interned hexport.canon.interned hadvances'
      fun i key hi => by rwa [keyOf?_addExport]
    have hold : ∀ q e, Serves graph g q e → Serves graph (g'.addExport _) q e := fun q e hq =>
      hq.mono h.canon.interned hexport.canon.interned (hadvances.trans hadvances')
        fun i key hi => by
          rw [keyOf?_addExport]
          exact hkeys i key hi
    refine ⟨_, hexport, fun q hq => ?_, fun label direction => ?_⟩
    · rcases List.mem_append.1 hq with hq | hq
      · obtain ⟨e, he, hlabel, hdirection, hserves⟩ := hdone.own q hq
        exact ⟨e, mem_addExport.2 (.inl (hexports ▸ he)), hlabel, hdirection, hold q e hserves⟩
      · cases List.mem_singleton.1 hq
        exact ⟨_, mem_addExport.2 (.inr rfl), rfl, rfl, hnew⟩
    · rw [find?_addExport, List.find?_append, hexports]
      have hbefore := hdone.first label direction
      generalize done.find? (isFor label direction) = asked at hbefore
      generalize g.exports.toList.find? _ = found at hbefore
      cases hbefore with
      | some hserves => exact .some (hold _ _ hserves)
      | none =>
        have hsame : (r.label = label && r.direction = direction) = isFor label direction r := rfl
        rw [Option.none_or, Option.none_or, List.find?_singleton, List.find?_singleton, hsame]
        split
        · exact .some hnew
        · exact .none

end Settled

/-- A run of requests. -/
theorem exported_requests {rs done : List Request} (h : Settled graph roots g)
    (hdone : Exported graph done g) (hok : (requests graph rs g).1 = .ok ()) :
    ∃ roots, Settled graph roots (requests graph rs g).2 ∧
      Exported graph (done ++ rs) (requests graph rs g).2 := by
  induction rs generalizing done roots g with
  | nil =>
    rw [List.append_nil]
    exact ⟨roots, h, hdone⟩
  | cons r rest ih =>
    cases hresult : (request graph r g).1 with
    | error e =>
      rw [requests, bind_apply, hresult] at hok
      cases hok
    | ok n =>
      rw [requests, bind_apply, hresult] at hok ⊢
      obtain ⟨roots', hsettled, hexported⟩ := h.exported_request hdone hresult
      rw [List.append_cons]
      exact ih hsettled hexported hok

theorem exported_empty (graph : TypeGraph) : Exported graph [] empty where
  own := nofun
  first _ _ := .none

end Generator

namespace Lowered

open Generator

/-- The request that a label stands for. -/
def first? (l : Lowered) (label : String) (direction : Direction) : Option Request :=
  l.requests.find? (isFor label direction)

/-- The state in which the requests end. -/
def generator (l : Lowered) : Generator := (Generator.requests l.graph l.requests .empty).2

theorem exported_of_generate {l : Lowered} {b : Bindings} (h : l.generate.1 = .ok b) :
    ∃ roots, b = l.generator.finish ∧ Settled l.graph roots l.generator ∧
      Exported l.graph l.requests l.generator := by
  rcases hrun : Generator.requests l.graph l.requests .empty with ⟨⟨label, cause⟩ | ⟨⟩, g⟩
  · rw [generate, StateT.run, hrun] at h
    cases h
  · rw [generate, StateT.run, hrun] at h
    cases h
    have hrequests := exported_requests (settled_empty l.graph) (exported_empty l.graph)
      (congrArg Prod.fst hrun)
    rw [hrun] at hrequests
    obtain ⟨roots, hsettled, hexported⟩ := hrequests
    rw [generator, hrun]
    exact ⟨roots, rfl, hsettled, hexported⟩

/-- Each request has an export of its own. Under its label and direction the export of the first
request with them is found, and this is its own just if the two ask for the same type. -/
theorem export?_of_generate {l : Lowered} {b : Bindings} (h : l.generate.1 = .ok b) :
    b = l.generator.finish ∧ ∀ r ∈ l.requests,
      (∃ e ∈ b.exports, e.label = r.label ∧ e.direction = r.direction ∧
        l.generator.Serves l.graph r e) ∧
      ∃ first e, l.first? r.label r.direction = some first ∧
        b.export? r.label r.direction = some e ∧ l.generator.Serves l.graph first e ∧
        (l.generator.Serves l.graph r e ↔
          ∃ u, l.graph.Unfolds r.type u ∧ l.graph.Unfolds first.type u) := by
  obtain ⟨roots, rfl, hsettled, hexported⟩ := exported_of_generate h
  refine ⟨rfl, fun r hr => ⟨hexported.own r hr, ?_⟩⟩
  have hrel := hexported.first r.label r.direction
  rw [first?, Bindings.export?]
  cases hfirst : l.requests.find? (isFor r.label r.direction) with
  | none =>
    have hnot := List.find?_eq_none.1 hfirst r hr
    simp [isFor] at hnot
  | some first =>
    rw [hfirst] at hrel
    have hdirection : first.direction = r.direction := by
      have hmatch := List.find?_some hfirst
      simp only [isFor, Bool.and_eq_true, decide_eq_true_eq] at hmatch
      exact hmatch.2
    obtain ⟨e, _, _, _, hown⟩ := hexported.own r hr
    generalize hfound : List.find? _ l.generator.exports.toList = found at hrel
    cases hrel with
    | some hserves =>
      exact ⟨first, _, rfl, hfound, hserves, hsettled.serves_iff hserves ⟨e, hown⟩ hdirection⟩

end Lowered

/-! ### Labels -/

namespace Declaration

open Lowering

variable {d : Declaration} {l : Lowered} {nodes : PlaceNodes}

def typeLabels (d : Declaration) : List String :=
  (d.types.filter (·.request)).map fun t => d.qualifiedName t.name

/-- The functions and methods that are requested, with their labels. -/
def calls (d : Declaration) : List (String × TypePlace) :=
  (d.functions.filter (·.request)).map (fun f => (d.qualifiedName f.name, .function f)) ++
    (d.methods.filter (·.request)).map fun m => (m.label d.package.name, .method m)

/-- No two types, functions or methods have one label, and a further conversion shares one only if
it is the name of that type. -/
structure LabelsApart (d : Declaration) : Prop where
  nodup : (d.typeLabels ++ d.calls.map (·.1)).Nodup
  convert : ∀ c ∈ d.convert, c.type ∈ d.typeLabels ++ d.calls.map (·.1) →
    c.type ∈ d.typeLabels ∧ IsTypeName c.type ∧ predeclaredKind? c.type = none

theorem hasDot_of_mem_typeLabels {label : String} (h : label ∈ d.typeLabels) :
    hasDot label = true := by
  obtain ⟨t, _, rfl⟩ := List.mem_map.1 h
  exact hasDot_qualify _ _

/-- What a label stands for. -/
inductive Labelled (d : Declaration) (g : TypeGraph) (nodes : PlaceNodes) (label : String)
    (id : TypeId) : Prop
  | type : label ∈ d.typeLabels → g.lookup label = some id → Labelled d g nodes label id
  | call (place : TypePlace) : (label, place) ∈ d.calls → (place, id) ∈ nodes →
    Labelled d g nodes label id
  | conversion (c : ConvertDecl) : label ∉ d.typeLabels ++ d.calls.map (·.1) → c.type = label →
    (.conversion c, id) ∈ nodes → Labelled d g nodes label id

theorem Layout.mem_places (h : d.Layout l nodes) {place : TypePlace} {id : TypeId}
    (hmem : (place, id) ∈ nodes) : place ∈ d.places :=
  h.laid.places_eq ▸ List.mem_map_of_mem (f := Prod.fst) hmem

theorem Layout.labelled (h : d.Layout l nodes) (hapart : d.LabelsApart) {r : Request}
    (hr : r ∈ l.requests) : d.Labelled l.graph nodes r.label r.type := by
  cases h.laid.asked r hr with
  | type t id direction hmem hrequest hid =>
    exact .type (List.mem_map_of_mem (List.mem_filter.2 ⟨hmem, hrequest⟩)) hid
  | function f id direction hmem hrequest =>
    have hf : f ∈ d.functions := by simpa [places] using h.mem_places hmem
    refine .call (.function f) (List.mem_append_left _ ?_) hmem
    exact List.mem_map_of_mem (List.mem_filter.2 ⟨hf, hrequest⟩)
  | method m id direction hmem hrequest =>
    have hm : m ∈ d.methods := by simpa [places] using h.mem_places hmem
    refine .call (.method m) (List.mem_append_right _ ?_) hmem
    exact List.mem_map_of_mem (List.mem_filter.2 ⟨hm, hrequest⟩)
  | conversion c id direction hmem hwanted =>
    have hc : c ∈ d.convert := by simpa [places] using h.mem_places hmem
    by_cases hlabel : c.type ∈ d.typeLabels ++ d.calls.map (·.1)
    · obtain ⟨htype, hname, hkind⟩ := hapart.convert c hc hlabel
      refine .type htype ?_
      obtain ⟨e, hread, he⟩ := h.laid.stands _ hmem
      cases (typeIn?_of_read (TypeExpr.read_name hname)).symm.trans hread
      rw [TypeExpr.At, Means, if_neg List.not_mem_nil, hkind] at he
      have he : l.graph.lookup (qualify d.package.name c.type) = some id := he
      rwa [qualify_of_hasDot (hasDot_of_mem_typeLabels htype)] at he
    · exact .conversion c hlabel rfl hmem

/-- Equal labels are for equal types. -/
theorem Layout.alike (h : d.Layout l nodes) (hapart : d.LabelsApart) {r r' : Request}
    (hr : r ∈ l.requests) (hr' : r' ∈ l.requests) (heq : r.label = r'.label) :
    l.graph.Alike r.type r'.type := by
  have hapartLists := List.nodup_append.1 hapart.nodup
  have htype : r.label ∈ d.typeLabels → r.label ∉ d.calls.map (·.1) := fun ht hc =>
    hapartLists.2.2 _ ht _ hc rfl
  have hown := h.labelled hapart hr
  have hother := h.labelled hapart hr'
  rw [← heq] at hother
  cases hown with
  | type hmem hid =>
    cases hother with
    | type _ hid' =>
      rw [Option.some.inj (hid.symm.trans hid')]
      exact TypeGraph.alike_refl _ _
    | call place hcall _ => exact absurd (List.mem_map_of_mem hcall) (htype hmem)
    | conversion c hnot _ _ => exact absurd (List.mem_append_left _ hmem) hnot
  | call place hcall hplace =>
    cases hother with
    | type hmem' _ => exact absurd (List.mem_map_of_mem hcall) (htype hmem')
    | call place' hcall' hplace' =>
      cases List.inj_on_of_nodup_map hapartLists.2.1 hcall hcall' rfl
      exact (h.laid.stands _ hplace).alike (h.laid.stands _ hplace')
    | conversion c hnot _ _ =>
      exact absurd (List.mem_append_right _ (List.mem_map_of_mem hcall)) hnot
  | conversion c hnot htext hplace =>
    cases hother with
    | type hmem' _ => exact absurd (List.mem_append_left _ hmem') hnot
    | call place' hcall' _ =>
      exact absurd (List.mem_append_right _ (List.mem_map_of_mem hcall')) hnot
    | conversion c' _ htext' hplace' =>
      obtain ⟨e, hread, he⟩ := h.laid.stands _ hplace
      obtain ⟨e', hread', he'⟩ := h.laid.stands _ hplace'
      rw [htext] at hread
      rw [htext'] at hread'
      cases hread.symm.trans hread'
      exact he.alike (namesAlike_means _ _) he'

/-- Of the requests of a declaration one has an export of its own under its label just if it asks
for the same type as the first request with this label and direction. All have when the labels of
the declaration are apart. -/
theorem export?_of_lower {b : Bindings} (h : d.lower = .ok l) (hb : l.generate.1 = .ok b) :
    b = l.generator.finish ∧
    (∀ r ∈ l.requests,
      (∃ e ∈ b.exports, e.label = r.label ∧ e.direction = r.direction ∧
        l.generator.Serves l.graph r e) ∧
      ∃ first e, l.first? r.label r.direction = some first ∧
        b.export? r.label r.direction = some e ∧ l.generator.Serves l.graph first e ∧
        (l.generator.Serves l.graph r e ↔
          ∃ u, l.graph.Unfolds r.type u ∧ l.graph.Unfolds first.type u)) ∧
    (d.LabelsApart → ∀ r ∈ l.requests, ∃ e, b.export? r.label r.direction = some e ∧
      l.generator.Serves l.graph r e) := by
  obtain ⟨nodes, _, hlayout⟩ := exists_layout h
  obtain ⟨hfinish, hexports⟩ := Lowered.export?_of_generate hb
  refine ⟨hfinish, hexports, fun hapart r hr => ?_⟩
  obtain ⟨⟨_, _, _, _, ⟨c, hrep, _⟩, _⟩, first, e, hfirst, hfound, _, hiff⟩ := hexports r hr
  refine ⟨e, hfound, hiff.2 ⟨_, hrep.unfolds, ?_⟩⟩
  have hlabel : r.label = first.label := by
    have hmatch := List.find?_some hfirst
    simp only [Generator.isFor, Bool.and_eq_true, decide_eq_true_eq] at hmatch
    exact hmatch.1.symm
  have hmem : first ∈ l.requests := List.mem_of_find?_eq_some hfirst
  exact hlayout.alike hapart hr hmem hlabel _ hrep.unfolds

/-- A type that is converted by its name once more, and two conversions with one text. -/
def ferry : Declaration where
  package := ⟨"ferry", none⟩
  types := [⟨"Boat", "struct \x7b Name string; Next *Boat \x7d", false, [], true⟩]
  functions := [⟨"Boats", "func() []Boat", true⟩]
  methods := [⟨"*Boat", "Sail", "func(to string) error", true⟩]
  convert := [⟨"ferry.Boat", .both⟩, ⟨"[]Boat", .only .toScript⟩, ⟨"[]Boat", .only .fromScript⟩]

theorem labelsApart_ferry : ferry.LabelsApart where
  nodup := by decide +kernel
  convert := by decide +kernel

theorem export?_of_lower_ferry : ∃ l b e, ferry.lower = .ok l ∧ l.generate.1 = .ok b ∧
    ferry.LabelsApart ∧ ⟨"ferry.Boat", 0, .fromScript⟩ ∈ l.requests ∧
    b.export? "ferry.Boat" .fromScript = some e ∧
    l.generator.Serves l.graph ⟨"ferry.Boat", 0, .fromScript⟩ e := by
  have hrun : (ferry.lower.toOption.bind fun l => l.generate.1.toOption.map fun _ =>
      decide (⟨"ferry.Boat", 0, .fromScript⟩ ∈ l.requests)) = some true := by
    decide +kernel
  cases hlower : ferry.lower with
  | error e =>
    rw [hlower] at hrun
    cases hrun
  | ok l =>
    rw [hlower] at hrun
    obtain ⟨b, hb, hmem⟩ := Option.map_eq_some_iff.1 hrun
    have hb : l.generate.1 = .ok b := by
      cases hresult : l.generate.1 <;> rw [hresult] at hb <;> cases hb
      rfl
    obtain ⟨_, _, hserved⟩ := export?_of_lower hlower hb
    obtain ⟨e, hfound, hserves⟩ := hserved labelsApart_ferry _ (of_decide_eq_true hmem)
    exact ⟨l, b, e, rfl, hb, labelsApart_ferry, of_decide_eq_true hmem, hfound, hserves⟩

/-- A type and a function of one name. -/
def depot : Declaration where
  package := ⟨"depot", none⟩
  types := [⟨"Size", "int", false, [], true⟩]
  functions := [⟨"Size", "func() string", true⟩]
  methods := []
  convert := []

/-- The name leads to the export of the type. That of the function is in the list, but nothing leads
to it. -/
theorem function_hidden_by_type : depot.check = .ok () ∧ ∃ l b r e e', depot.lower = .ok l ∧
    l.generate.1 = .ok b ∧ r ∈ l.requests ∧ b.export? r.label r.direction = some e ∧
    (Generator.shape l.graph r.type l.generator).1 = .ok e'.shape ∧ e' ∈ b.exports ∧
    e'.label = e.label ∧ e'.direction = e.direction ∧ e'.shape ≠ e.shape := by
  refine ⟨rfl, ?_⟩
  have hrun : (depot.lower.toOption.bind fun l => l.generate.1.toOption.map fun b =>
      decide (⟨"depot.Size", 3, .toScript⟩ ∈ l.requests ∧
        b.export? "depot.Size" .toScript = some ⟨"depot.Size", 0, .toScript, 0⟩ ∧
        (Generator.shape l.graph 3 l.generator).1 = .ok 1 ∧
        ⟨"depot.Size", 1, .toScript, 2⟩ ∈ b.exports)) = some true := by
    decide +kernel
  cases hlower : depot.lower with
  | error e =>
    rw [hlower] at hrun
    cases hrun
  | ok l =>
    rw [hlower] at hrun
    obtain ⟨b, hb, hfacts⟩ := Option.map_eq_some_iff.1 hrun
    have hb : l.generate.1 = .ok b := by
      cases hresult : l.generate.1 <;> rw [hresult] at hb <;> cases hb
      rfl
    obtain ⟨hmem, hfound, hshape, hown⟩ := of_decide_eq_true hfacts
    exact ⟨l, b, _, _, _, rfl, hb, hmem, hfound, hshape, hown, rfl, rfl, nofun⟩

end Declaration
end ScriptBind
