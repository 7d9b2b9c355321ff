import ScriptBind.Proofs.Binding.Depth
import ScriptBind.Proofs.Binding.Exports
import ScriptBind.Proofs.Canon.Depth
import ScriptBind.Proofs.Declaration.Accepted

/-!
# ScriptBind.Proofs.Binding.Ends

A run of the generator comes to an end by itself, whatever types refer to each other. The recursions
have bounds; runs that are cut off elsewhere, or in another way, are the same.

* `Generator.Cutoff` - where the recursions are cut off, and how.
* `Generator.Cutoff.run`, `Generator.Cutoff.generate` - a call and a run that are cut off so.
* `Generator.cutoff_run_eq` - a call that is cut off late enough is not cut off.
* `Generator.Once` - nothing has been entered twice, and the sizes of the tables have bounds.
* `Generator.Unrepeated` - what has its place is not made a second time.
* `Declaration.generate_ends` - the run of a declaration that is lowered.
-/

namespace ScriptBind
namespace Generator

/-! ### Sizes -/

section Sizes

variable {graph : TypeGraph} {g : Generator}

theorem Tabled.rows_le (h : g.Tabled) : g.rows.size ≤ g.canon.size := by
  have hlength := congrArg List.length h.ids
  have hsubset : g.shapeOf.map (·.1) ⊆ List.range g.canon.size := fun c hc => by
    obtain ⟨p, hp, rfl⟩ := List.mem_map.1 hc
    exact List.mem_range.2 (h.types p hp)
  have hle := (List.subperm_of_subset h.nodup hsubset).length_le
  simp at hlength hle
  omega

theorem Standing.entries_le (h : g.Standing graph) : g.entries.size ≤ 2 * g.rows.size := by
  have hsubset : g.entries.toList.map (·.key) ⊆
      List.range g.rows.size ×ˢ [.toScript, .fromScript] := fun key hkey => by
    obtain ⟨e, he, rfl⟩ := List.mem_map.1 hkey
    have hlt := h.sound.entries _ (List.mem_map_of_mem he)
    have hdirection : ∀ d : Direction, d ∈ [.toScript, .fromScript] := fun d => by
      cases d <;> decide
    exact List.mem_product.2 ⟨List.mem_range.2 hlt, hdirection e.direction⟩
  have hle := (List.subperm_of_subset h.keyed.nodup hsubset).length_le
  rw [List.length_map, Array.length_toList, List.length_product, List.length_range] at hle
  exact hle.trans_eq (Nat.mul_comm _ _)

end Sizes

/-! ### Runs that are cut off -/

/-- The depths at which the recursions are cut off, and what is done there in place of making a
shape or an entry. To normalize a type fails there. -/
structure Cutoff where
  normal : Nat
  shape : Nat
  entry : Nat
  noShape : CanonId → GenM ShapeId
  noEntry : ShapeId → Direction → GenM ConverterId

namespace Cutoff

variable (k : Cutoff) (graph : TypeGraph)

def canonical (type : TypeId) : GenM (Except CanonError CanonId) := do
  let g ← get
  let (result, canon) := (Session.normalizeIn graph k.normal true type).run g.canon
  set { g with canon := canon }
  return result

def shapeOf (type : TypeId) : GenM (Except CanonError ShapeId) := do
  match ← k.canonical graph type with
  | .error e => return .error e
  | .ok canon => return .ok (← shapeFrom k.noShape k.shape canon)

def add (type : TypeId) (direction : Direction) : GenM (Except CanonError ConverterId) := do
  match ← k.shapeOf graph type with
  | .error e => return .error e
  | .ok id => return .ok (← entryFrom k.noEntry k.entry id direction)

def request (r : Request) : GenM (Except CanonError ConverterId) := do
  match ← k.add graph r.type r.direction with
  | .error e => return .error e
  | .ok id =>
    modify fun g => g.addExport ⟨r.label, g.entryShape id, r.direction, id⟩
    return .ok id

def run : Call → GenM (Except CanonError Nat)
  | .add type direction => k.add graph type direction
  | .request r => k.request graph r
  | .shape type => k.shapeOf graph type

def requests : List Request → GenM (Except (String × CanonError) Unit)
  | [] => return .ok ()
  | r :: rest => do
    match ← k.request graph r with
    | .error e => return .error (r.label, e)
    | .ok _ => requests rest

def generate (l : Lowered) : Except GenerateError Bindings × List GeneratorEvent :=
  let (result, g) := (k.requests l.graph l.requests).run .empty
  match result with
  | .error (label, cause) => (.error ⟨label, cause⟩, g.events.toList)
  | .ok () => (.ok g.finish, g.events.toList)

/-- The depths are beyond those that a graph of this size leads to. -/
structure Above (size : Nat) : Prop where
  normal : (size + 1) * (size + 1) ≤ k.normal
  shape : size < k.shape
  entry : 2 * size < k.entry

end Cutoff

variable {graph : TypeGraph} {g : Generator} {k : Cutoff}

/-! ### Calls -/

section Calls

variable (h : g.Standing graph) (hguarded : ∀ id, ¬ Relation.TransGen graph.Inside id id)
  (hk : k.Above graph.size)

include h hguarded hk

theorem cutoff_canonical_eq (type : TypeId) :
    k.canonical graph type g = canonical graph type g := by
  have hrun := Session.normalizeIn_eq_normalize hguarded h.canon hk.normal type
  have hcut : k.canonical graph type g =
      ((Session.normalizeIn graph k.normal true type g.canon).1,
        { g with canon := (Session.normalizeIn graph k.normal true type g.canon).2 }) := rfl
  rw [hcut, hrun]
  rfl

/-- The session has no more types than the graph has nodes. -/
theorem cutoff_shape_eq (type : TypeId) : k.shapeOf graph type g = shape graph type g := by
  have hsize := (h.canonical type).standing.canon.size_le
  rw [Cutoff.shapeOf, shape, bind_apply, bind_apply, cutoff_canonical_eq h hguarded hk]
  cases (canonical graph type g).1 with
  | error e => rfl
  | ok c =>
    have hshape := shapeFrom_eq_shapeFor k.noShape (Nat.lt_of_le_of_lt hsize hk.shape) c
    show (shapeFrom k.noShape k.shape c >>= _) _ = (shapeFor c >>= _) _
    rw [bind_apply, bind_apply, hshape]

/-- There are no more rows than types. -/
theorem cutoff_add_eq (type : TypeId) (direction : Direction) :
    k.add graph type direction g = add graph type direction g := by
  have hstanding := (h.shape type).1.standing
  have hrows := hstanding.tabled.rows_le
  have hsize := hstanding.canon.size_le
  have habove := hk.entry
  rw [Cutoff.add, add, bind_apply, bind_apply, cutoff_shape_eq h hguarded hk]
  cases (shape graph type g).1 with
  | error e => rfl
  | ok id =>
    have hentry : entryFrom k.noEntry k.entry id direction (shape graph type g).2 =
        entryFor id direction (shape graph type g).2 :=
      entryFrom_eq_entryFor k.noEntry (by omega) id direction
    show (entryFrom k.noEntry k.entry id direction >>= _) _ = (entryFor id direction >>= _) _
    rw [bind_apply, bind_apply, hentry]

theorem cutoff_request_eq (r : Request) : k.request graph r g = request graph r g := by
  rw [Cutoff.request, bind_apply, cutoff_add_eq h hguarded hk]
  rfl

theorem cutoff_run_eq (c : Call) : k.run graph c g = c.run graph g := by
  cases c with
  | add type direction => exact cutoff_add_eq h hguarded hk type direction
  | request r => exact cutoff_request_eq h hguarded hk r
  | shape type => exact cutoff_shape_eq h hguarded hk type

theorem cutoff_requests_eq (rs : List Request) : k.requests graph rs g = requests graph rs g := by
  induction rs generalizing g with
  | nil => rfl
  | cons r rest ih =>
    rw [Cutoff.requests, requests, bind_apply, bind_apply, cutoff_request_eq h hguarded hk]
    cases (request graph r g).1 with
    | error e => rfl
    | ok id => exact ih (h.request r).standing

end Calls

/-! ### Failures -/

section Failures

variable {e : CanonError}

/-- Only to normalize a type fails. -/
theorem canonical_of_shape_error {type : TypeId} (h : (shape graph type g).1 = .error e) :
    (canonical graph type g).1 = .error e := by
  cases hresult : (canonical graph type g).1 with
  | error e' => rwa [shape_of_error hresult] at h
  | ok c =>
    rw [shape_of_ok hresult] at h
    cases h

theorem shape_of_add_error {type : TypeId} {direction : Direction}
    (h : (add graph type direction g).1 = .error e) : (shape graph type g).1 = .error e := by
  rw [add, bind_apply] at h
  cases hresult : (shape graph type g).1 with
  | error e' => rwa [hresult] at h
  | ok id =>
    rw [hresult] at h
    cases h

theorem add_of_request_error {r : Request} (h : (request graph r g).1 = .error e) :
    (add graph r.type r.direction g).1 = .error e := by
  rw [request, bind_apply] at h
  cases hresult : (add graph r.type r.direction g).1 with
  | error e' => rwa [hresult] at h
  | ok id =>
    rw [hresult] at h
    cases h

theorem canonical_of_run_error {c : Call} (h : (c.run graph g).1 = .error e) :
    (canonical graph c.type g).1 = .error e := by
  cases c with
  | add type direction => exact canonical_of_shape_error (shape_of_add_error h)
  | request r => exact canonical_of_shape_error (shape_of_add_error (add_of_request_error h))
  | shape type => exact canonical_of_shape_error h

end Failures

theorem run_ne_endless (h : g.Standing graph)
    (hguarded : ∀ id, ¬ Relation.TransGen graph.Inside id id) (c : Call) (id : TypeId) :
    (c.run graph g).1 ≠ .error (.endless id) := fun hrun =>
  Session.normalize_ne_endless hguarded h.canon id (canonical_of_run_error hrun)

theorem requests_ne_endless (h : g.Standing graph)
    (hguarded : ∀ id, ¬ Relation.TransGen graph.Inside id id) (rs : List Request) (label : String)
    (id : TypeId) : (requests graph rs g).1 ≠ .error (label, .endless id) := by
  induction rs generalizing g with
  | nil => exact nofun
  | cons r rest ih =>
    rw [requests, bind_apply]
    cases hresult : (request graph r g).1 with
    | error e =>
      intro hrun
      cases hrun
      exact run_ne_endless h hguarded (.request r) id hresult
    | ok n => exact ih (h.request r).standing

/-- A run of requests is a run of calls, up to the first that fails. -/
theorem exists_calls (rs : List Request) (g : Generator) : ∃ calls,
    calls <+: rs.map Call.request ∧ (requests graph rs g).2 = after graph calls g := by
  induction rs generalizing g with
  | nil => exact ⟨[], List.prefix_refl _, rfl⟩
  | cons r rest ih =>
    rw [requests, bind_apply, List.map_cons]
    cases (request graph r g).1 with
    | error e => exact ⟨[.request r], List.prefix_append [_] _, rfl⟩
    | ok n =>
      obtain ⟨calls, hcalls, hafter⟩ := ih (request graph r g).2
      exact ⟨.request r :: calls, (List.prefix_cons_inj _).2 hcalls, hafter⟩

/-! ### Nothing twice -/

/-- The tables of a generator never become shorter, so they tell what it has begun to make: no name
was entered twice, each row is for another canonical type, and each entry for another converter.
Their sizes are bounded by that of the graph. -/
structure Once (graph : TypeGraph) (g : Generator) : Prop where
  resolved : ∀ id id' name underlying underlying',
    g.canon.kind? id = some (.named name underlying) →
    g.canon.kind? id' = some (.named name underlying') → id = id'
  shaped : (g.shapeOf.map (·.1)).Nodup
  rows : g.shapeOf.map (·.2) = (List.range g.rows.size).reverse
  registered : (g.entries.toList.map (·.key)).Nodup
  canonical_le : g.canon.size ≤ graph.size
  rows_le : g.rows.size ≤ g.canon.size
  entries_le : g.entries.size ≤ 2 * g.rows.size

theorem Standing.once (h : g.Standing graph) : g.Once graph where
  resolved id id' _ _ _ hid hid' := h.canon.interned.distinct id id' _ _ hid hid' rfl
  shaped := h.tabled.nodup
  rows := h.tabled.ids
  registered := h.keyed.nodup
  canonical_le := h.canon.size_le
  rows_le := h.tabled.rows_le
  entries_le := h.entries_le

/-- What has its place in a table is found there, so that the recursion does not go on from it, and
keeps its place. -/
structure Unrepeated (graph : TypeGraph) (g : Generator) : Prop where
  named : ∀ type name, graph.IsNamed type name → g.canon.Knows name → ∀ register, ∃ id s,
    Session.normalizeIn graph 1 register type g.canon = (.ok id, s) ∧ s.kinds = g.canon.kinds
  shaped : ∀ p ∈ g.shapeOf, ∃ id, ∀ bottom, shapeFrom bottom 1 p.1 g = (id, g)
  registered : ∀ id key, g.keyOf? id = some key → ∃ found, ∀ bottom,
    entryFrom bottom 1 key.1 key.2 g = (found, g)
  keeps_named : ∀ fuel register type,
    g.canon.Keeps (Session.normalizeIn graph fuel register type g.canon).2
  keeps_shaped : ∀ c, ∀ p ∈ g.shapeOf, p ∈ (shapeFor c g).2.shapeOf
  keeps_registered : ∀ shape direction id key, g.keyOf? id = some key →
    (entryFor shape direction g).2.keyOf? id = some key

theorem unrepeated (graph : TypeGraph) (g : Generator) : g.Unrepeated graph where
  named _ _ hname hknows register := Session.normalizeIn_of_knows hname hknows register
  shaped _ hp := shapeFrom_of_mem hp
  registered _ _ hkey := entryFrom_of_mem hkey
  keeps_named fuel register type id kind hid :=
    (Session.stable_kind? id kind).normalizeIn graph fuel register type g.canon hid
  keeps_shaped c _ hp := mem_shapeOf_shapeFor c hp
  keeps_registered shape direction _ _ hkey := keyOf?_entryFor shape direction hkey

/-! ### Runs -/

/-- Any further call comes to its end, and enters nothing twice. -/
structure CallsEnd (graph : TypeGraph) (k : Cutoff) (g : Generator) : Prop where
  run : ∀ c, k.run graph c g = c.run graph g
  not_endless : ∀ (c : Call) id, (c.run graph g).1 ≠ .error (.endless id)
  retains : ∀ c : Call, g.Retains (c.run graph g).2
  once : g.Once graph

theorem Standing.callsEnd (h : g.Standing graph)
    (hguarded : ∀ id, ¬ Relation.TransGen graph.Inside id id) (hk : k.Above graph.size) :
    g.CallsEnd graph k where
  run := cutoff_run_eq h hguarded hk
  not_endless := run_ne_endless h hguarded
  retains c := (h.run c).retains
  once := h.once

end Generator

open Generator

namespace Declaration

variable {d : Declaration} {l : Lowered} {k : Cutoff}

/-- For a declaration that is lowered, the recursions over types, over shapes and over entries end
by themselves, whichever types refer to themselves and to each other: if they are cut off beyond a
depth that the size of the graph tells, in whatever way, then the run is the same, and so is each
call from wherever a generator has come to, also by calls that failed. No name, no type and no
converter has been entered twice there. In any state, also where a recursion is under way, what has
its place is not made again and does not lose it. -/
theorem generate_ends (h : d.lower = .ok l) (hk : k.Above l.graph.size) :
    k.generate l = l.generate ∧
    (∀ e, l.generate.1 = .error e → ∀ id, e.cause ≠ .endless id) ∧
    (∃ calls, calls <+: l.requests.map Call.request ∧
      l.generator = after l.graph calls .empty) ∧
    (∀ calls, (after l.graph calls .empty).CallsEnd l.graph k) ∧
    ∀ g : Generator, g.Unrepeated l.graph := by
  have hguarded := (layered_of_lower h).1.guarded
  have hempty := (settled_empty l.graph).standing
  refine ⟨?_, fun e he id hcause => ?_, exists_calls _ _,
    fun calls => (ends_after hempty calls).standing.callsEnd hguarded hk, unrepeated l.graph⟩
  · rw [Cutoff.generate, StateT.run, cutoff_requests_eq hempty hguarded hk]
    rfl
  · have hrun := requests_ne_endless hempty hguarded l.requests
    rcases hresult : requests l.graph l.requests .empty with ⟨⟨label, cause⟩ | ⟨⟩, g⟩
    · rw [Lowered.generate, StateT.run, hresult] at he
      cases he
      cases hcause
      exact hrun label id (congrArg Prod.fst hresult)
    · rw [Lowered.generate, StateT.run, hresult] at he
      cases he

/-- Two types that refer to each other and to themselves, and a function between them. -/
def orchard : Declaration where
  package := ⟨"orchard", none⟩
  types := [⟨"Tree", "struct \x7b Owner *Farm; Grafts []Tree \x7d", false, [], true⟩,
    ⟨"Farm", "struct \x7b Trees map[string]Tree; Next *Farm \x7d", false, [], true⟩]
  functions := [⟨"Sell", "func(Tree) *Farm", true⟩]
  methods := []
  convert := []

/-- Cut off as early as possible, and with other ends. -/
def orchardCutoff (size : Nat) : Cutoff where
  normal := (size + 1) * (size + 1)
  shape := size + 1
  entry := 2 * size + 1
  noShape c := pure c
  noEntry shape _ := pure shape

theorem generate_ends_orchard : ∃ l, orchard.lower = .ok l ∧
    (orchardCutoff l.graph.size).Above l.graph.size ∧
    (orchardCutoff l.graph.size).generate l = l.generate ∧
    (∀ e, l.generate.1 = .error e → ∀ id, e.cause ≠ .endless id) ∧
    (∃ calls, calls <+: l.requests.map Call.request ∧
      l.generator = after l.graph calls .empty) ∧
    (∀ calls, (after l.graph calls .empty).CallsEnd l.graph (orchardCutoff l.graph.size)) ∧
    ∀ g : Generator, g.Unrepeated l.graph := by
  have hlowers : orchard.lower.toOption.isSome := by decide +kernel
  cases hlower : orchard.lower with
  | error e =>
    rw [hlower] at hlowers
    cases hlowers
  | ok l =>
    have habove : (orchardCutoff l.graph.size).Above l.graph.size :=
      ⟨Nat.le_refl _, Nat.lt_succ_self _, Nat.lt_succ_self _⟩
    exact ⟨l, rfl, habove, generate_ends hlower habove⟩

end Declaration
end ScriptBind
