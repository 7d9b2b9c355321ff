import ScriptBind.Proofs.Binding.Convertible
import ScriptBind.Proofs.Binding.WellFormed

/-!
# ScriptBind.Proofs.Binding.Boxed

Which types become boxes.

* `TypeGraph.Loops` - a struct can be settled before it is known that a field has no rule.
* `Generator.Boxes` - the boxes are the unconvertible types, such structs apart.
* `Generator.boxes_after` - this holds of any run without failures.
* `Generator.isBoxed_eq` - the order of a run does not matter, such structs apart.
-/

namespace ScriptBind

open Relation (ReflTransGen)

/-- At some depth of fields there is a struct with a field of an unconvertible type that this struct
is itself a part of. -/
def TypeGraph.Loops (graph : TypeGraph) (u : Unfolding) : Prop :=
  ∃ v w, ReflTransGen graph.HasField u v ∧ graph.HasField v w ∧ graph.Unconvertible w ∧
    ReflTransGen graph.Contains w v

namespace Generator

variable {graph : TypeGraph} {g : Generator} {roots : List ConverterKey}

/-- The shape is that of a type with this tree. -/
def IsShapeOf (g : Generator) (id : ShapeId) (u : Unfolding) : Prop :=
  ∃ c, (c, id) ∈ g.shapeOf ∧ g.canon.unfold c = u

/-- What the bindings have for the nodes that are asked for and for all types that these contain. -/
structure Boxes (graph : TypeGraph) (asked : List (TypeId × ShapeId)) (g : Generator) : Prop where
  asked : ∀ p ∈ asked, ∃ u, graph.Unfolds p.1 u ∧ g.IsShapeOf p.2 u
  rows : ∀ id < g.finish.shapes.size, ∃ u, g.IsShapeOf id u
  rules : ∀ id u, g.IsShapeOf id u → ∃ kind, g.finish.rule? id = some kind ∧
    (kind.isBoxed = true → graph.Unconvertible u) ∧
    (graph.Unconvertible u → kind.isBoxed = true ∨ graph.Loops u)
  /-- A field is boxed only if its type leads back to the struct. -/
  fields : ∀ id u fields, g.IsShapeOf id u → g.finish.rule? id = some (.record fields) →
    ∀ f ∈ fields, ∃ v kind, g.IsShapeOf f.shape v ∧ graph.HasField u v ∧
      g.finish.rule? f.shape = some kind ∧
      (kind.isBoxed = true → graph.Unconvertible v ∧ ReflTransGen graph.Contains v u)

namespace Settled

variable (h : Settled graph roots g)

include h

theorem exists_rule {c : CanonId} {id : ShapeId} (hid : (c, id) ∈ g.shapeOf) :
    ∃ kind, g.kindOf? id = some kind ∧ g.Justified c kind := by
  obtain ⟨kind, hkind, _⟩ := h.complete id (h.tabled.lt_size hid)
  exact ⟨kind, hkind, h.tabled.justified _ hid kind hkind⟩

theorem boxed_field {c : CanonId} {id : ShapeId} {fields : List FieldShape}
    (hid : (c, id) ∈ g.shapeOf) (hkind : g.kindOf? id = some (.record fields)) {f : FieldShape}
    (hf : f ∈ fields) : ∃ d kind, g.canon.HasField c d ∧ (d, f.shape) ∈ g.shapeOf ∧
      g.kindOf? f.shape = some kind ∧ (kind.isBoxed = true →
        g.canon.Unconvertible d ∧ ReflTransGen g.canon.Contains d c) := by
  have hjustified := h.tabled.justified _ hid _ hkind
  obtain ⟨d, hd, hshape⟩ := hjustified.record fields rfl f hf
  obtain ⟨kind, hrule, hwhy⟩ := h.exists_rule hshape
  refine ⟨d, kind, hd, hshape, hrule, fun hboxed => ⟨hwhy.boxed hboxed, ?_⟩⟩
  rcases (hjustified.unboxed rfl).2 d hd with ⟨rule, ⟨id', hid', hrule'⟩, hopen⟩ | hback
  · rw [h.tabled.shape_unique hid' hshape] at hrule'
    cases hrule.symm.trans hrule'
    rw [hboxed] at hopen
    cases hopen
  · exact hback

variable (hunique : graph.UniqueNames)

include hunique

theorem unconvertible_iff {c : CanonId} (hc : c < g.canon.size) :
    g.canon.Unconvertible c ↔ graph.Unconvertible (g.canon.unfold c) :=
  h.canon.unconvertible_iff h.resolved hunique hc

theorem hasField {c d : CanonId} (hd : g.canon.HasField c d) :
    graph.HasField (g.canon.unfold c) (g.canon.unfold d) := by
  obtain ⟨kind, hkind, _⟩ := id hd
  exact (h.canon.hasField_iff h.resolved hunique (Session.lt_size_of_structure? hkind)).2
    ⟨d, hd, rfl⟩

theorem contains_of_leads {c d : CanonId} (hlead : ReflTransGen g.canon.Contains c d) :
    ReflTransGen graph.Contains (g.canon.unfold c) (g.canon.unfold d) :=
  hlead.lift g.canon.unfold fun _ _ => h.canon.contains h.resolved hunique

/-- By induction on why the type is unconvertible. A field that is not known to have a rule leads
back to the struct. -/
theorem boxed_or_loops {c : CanonId} (hc : g.canon.Unconvertible c) {id : ShapeId}
    {kind : ShapeKind} (hid : (c, id) ∈ g.shapeOf) (hkind : g.kindOf? id = some kind) :
    kind.isBoxed = true ∨ graph.Loops (g.canon.unfold c) := by
  induction hc generalizing id kind with
  | barred hbarred =>
    left
    by_contra hopen
    exact ((h.tabled.justified _ hid kind hkind).unboxed (Bool.eq_false_of_not_eq_true hopen)).1
      hbarred
  | @field c d hd hu ih =>
    refine or_iff_not_imp_left.2 fun hopen => ?_
    have hopen := Bool.eq_false_of_not_eq_true hopen
    have hfield := h.hasField hunique hd
    have hlt := h.tabled.canon.lt_size hd.contains
    rcases ((h.tabled.justified _ hid kind hkind).unboxed hopen).2 d hd with
      ⟨rule, ⟨id', hid', hrule⟩, hrule_open⟩ | hback
    · rcases ih hid' hrule with hboxed | ⟨v, w, hv, hloop⟩
      · rw [hrule_open] at hboxed
        cases hboxed
      · exact ⟨v, w, .head hfield hv, hloop⟩
    · exact ⟨_, _, .refl, hfield, (h.unconvertible_iff hunique hlt).1 hu,
        h.contains_of_leads hunique hback⟩

theorem boxes {asked : List (TypeId × ShapeId)}
    (hasked : ∀ p ∈ asked, ∃ c, g.canon.Represents graph p.1 c ∧ (c, p.2) ∈ g.shapeOf) :
    Boxes graph asked g where
  asked p hp := by
    obtain ⟨c, hrep, hid⟩ := hasked p hp
    exact ⟨_, hrep.unfolds, c, hid, rfl⟩
  rows id hid := by
    obtain ⟨c, hc⟩ := h.tabled.exists_type (size_shapeTable g ▸ hid)
    exact ⟨_, c, hc, rfl⟩
  rules := by
    rintro id u ⟨c, hid, rfl⟩
    rw [rule?_finish h.complete]
    obtain ⟨kind, hkind, hwhy⟩ := h.exists_rule hid
    have hiff := h.unconvertible_iff hunique (h.tabled.types _ hid)
    refine ⟨kind, hkind, fun hboxed => hiff.1 (hwhy.boxed hboxed), fun hu => ?_⟩
    exact h.boxed_or_loops hunique (hiff.2 hu) hid hkind
  fields := by
    rintro id u fields ⟨c, hid, rfl⟩
    rw [rule?_finish h.complete]
    intro hkind f hf
    obtain ⟨d, kind, hd, hshape, hrule, hback⟩ := h.boxed_field hid hkind hf
    refine ⟨_, kind, ⟨d, hshape, rfl⟩, h.hasField hunique hd, hrule, fun hboxed => ?_⟩
    obtain ⟨hu, hlead⟩ := hback hboxed
    exact ⟨(h.unconvertible_iff hunique (h.tabled.types _ hshape)).1 hu,
      h.contains_of_leads hunique hlead⟩

end Settled

/-- Whatever the graph and whatever is asked for, in any order, as long as nothing fails. -/
theorem boxes_after {calls : List Call} (hunique : graph.UniqueNames)
    (hok : Succeeds graph calls empty) :
    Boxes graph (shapesAsked graph calls empty) (after graph calls empty) :=
  (settled_after (settled_empty graph) hok).1.boxes hunique fun _ =>
    represents_of_mem_shapesAsked (settled_empty graph) hok

/-- Two runs box the same types, unless an unconvertible field leads back to its struct. -/
theorem isBoxed_eq {calls calls' : List Call} (hunique : graph.UniqueNames)
    (hok : Succeeds graph calls empty) (hok' : Succeeds graph calls' empty) {type : TypeId}
    {id id' : ShapeId} (hid : (type, id) ∈ shapesAsked graph calls empty)
    (hid' : (type, id') ∈ shapesAsked graph calls' empty)
    (hloops : ∀ u, graph.Unfolds type u → ¬ graph.Loops u) {kind kind' : ShapeKind}
    (hkind : (after graph calls empty).finish.rule? id = some kind)
    (hkind' : (after graph calls' empty).finish.rule? id' = some kind') :
    kind.isBoxed = kind'.isBoxed := by
  have hiff : ∀ {run : List Call} {i : ShapeId} {rule : ShapeKind} {u : Unfolding},
      graph.Unfolds type u → Succeeds graph run empty → (type, i) ∈ shapesAsked graph run empty →
      (after graph run empty).finish.rule? i = some rule →
      (rule.isBoxed = true ↔ graph.Unconvertible u) := by
    intro run i rule u hu hrun hi hrule
    have hboxes := (settled_after (settled_empty graph) hrun).1.boxes hunique fun _ =>
      represents_of_mem_shapesAsked (settled_empty graph) hrun
    obtain ⟨v, hv, hshape⟩ := hboxes.asked _ hi
    obtain ⟨found, hfound, hboxed, hunboxed⟩ := hboxes.rules i v hshape
    cases hfound.symm.trans hrule
    rw [hv.unique hu] at hboxed hunboxed
    exact ⟨hboxed, fun h => (hunboxed h).resolve_right (hloops u hu)⟩
  obtain ⟨c, hrep, _⟩ := represents_of_mem_shapesAsked (settled_empty graph) hok hid
  have hu := hrep.unfolds
  exact Bool.eq_iff_iff.2 ((hiff hu hok hid hkind).trans (hiff hu hok' hid' hkind').symm)

/-- Two structs: one has the other as a field, which has a pointer to it and a field without a
rule. -/
def ring : TypeGraph where
  nodes := #[.named "ring.A" (some 2) [], .named "ring.B" (some 5) [], .struct [⟨"b", 1⟩],
    .pointer 0, .complex 128, .struct [⟨"a", 3⟩, ⟨"c", 4⟩]]
  names := [("ring.A", 0), ("ring.B", 1)]

theorem uniqueNames_ring : ring.UniqueNames := by
  have hname : ∀ {a name}, ring.IsNamed a name →
      a = 0 ∧ name = "ring.A" ∨ a = 1 ∧ name = "ring.B" := by
    rintro a name ⟨_, _, ha⟩
    match a with
    | 0 => cases ha; exact .inl ⟨rfl, rfl⟩
    | 1 => cases ha; exact .inr ⟨rfl, rfl⟩
    | 2 | 3 | 4 | 5 | _ + 6 => cases ha
  intro a b name ha hb
  rcases hname ha with ⟨rfl, rfl⟩ | ⟨rfl, rfl⟩ <;> rcases hname hb with ⟨rfl, h⟩ | ⟨rfl, h⟩
  · rfl
  · exact absurd h (by decide)
  · exact absurd h (by decide)
  · rfl

theorem boxes_after_ring : Succeeds ring [.shape 1, .shape 0] empty ∧
    shapesAsked ring [.shape 1, .shape 0] empty = [(1, 0), (0, 2)] ∧
    Boxes ring (shapesAsked ring [.shape 1, .shape 0] empty)
      (after ring [.shape 1, .shape 0] empty) := by
  have hok : Succeeds ring [.shape 1, .shape 0] empty := by decide +kernel
  exact ⟨hok, by decide +kernel, boxes_after uniqueNames_ring hok⟩

/-- If the field is asked for first, it counts as a type with a rule when the struct is settled. -/
theorem boxed_order_matters :
    Succeeds ring [.shape 0] empty ∧ Succeeds ring [.shape 1, .shape 0] empty ∧
    (after ring [.shape 0] empty).finish.rule? 0 =
      some (.boxed "field b has unconvertible type ring.B") ∧
    (after ring [.shape 1, .shape 0] empty).finish.rule? 2 = some (.record [⟨"b", 0⟩]) ∧
    (after ring [.shape 1, .shape 0] empty).finish.rule? 0 =
      some (.boxed "field c has unconvertible type complex128") := by
  decide +kernel

end Generator
end ScriptBind
