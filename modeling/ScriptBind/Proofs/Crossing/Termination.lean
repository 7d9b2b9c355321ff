import Mathlib.Logic.Relation
import ScriptBind.Binding.Generator
import ScriptBind.Proofs.Crossing.Bound

/-!
# ScriptBind.Proofs.Crossing.Termination

Which conversions come to an end.

* `ShapeTable.PointsTo` - from the shape of a pointer to that of its target.
* `ShapeTable.fromScript_terminates` - towards native code there is always an end if no pointers
  lead back to themselves; by induction on the value and, at one value, along the pointers.
* `Library.terminates_iff` - and only then.
* `pointer_to_itself_endless` - a declared type whose conversion has no end.
-/

namespace ScriptBind

open CrossM (Terminates fail endless)

/-! ### Pointers that lead back -/

namespace ShapeTable

def PointsTo (shapes : ShapeTable) (id element : ShapeId) : Prop :=
  ∃ n name, shapes.get? id = some ⟨n, name, .pointer element⟩

variable {shapes : ShapeTable} {id element : ShapeId} {x : Value}

theorem pointsTo_of_redirect? (h : shapes.redirect? x id = some element) :
    shapes.PointsTo id element := by
  obtain ⟨⟨n, name, kind⟩, hid, h⟩ := Option.bind_eq_some_iff.1 h
  cases kind with
  | pointer target =>
    have htarget : target = element := by
      simp only [Shape.redirect?] at h
      split at h <;> simp_all
    exact ⟨n, name, htarget ▸ hid⟩
  | _ => simp [Shape.redirect?] at h

/-- A truth value is nothing to a pointer but what it may point to. -/
theorem PointsTo.redirect? (h : shapes.PointsTo id element) (b : Bool) :
    shapes.redirect? (.bool b) id = some element := by
  obtain ⟨n, name, hid⟩ := h
  rw [ShapeTable.redirect?, hid]
  rfl

theorem transGen_of_follow {r : Nat} (h : follow (shapes.redirect? x) (r + 1) id = some element) :
    Relation.TransGen shapes.PointsTo id element := by
  induction r generalizing id with
  | zero =>
    rw [follow] at h
    obtain ⟨next, hnext, h⟩ := Option.bind_eq_some_iff.1 h
    cases h
    exact .single (pointsTo_of_redirect? hnext)
  | succ r ih =>
    rw [follow] at h
    obtain ⟨next, hnext, h⟩ := Option.bind_eq_some_iff.1 h
    exact .head (pointsTo_of_redirect? hnext) (ih h)

theorem follow_isSome_of_transGen (h : Relation.TransGen shapes.PointsTo id id) (b : Bool)
    (k : Nat) {start : ShapeId} (hstart : Relation.TransGen shapes.PointsTo start id) :
    (follow (shapes.redirect? (.bool b)) k start).isSome := by
  induction k generalizing start with
  | zero => rfl
  | succ k ih =>
    obtain ⟨next, hnext, hrest⟩ := Relation.TransGen.head'_iff.1 hstart
    rw [follow, hnext.redirect? b]
    exact ih (Relation.TransGen.trans_right hrest h)

theorem fromScript_terminates (hacyclic : ∀ id, ¬ Relation.TransGen shapes.PointsTo id id)
    (id : ShapeId) (x : Value) : Terminates (shapes.fromScript id x) := by
  induction hd : x.depth using Nat.strongRecOn generalizing x id with
  | _ d ihx =>
    subst hd
    have hends : follow (shapes.redirect? x) (shapes.size + 1) id = none := by
      by_contra hne
      obtain ⟨_, y, r, _, hcycle⟩ := follow_repeats (fun _ _ => lt_size_of_redirect?)
        (Option.isSome_iff_ne_none.2 hne)
      exact hacyclic y (transGen_of_follow hcycle)
    -- along the pointers that are followed at this value
    generalize shapes.size + 1 = k at hends
    induction k generalizing id with
    | zero => cases hends
    | succ k ih =>
      rw [fromScript_eq]
      split
      · exact .fail _
      · rename_i shape hid
        cases hp : shape.kind.hasParts with
        | false => exact CrossM.terminates_hereditary.fromScript_of_not_hasParts hp _ x
        | true =>
          refine Shape.fromScript_congr (f := shapes.fromScript)
            (CrossM.terminates_hereditary.congruence _) hp (fun id y hy => ?_)
            fun element helement => ?_
          · exact ihx y.depth (Value.depth_lt_of_mem_parts hy) id y rfl
          · have hredirect : shapes.redirect? x id = some element := by
              rw [ShapeTable.redirect?, hid]
              exact helement
            rw [follow, hredirect] at hends
            exact ih element hends

theorem fromScript_eq_endless (h : Relation.TransGen shapes.PointsTo id id) (b : Bool) :
    shapes.fromScript id (.bool b) = endless :=
  convertFrom_eq_endless _ fun k => follow_isSome_of_transGen h b k h

end ShapeTable

theorem Library.fromScript_terminates {lib : Library}
    (hacyclic : ∀ id, ¬ Relation.TransGen lib.shapes.PointsTo id id) (id : ShapeId) (x : Value) :
    Terminates (lib.fromScript id x) := by
  rw [Library.fromScript_eq]
  exact CrossM.terminates_mapError.2 (ShapeTable.fromScript_terminates hacyclic id x)

/-- Towards the script every conversion comes to an end. Towards native code every conversion does
if, and only if, no pointer type leads back to itself over pointer types alone. -/
theorem Library.terminates_iff (lib : Library) :
    (∀ id v, Terminates (lib.toScript id v)) ∧
      ((∀ id x, Terminates (lib.fromScript id x)) ↔
        ∀ id, ¬ Relation.TransGen lib.shapes.PointsTo id id) := by
  refine ⟨lib.toScript_terminates, fun h id hcycle => ?_, Library.fromScript_terminates⟩
  have hends := h id (.bool true)
  rw [Library.fromScript_eq, CrossM.terminates_mapError,
    ShapeTable.fromScript_eq_endless hcycle] at hends
  exact hends .empty rfl

/-! ### A pointer to itself -/

/-- `type T *T` -/
def loopDeclaration : Declaration :=
  ⟨⟨"loop", none⟩, [⟨"T", "*T", false, [], true⟩], [], [], []⟩

def loopLibrary : Library := ⟨.ofList [("loop.T", .pointer 0)], .empty⟩

theorem shapes_loopDeclaration :
    (loopDeclaration.lower.toOption.bind fun l => l.generate.1.toOption.map (·.shapes)) =
      some loopLibrary.shapes := by
  decide +kernel

/-- The shapes are those generated for the declaration. -/
theorem pointer_to_itself_endless :
    (loopDeclaration.lower.toOption.bind fun l => l.generate.1.toOption.map (·.shapes)) =
        some loopLibrary.shapes ∧
      loopLibrary.fromScript 0 (.string "x") .empty = (.error .endless, .empty) ∧
      ¬ ∀ id x, Terminates (loopLibrary.fromScript id x) := by
  have hendless : loopLibrary.fromScript 0 (.string "x") .empty = (.error .endless, .empty) := rfl
  refine ⟨shapes_loopDeclaration, hendless, fun h => h 0 (.string "x") .empty ?_⟩
  rw [hendless]

end ScriptBind
