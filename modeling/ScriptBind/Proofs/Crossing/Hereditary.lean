import ScriptBind.Proofs.Crossing.Congruence

/-!
# ScriptBind.Proofs.Crossing.Hereditary

Properties that a conversion has because its steps have them.

* `CrossM.Hereditary` - such a property.
* `CrossM.Hereditary.toScript_of_not_hasParts`, `CrossM.Hereditary.fromScript_of_not_hasParts` -
  the rules without parts have it; those with parts do if the conversions of the parts do, by
  `Shape.toScript_congr` and `Shape.fromScript_congr`.
* `CrossM.Quiet` - nothing is reported. Conversions are quiet.
-/

namespace ScriptBind

/-- The steps that go on or fail have the property, and so do the three changes of the shared state
that conversions make. -/
structure CrossM.Hereditary (P : ∀ {α : Type}, CrossM α → Prop) : Prop where
  pure : ∀ {α : Type} (a : α), P (Pure.pure a : CrossM α)
  fail : ∀ {α : Type} (e : ConversionError), P (CrossM.fail e : CrossM α)
  bind : ∀ {α β : Type} {m : CrossM α} {k : α → CrossM β}, P m → (∀ a, P (k a)) → P (m >>= k)
  mapError : ∀ {α : Type} {m : CrossM α} (f : ConversionError → ConversionError),
    P m → P (m.mapError f)
  freshId : P CrossM.freshId
  scriptSide : ∀ element direction native, P (CrossM.update (·.scriptSide element direction native))
  nativeSide : ∀ element direction script, P (CrossM.update (·.nativeSide element direction script))

namespace CrossM.Hereditary

variable {P : ∀ {α : Type}, CrossM α → Prop} (h : Hereditary P)

include h

theorem congruence (own : ConversionError → Prop) : Congruence (fun _ m => P m) own where
  pure := h.pure
  fail _ := h.fail _
  bind := h.bind
  within _ := h.mapError _

theorem orFail {α : Type} {p : Prop} [Decidable p] (a : α) (e : ConversionError) :
    P (if p then Pure.pure a else CrossM.fail e : CrossM α) := by
  split
  · exact h.pure a
  · exact h.fail e

/-! ### Towards the script -/

theorem newHandle (typeName : String) (v : NativeValue) : P (ScriptBind.newHandle typeName v) :=
  h.bind h.freshId fun _ => h.pure _

theorem objectToScript (typeName : String) (object : Object) :
    P (ScriptBind.objectToScript typeName object) := by
  rw [ScriptBind.objectToScript]
  split
  · exact h.pure _
  · exact h.newHandle _ _

theorem scalarToScript (s : Scalar) (v : NativeValue) : P (s.toScript v) := by
  cases s with
  | any =>
    simp only [Scalar.toScript]
    unfold anyToScript
    split <;> try exact h.pure _
    · exact h.objectToScript _ _
    · split
      · exact h.pure _
      · exact h.newHandle _ _
  | _ =>
    unfold Scalar.toScript
    dsimp only
    split <;> first | exact h.pure _ | exact h.fail _

theorem toScript_of_not_hasParts {shape : Shape} (hparts : shape.kind.hasParts = false)
    (f : ShapeId → ToScript) (v : NativeValue) : P (shape.toScript f v) := by
  obtain ⟨id, name, kind⟩ := shape
  cases kind with
  | scalar s => exact h.scalarToScript s v
  | func signature =>
    simp only [Shape.toScript]
    unfold funcToScript
    split
    · exact h.pure _
    · split <;> exact h.pure _
    · exact h.fail _
  | chan direction element =>
    simp only [Shape.toScript]
    unfold chanToScript
    split
    · exact h.pure _
    · exact h.bind (h.scriptSide _ _ _) fun _ => h.pure _
    · exact h.fail _
  | interface methods =>
    simp only [Shape.toScript]
    unfold interfaceToScript
    split
    · exact h.pure _
    · exact h.objectToScript _ _
    · exact h.pure _
    · exact h.fail _
  | boxed reason =>
    simp only [Shape.toScript]
    unfold boxedToScript
    split
    · exact h.pure _
    · exact h.newHandle _ _
  | _ => cases hparts

/-! ### Towards native code -/

theorem wrap (signature : FuncShape) (f : ScriptFn) : P (ScriptBind.wrap signature f) :=
  h.bind h.freshId fun _ => h.pure _

theorem bindMethods (interface : String) (context : Context) (bound : List (String × NativeFunc))
    (methods : List MethodShape) : P (ScriptBind.bindMethods interface context bound methods) := by
  induction methods generalizing bound with
  | nil => exact h.pure _
  | cons m rest ih =>
    rw [ScriptBind.bindMethods]
    split
    · exact h.fail _
    · exact h.bind (h.wrap _ _) fun _ => ih _

theorem synthesize (interface : String) (methods : List MethodShape) (context : Context) :
    P (ScriptBind.synthesize interface methods context) :=
  h.bind (h.bindMethods _ _ _ _) fun _ => h.bind h.freshId fun _ => h.pure _

theorem fromScript_of_not_hasParts {shape : Shape} (hparts : shape.kind.hasParts = false)
    (f : ShapeId → FromScript) (x : Value) : P (shape.fromScript f x) := by
  obtain ⟨id, name, kind⟩ := shape
  cases kind with
  | scalar s =>
    simp only [Shape.fromScript]
    cases s <;> cases x <;> simp only [Scalar.fromScript] <;>
      first | exact h.pure _ | exact h.fail _
  | func signature =>
    simp only [Shape.fromScript]
    unfold funcFromScript
    split
    · exact h.pure _
    · exact h.orFail _ _
    · exact h.pure _
    · exact h.bind (h.wrap _ _) fun _ => h.pure _
    · exact h.orFail _ _
    · exact h.fail _
  | chan direction element =>
    simp only [Shape.fromScript]
    unfold chanFromScript
    split
    · exact h.pure _
    · exact h.orFail _ _
    · exact h.bind (h.nativeSide _ _ _) fun _ => h.pure _
    · exact h.orFail _ _
    · exact h.fail _
  | interface methods =>
    simp only [Shape.fromScript]
    unfold interfaceFromScript
    split
    · exact h.pure _
    · exact h.orFail _ _
    · exact h.bind (h.synthesize _ _ _) fun _ => h.pure _
    · exact h.fail _
  | boxed reason =>
    simp only [Shape.fromScript]
    unfold boxedFromScript
    split
    · exact h.orFail _ _
    · exact h.fail _
  | _ => cases hparts

/-! ### Bounded conversions -/

section Bounded

variable (hendless : ∀ {α : Type}, P (CrossM.endless : CrossM α)) (shapes : ShapeTable)

include hendless

theorem convertTo (bound : Nat) (id : ShapeId) (v : NativeValue) :
    P (ScriptBind.convertTo shapes bound id v) := by
  induction bound generalizing id v with
  | zero => exact hendless
  | succ bound ih =>
    rw [ScriptBind.convertTo]
    split
    · exact h.fail _
    · rename_i shape _
      cases hparts : shape.kind.hasParts with
      | false => exact h.toScript_of_not_hasParts hparts _ v
      | true =>
        exact Shape.toScript_congr (f := ScriptBind.convertTo shapes bound) (h.congruence _) hparts
          fun id x _ => ih id x

theorem convertFrom (bound : Nat) (id : ShapeId) (x : Value) :
    P (ScriptBind.convertFrom shapes bound id x) := by
  induction bound generalizing id x with
  | zero => exact hendless
  | succ bound ih =>
    rw [ScriptBind.convertFrom]
    split
    · exact h.fail _
    · rename_i shape _
      cases hparts : shape.kind.hasParts with
      | false => exact h.fromScript_of_not_hasParts hparts _ x
      | true =>
        exact Shape.fromScript_congr (f := ScriptBind.convertFrom shapes bound) (h.congruence _)
          hparts (fun id y _ => ih id y) fun id _ => ih id x

end Bounded
end CrossM.Hereditary

/-! ### Reports -/

namespace CrossM

/-- Nothing is reported, and no report is lost. -/
def Quiet {α : Type} (m : CrossM α) : Prop := ∀ b, (m b).2.reports = b.reports

theorem quiet_hereditary : Hereditary Quiet where
  pure _ _ := rfl
  fail _ _ := rfl
  bind {_ _ m k} hm hk b := by
    rw [bind_apply]
    rcases hrun : m b with ⟨e | a, b'⟩
    · exact (congrArg (·.2.reports) hrun).symm.trans (hm b)
    · exact (hk a b').trans ((congrArg (·.2.reports) hrun).symm.trans (hm b))
  mapError {_ m} f hm b := by
    rw [mapError_apply]
    rcases hrun : m b with ⟨(e | _) | a, b'⟩ <;>
      exact (congrArg (·.2.reports) hrun).symm.trans (hm b)
  freshId _ := rfl
  scriptSide element direction native b := by
    rw [update_apply, Boundary.scriptSide]
    split <;> rfl
  nativeSide element direction script b := by
    rw [update_apply, Boundary.nativeSide]
    split <;> rfl

end CrossM

namespace Library

open CrossM (Quiet quiet_hereditary)

theorem toScript_quiet (lib : Library) (id : ShapeId) (v : NativeValue) :
    Quiet (lib.toScript id v) :=
  quiet_hereditary.mapError _ (quiet_hereditary.convertTo (fun _ => rfl) _ _ _ _)

theorem fromScript_quiet (lib : Library) (id : ShapeId) (x : Value) :
    Quiet (lib.fromScript id x) :=
  quiet_hereditary.mapError _ (quiet_hereditary.convertFrom (fun _ => rfl) _ _ _ _)

end Library
end ScriptBind
