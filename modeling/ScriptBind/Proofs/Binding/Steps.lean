import ScriptBind.Proofs.Binding.Runs

/-!
# ScriptBind.Proofs.Binding.Steps

Steps of a generator that go through the parts of a type, or through what a converter calls, given
what is done for each part.

* `Generator.Gauge` - what steps may change, and a measure of what is left to be done.
* `GenM.Agrees` - two steps that do the same while the measure is low.
* `Generator.agrees_kindFor`, `Generator.agrees_entriesFor` - so do the steps through all parts if
  those for one part do.
* `GenM.Keeps` - a step that leaves a part of the state alone.
-/

namespace ScriptBind

/-! ### Two steps that do the same -/

/-- What a step may change, and how much is left to be done, which no such step raises. -/
structure Generator.Gauge where
  Allows : Generator → Generator → Prop
  left : Generator → Nat
  refl : ∀ g, Allows g g
  trans : ∀ {g g' g''}, Allows g g' → Allows g' g'' → Allows g g''
  le : ∀ {g g'}, Allows g g' → left g' ≤ left g

namespace GenM

open Generator (Gauge)

variable {α β : Type} {γ : Gauge} {n : Nat}

/-- From a state in which less than `n` is left the steps do the same, as the gauge allows. -/
def Agrees (γ : Gauge) (n : Nat) (m m' : GenM α) : Prop :=
  ∀ g, γ.left g < n → m' g = m g ∧ γ.Allows g (m g).2

namespace Agrees

theorem same {m : GenM α} (h : ∀ g, γ.Allows g (m g).2) : Agrees γ n m m := fun g _ => ⟨rfl, h g⟩

theorem pure (a : α) : Agrees γ n (Pure.pure a) (Pure.pure a) := .same γ.refl

theorem bind {m m' : GenM α} {k k' : α → GenM β} (hm : Agrees γ n m m')
    (hk : ∀ a, Agrees γ n (k a) (k' a)) : Agrees γ n (m >>= k) (m' >>= k') := by
  intro g hg
  obtain ⟨heq, hallows⟩ := hm g hg
  obtain ⟨heq', hallows'⟩ := hk (m g).1 (m g).2 (Nat.lt_of_le_of_lt (γ.le hallows) hg)
  refine ⟨?_, γ.trans hallows hallows'⟩
  rw [Generator.bind_apply, Generator.bind_apply, heq, heq']

theorem get {k k' : Generator → GenM β} (hk : ∀ g, Agrees γ n (k g) (k' g)) :
    Agrees γ n (MonadState.get >>= k) (MonadState.get >>= k') := fun g => hk g g

theorem ite {p : Prop} [Decidable p] {m₁ m₂ m₁' m₂' : GenM α} (h₁ : Agrees γ n m₁ m₁')
    (h₂ : Agrees γ n m₂ m₂') : Agrees γ n (if p then m₁ else m₂) (if p then m₁' else m₂') := by
  split
  · exact h₁
  · exact h₂

theorem mapM {f f' : α → GenM β} (hf : ∀ x, Agrees γ n (f x) (f' x)) (xs : List α) :
    Agrees γ n (xs.mapM f) (xs.mapM f') := by
  induction xs with
  | nil => exact .pure _
  | cons x rest ih =>
    rw [List.mapM_cons, List.mapM_cons]
    exact (hf x).bind fun y => ih.bind fun ys => .pure _

/-- From a later state, in which less is left, or where the steps agree as it is. -/
theorem later {m m' : GenM α} {g g' : Generator} (hallows : γ.Allows g g') (hg : γ.left g < n + 1)
    (h : γ.left g' < γ.left g ∧ Agrees γ n m m' ∨ Agrees γ (n + 1) m m') :
    m' g' = m g' ∧ γ.Allows g (m g').2 := by
  have hrun : m' g' = m g' ∧ γ.Allows g' (m g').2 := by
    rcases h with ⟨hless, h⟩ | h
    · exact h g' (Nat.lt_of_lt_of_le hless (Nat.le_of_lt_succ hg))
    · exact h g' (Nat.lt_of_le_of_lt (γ.le hallows) hg)
  exact ⟨hrun.1, γ.trans hallows hrun.2⟩

end Agrees
end GenM

/-! ### Steps that leave a part of the state alone -/

section Keeps

variable {α β δ : Type} {part : Generator → δ} {n : Nat}

/-- The part of the state stays as it is, and nothing is measured. -/
def Generator.Gauge.of (part : Generator → δ) : Generator.Gauge where
  Allows g g' := part g' = part g
  left _ := 0
  refl _ := rfl
  trans h h' := h'.trans h
  le _ := Nat.le_refl 0

namespace GenM

def Keeps (part : Generator → δ) (m : GenM α) : Prop := ∀ g, part (m g).2 = part g

theorem Agrees.of_keeps {m : GenM α} (h : Keeps part m) : Agrees (.of part) n m m := .same h

namespace Keeps

theorem of_agrees {m : GenM α} (h : Agrees (.of part) 1 m m) : Keeps part m :=
  fun g => (h g Nat.one_pos).2

theorem pure (a : α) : Keeps part (Pure.pure a : GenM α) := fun _ => rfl

theorem bind {m : GenM α} {k : α → GenM β} (hm : Keeps part m) (hk : ∀ a, Keeps part (k a)) :
    Keeps part (m >>= k) := fun g => (hk (m g).1 (m g).2).trans (hm g)

theorem get {k : Generator → GenM β} (hk : ∀ g, Keeps part (k g)) :
    Keeps part (MonadState.get >>= k) := fun g => hk g g

theorem modify {f : Generator → Generator} (hf : ∀ g, part (f g) = part g) :
    Keeps part (modify f : GenM PUnit) := hf

end Keeps
end GenM
end Keeps

/-! ### Parts one after the other -/

namespace Generator

open GenM (Agrees)

variable {γ : Gauge} {n : Nat}

section Parts

variable {shape shape' : CanonId → GenM ShapeId}
  (hshape : ∀ d, Agrees γ n (shape d) (shape' d))

include hshape

theorem agrees_funcShape (f : CanonFunc) :
    Agrees γ n (funcShape shape f) (funcShape shape' f) := by
  rw [funcShape, funcShape]
  refine .ite (.pure _) (.get fun g => .ite (.pure _) ?_)
  exact (Agrees.mapM hshape f.params).bind fun params =>
    (Agrees.mapM hshape f.results).bind fun results => .pure _

theorem agrees_methodShapes (methods : List CanonMethod) :
    Agrees γ n (methodShapes shape methods) (methodShapes shape' methods) := by
  induction methods with
  | nil => exact .pure _
  | cons m rest ih =>
    refine (agrees_funcShape hshape m.func).bind fun result => ?_
    cases result with
    | error reason => exact .pure _
    | ok func =>
      refine ih.bind fun result => ?_
      cases result <;> exact .pure _

theorem agrees_fieldShapes (fields : List (String × CanonId)) :
    Agrees γ n (fieldShapes shape fields) (fieldShapes shape' fields) := by
  induction fields with
  | nil => exact .pure _
  | cons f rest ih =>
    refine (hshape f.2).bind fun id => .get fun g => .ite (.pure _) ?_
    refine ih.bind fun result => ?_
    cases result <;> exact .pure _

theorem agrees_kindFor
    (hdegrade : ∀ name reason g, γ.Allows g (degrade name reason g).2)
    (hbridge : ∀ element direction g, γ.Allows g (registerBridge element direction g).2)
    (name : String) (kind : Option CanonKind) :
    Agrees γ n (kindFor shape name kind) (kindFor shape' name kind) := by
  have hdegrade : ∀ reason, Agrees γ n (degrade name reason) (degrade name reason) :=
    fun reason => .same (hdegrade name reason)
  cases kind with
  | none => exact hdegrade _
  | some kind =>
    cases kind with
    | complex bits | unsafePointer | typeParam param | named other underlying =>
      exact hdegrade _
    | slice element | array length element | pointer element =>
      exact (hshape element).bind fun _ => .pure _
    | map key value =>
      exact .get fun g => .ite ((hshape value).bind fun _ => .pure _) (hdegrade _)
    | func f =>
      refine (agrees_funcShape hshape f).bind fun result => ?_
      cases result with
      | error reason => exact hdegrade _
      | ok func => exact .pure _
    | chan direction element =>
      exact (hshape element).bind fun id =>
        (Agrees.same (hbridge id direction)).bind fun _ => .pure _
    | interface methods =>
      refine (agrees_methodShapes hshape methods).bind fun result => ?_
      cases result with
      | error reason => exact hdegrade _
      | ok methods => exact .pure _
    | struct aliasName fields =>
      refine (agrees_fieldShapes hshape fields).bind fun result => ?_
      cases result with
      | error reason => exact hdegrade _
      | ok fields => exact .pure _
    | _ => exact .pure _

end Parts

theorem agrees_entriesFor {entry entry' : ShapeId → Direction → GenM ConverterId}
    (hentry : ∀ shape direction, Agrees γ n (entry shape direction) (entry' shape direction))
    (needed : List ConverterKey) (found : List ConverterId) :
    Agrees γ n (entriesFor entry needed found) (entriesFor entry' needed found) := by
  induction needed generalizing found with
  | nil => exact .pure _
  | cons key rest ih =>
    rw [entriesFor, entriesFor]
    exact .get fun g => .ite (ih found) ((hentry key.1 key.2).bind fun id => ih _)

end Generator
end ScriptBind
