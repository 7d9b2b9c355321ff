import ScriptBind.Crossing.Interpreter
import ScriptBind.Proofs.Crossing.Outcome
import ScriptBind.Proofs.Value.Parts

/-!
# ScriptBind.Proofs.Crossing.Congruence

A rule is given how to convert the parts of a value. When two ways to convert the parts are
related, so are the two conversions of the value, for every relation that `pure`, `fail`, `>>=`
and `within` respect.

* `CrossM.Congruence` - such a relation; `fail` only for the errors that a rule raises itself.
* `Shape.toScript_congr`, `Shape.fromScript_congr` - the rules respect it.
* `Shape.redirect?` - the one case in which a rule goes on with the value itself.
-/

namespace ScriptBind

/-- The errors that the rule of a type with this name raises itself. -/
inductive OwnError (typeName : String) : ConversionError → Prop where
  | mismatch (actual : String) : OwnError typeName (.typeMismatch typeName actual)
  | length (expected actual : Nat) : OwnError typeName (.lengthMismatch typeName expected actual)
  | nil (value : Int64) : OwnError typeName (.invalidNil typeName value)
  | field (field : String) : OwnError typeName (.missingField typeName field)

structure CrossM.Congruence (R : ∀ {α : Type}, CrossM α → CrossM α → Prop)
    (own : ConversionError → Prop) : Prop where
  pure : ∀ {α : Type} (a : α), R (Pure.pure a : CrossM α) (Pure.pure a)
  fail : ∀ {α : Type} {e : ConversionError}, own e → R (CrossM.fail e : CrossM α) (CrossM.fail e)
  bind : ∀ {α β : Type} {m m' : CrossM α} {k k' : α → CrossM β},
    R m m' → (∀ a, R (k a) (k' a)) → R (m >>= k) (m' >>= k')
  within : ∀ {α : Type} {m m' : CrossM α} (field : String),
    R m m' → R (CrossM.within field m) (CrossM.within field m')

namespace CrossM.Congruence

variable {R : ∀ {α : Type}, CrossM α → CrossM α → Prop} {own : ConversionError → Prop}
  (h : Congruence R own)

include h

theorem each {α β : Type} {f g : α → CrossM β} : ∀ {items : List α} (position : Nat),
    (∀ x ∈ items, R (f x) (g x)) → R (CrossM.each f position items) (CrossM.each g position items)
  | [], _, _ => h.pure []
  | x :: rest, position, hp => by
    refine h.bind (h.within _ (hp x (by simp))) fun y => ?_
    exact h.bind (each (position + 1) fun z hz => hp z (by simp [hz])) fun ys => h.pure _

theorem entriesToScript {f g : ToScript} : ∀ {entries : List Entry},
    (∀ x ∈ entries.map (·.value), R (f x) (g x)) →
      R (ScriptBind.entriesToScript f entries) (ScriptBind.entriesToScript g entries)
  | [], _ => h.pure []
  | ⟨key, v⟩ :: rest, hp => by
    refine h.bind (h.within _ (hp v (by simp))) fun y => ?_
    have hrest := entriesToScript fun z hz => hp z (List.mem_cons_of_mem _ hz)
    exact h.bind hrest fun ys => h.pure _

theorem entriesFromScript {f g : FromScript} : ∀ {entries : List Slot},
    (∀ x ∈ entries.map (·.value), R (f x) (g x)) →
      R (ScriptBind.entriesFromScript f entries) (ScriptBind.entriesFromScript g entries)
  | [], _ => h.pure []
  | ⟨key, v⟩ :: rest, hp => by
    refine h.bind (h.within _ (hp v (by simp))) fun y => ?_
    have hrest := entriesFromScript fun z hz => hp z (List.mem_cons_of_mem _ hz)
    exact h.bind hrest fun ys => h.pure _

variable {f g : ShapeId → ToScript} {f' g' : ShapeId → FromScript}

theorem fieldsToScript : ∀ (fields : List FieldShape) (values : List NativeValue),
    (∀ id, ∀ x ∈ values, R (f id x) (g id x)) →
      R (ScriptBind.fieldsToScript (fields.map fun s => (s.name, f s.shape)) values)
        (ScriptBind.fieldsToScript (fields.map fun s => (s.name, g s.shape)) values)
  | [], _, _ => h.pure []
  | _ :: _, [], _ => h.pure []
  | s :: fields, v :: values, hp => by
    refine h.bind (h.within _ (hp s.shape v (by simp))) fun y => ?_
    exact h.bind (fieldsToScript fields values fun id z hz => hp id z (by simp [hz]))
      fun ys => h.pure _

theorem fieldsFromScript {typeName : String} (hown : ∀ e, OwnError typeName e → own e)
    (slots : List Slot) : ∀ (fields : List FieldShape),
    (∀ id, ∀ x ∈ slots.map (·.value), R (f' id x) (g' id x)) →
      R (ScriptBind.fieldsFromScript typeName slots (fields.map fun s => (s.name, f' s.shape)))
        (ScriptBind.fieldsFromScript typeName slots (fields.map fun s => (s.name, g' s.shape)))
  | [], _ => h.pure []
  | s :: fields, hp => by
    simp only [List.map_cons, ScriptBind.fieldsFromScript]
    split
    · exact h.fail (hown _ (.field _))
    · rename_i v hv
      refine h.bind (h.within _ (hp s.shape v (mem_slots_of_slot? hv))) fun y => ?_
      exact h.bind (fieldsFromScript hown slots fields hp) fun ys => h.pure _

theorem passOr {typeName : String} {k k' : FromScript} {v : Value}
    (hk : passThrough? typeName v = none → R (k v) (k' v)) :
    R (ScriptBind.passOr typeName k v) (ScriptBind.passOr typeName k' v) := by
  simp only [ScriptBind.passOr]
  split
  · exact h.pure _
  · exact hk ‹_›

end CrossM.Congruence

/-- Whether the rule is told how to convert parts. -/
def ShapeKind.hasParts : ShapeKind → Bool
  | .slice _ => true
  | .array _ _ => true
  | .map _ => true
  | .pointer _ => true
  | .record _ => true
  | _ => false

namespace Shape

variable {R : ∀ {α : Type}, CrossM α → CrossM α → Prop}

theorem toScript_of_not_hasParts {shape : Shape} (h : shape.kind.hasParts = false)
    (f g : ShapeId → ToScript) : shape.toScript f = shape.toScript g := by
  obtain ⟨id, name, kind⟩ := shape
  cases kind <;> first | rfl | cases h

theorem fromScript_of_not_hasParts {shape : Shape} (h : shape.kind.hasParts = false)
    (f g : ShapeId → FromScript) : shape.fromScript f = shape.fromScript g := by
  obtain ⟨id, name, kind⟩ := shape
  cases kind <;> first | rfl | cases h

/-- A rule that has parts respects the relation. -/
theorem toScript_congr {shape : Shape} (h : CrossM.Congruence R (OwnError shape.name))
    (hp : shape.kind.hasParts = true) {f g : ShapeId → ToScript} {v : NativeValue}
    (hparts : ∀ id, ∀ x ∈ v.parts, R (f id x) (g id x)) :
    R (shape.toScript f v) (shape.toScript g v) := by
  obtain ⟨id, name, kind⟩ := shape
  have hfail : ∀ v, R (CrossM.fail (nativeMismatch name v) : CrossM Value)
    (CrossM.fail (nativeMismatch name v)) := fun v => h.fail (.mismatch _)
  cases kind with
  | slice element =>
    cases v with
    | slice items => exact h.bind (h.each 0 (hparts element)) fun ys => h.pure _
    | _ => exact hfail _
  | array length element =>
    cases v with
    | array items =>
      simp only [Shape.toScript, arrayToScript]
      split
      · exact h.bind (h.each 0 (hparts element)) fun ys => h.pure _
      · exact h.fail (.length _ _)
    | _ => exact hfail _
  | map value =>
    cases v with
    | map entries => exact h.bind (h.entriesToScript (hparts value)) fun ys => h.pure _
    | _ => exact hfail _
  | pointer element =>
    cases v with
    | pointer target =>
      cases target with
      | none => exact h.pure _
      | some t => exact hparts element t (by simp [NativeValue.parts])
    | _ => exact hfail _
  | record fields =>
    cases v with
    | struct values =>
      simp only [Shape.toScript, recordToScript, List.length_map]
      split
      · exact h.bind (h.fieldsToScript fields values hparts) fun ys => h.pure _
      · exact h.fail (.length _ _)
    | _ => exact hfail _
  | _ => cases hp

/-- The shape to which the rule of a pointer hands over the value that it was given. -/
def redirect? (shape : Shape) (v : Value) : Option ShapeId :=
  match shape.kind, passThrough? shape.name v, v with
  | .pointer _, none, .none => none
  | .pointer _, none, .int _ => none
  | .pointer element, none, _ => some element
  | _, _, _ => none

/-- As before, but a pointer also needs the relation at the value itself. -/
theorem fromScript_congr {shape : Shape} (h : CrossM.Congruence R (OwnError shape.name))
    (hp : shape.kind.hasParts = true) {f g : ShapeId → FromScript} {v : Value}
    (hparts : ∀ id, ∀ x ∈ v.parts, R (f id x) (g id x))
    (hsame : ∀ id, shape.redirect? v = some id → R (f id v) (g id v)) :
    R (shape.fromScript f v) (shape.fromScript g v) := by
  obtain ⟨id, name, kind⟩ := shape
  have hfail : ∀ v, R (CrossM.fail (scriptMismatch name v) : CrossM NativeValue)
    (CrossM.fail (scriptMismatch name v)) := fun v => h.fail (.mismatch _)
  cases kind with
  | slice element =>
    simp only [Shape.fromScript, sliceFromScript]
    refine h.passOr fun _ => ?_
    cases v with
    | list items => exact h.bind (h.each 0 (hparts element)) fun ys => h.pure _
    | none => exact h.pure _
    | _ => exact hfail _
  | array length element =>
    simp only [Shape.fromScript, arrayFromScript]
    refine h.passOr fun _ => ?_
    cases v with
    | list items =>
      simp only
      split
      · exact h.bind (h.each 0 (hparts element)) fun ys => h.pure _
      · exact h.fail (.length _ _)
    | _ => exact hfail _
  | map value =>
    simp only [Shape.fromScript, mapFromScript]
    refine h.passOr fun _ => ?_
    cases v with
    | dict entries => exact h.bind (h.entriesFromScript (hparts value)) fun ys => h.pure _
    | none => exact h.pure _
    | _ => exact hfail _
  | pointer element =>
    simp only [Shape.fromScript, pointerFromScript]
    refine h.passOr fun hpass => ?_
    cases v with
    | none => exact h.pure _
    | int n =>
      simp only
      split
      · exact h.pure _
      · exact h.fail (.nil _)
    | _ => exact h.bind (hsame element (by simp [redirect?, hpass])) fun t => h.pure _
  | record fields =>
    simp only [Shape.fromScript, recordFromScript]
    refine h.passOr fun _ => ?_
    cases v with
    | record typeName slots =>
      exact h.bind (h.fieldsFromScript (fun _ he => he) slots fields hparts) fun ys => h.pure _
    | dict slots =>
      exact h.bind (h.fieldsFromScript (fun _ he => he) slots fields hparts) fun ys => h.pure _
    | _ => exact hfail _
  | _ => cases hp

theorem fromScript_of_redirect? {shape : Shape} {v : Value} {element : ShapeId}
    (h : shape.redirect? v = some element) (f : ShapeId → FromScript) :
    shape.fromScript f v = f element v >>= fun t => pure (.pointer (some t)) := by
  obtain ⟨id, name, kind⟩ := shape
  cases kind with
  | pointer e =>
    cases hpass : passThrough? name v with
    | some native => simp [redirect?, hpass] at h
    | none =>
      cases v <;> simp only [redirect?, hpass, Option.some.injEq, reduceCtorEq] at h <;> subst h <;>
        simp only [Shape.fromScript, pointerFromScript, passOr, hpass]
  | _ => simp [redirect?] at h

end Shape
end ScriptBind
