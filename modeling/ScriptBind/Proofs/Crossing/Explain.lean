import ScriptBind.Crossing.Emitted
import ScriptBind.Proofs.Canon.Aliases
import ScriptBind.Proofs.Crossing.Bound

/-!
# ScriptBind.Proofs.Crossing.Explain

Errors may be explained at several places on their way out.

* `TypeNames.OfStructs` - only names made from the fields of a struct have listings.
* `TypeNames.explain_explain` - an error that was explained stays as it is.
* `Scalar.mapError_toScript`, `Scalar.mapError_fromScript` - errors of scalars need no explanation.
* `Converter.explained_congruence` - to explain at the parts and, if the converter does so, again at
  the whole is to explain once.
-/

namespace ScriptBind

open CrossM (Below)

namespace TypeNames

/-- Whatever has a listing is a struct without a name of its own. -/
def OfStructs (names : TypeNames) : Prop :=
  ∀ name listing, names.listing? name = some listing → IsStructAlias name

variable {names : TypeNames}

theorem ofStructs_empty : empty.OfStructs := by
  intro name listing h
  cases h

theorem describe_eq_self {name : String} (h : names.OfStructs)
    (hname : ¬structAliasStem.toList <+: name.toList) : names.describe name = name := by
  rw [describe]
  split
  · rename_i listing hlisting
    exact absurd (h name listing hlisting).1 hname
  · rfl

/-- A described name has a blank before its fields, so it is no alias. -/
theorem describe_describe (h : names.OfStructs) (name : String) :
    names.describe (names.describe name) = names.describe name := by
  rw [describe.eq_def names name]
  split
  · rename_i listing hlisting
    rw [describe]
    split
    · rename_i listing' hlisting'
      have hblank := (h _ listing' hlisting').2
      simp at hblank
    · rfl
  · rename_i hlisting
    rw [describe, hlisting]

theorem explain_explain (h : names.OfStructs) (e : ConversionError) :
    names.explain (names.explain e) = names.explain e := by
  induction e with
  | inField field cause ih => simp only [explain, ih]
  | argument callee position cause ih => simp only [explain, ih]
  | _ => simp only [explain, describe_describe h]

theorem explain_of_ownError {typeName : String} {e : ConversionError} (h : names.OfStructs)
    (hname : ¬structAliasStem.toList <+: typeName.toList) (he : OwnError typeName e) :
    names.explain e = e := by
  cases he <;> simp only [explain, describe_eq_self h hname]

/-- A field is named outside of what is explained. -/
theorem mapError_within {α : Type} (field : String) (m : CrossM α) :
    (CrossM.within field m).mapError names.explain =
      CrossM.within field (m.mapError names.explain) := by
  rw [CrossM.within, CrossM.within, CrossM.mapError_mapError, CrossM.mapError_mapError]
  rfl

end TypeNames

/-! ### Scalars -/

theorem Signedness.not_isPrefix_typeName (s : Signedness) (width : Nat) :
    ¬structAliasStem.toList <+: (s.typeName width).toList := by
  cases s <;> simp [typeName, structAliasStem]

theorem Precision.not_isPrefix_typeName (p : Precision) :
    ¬structAliasStem.toList <+: p.typeName.toList := by
  cases p <;> decide

theorem mapError_objectToScript (f : ConversionError → ConversionError) (typeName : String)
    (object : Object) :
    (objectToScript typeName object).mapError f = objectToScript typeName object := by
  rw [objectToScript]
  split <;> rfl

theorem mapError_anyToScript (f : ConversionError → ConversionError) (v : NativeValue) :
    (anyToScript v).mapError f = anyToScript v := by
  unfold anyToScript
  split
  all_goals first | rfl | exact mapError_objectToScript f _ _ | skip
  split <;> rfl

namespace Scalar

variable {names : TypeNames} (h : names.OfStructs)

include h

theorem mapError_mismatch {α : Type} {expected : String} (actual : String)
    (hname : ¬structAliasStem.toList <+: expected.toList) :
    (CrossM.fail (.typeMismatch expected actual) : CrossM α).mapError names.explain =
      CrossM.fail (.typeMismatch expected actual) := by
  rw [CrossM.mapError_fail, TypeNames.explain_of_ownError h hname (.mismatch _)]

theorem mapError_toScript (s : Scalar) (v : NativeValue) :
    (s.toScript v).mapError names.explain = s.toScript v := by
  cases s with
  | any => exact mapError_anyToScript _ v
  | _ =>
    unfold toScript
    dsimp only
    split <;> first | rfl | exact mapError_mismatch h _ (by decide)

theorem mapError_fromScript (s : Scalar) (x : Value) :
    (s.fromScript x).mapError names.explain = s.fromScript x := by
  cases s with
  | any => rfl
  | int width signedness =>
    unfold fromScript
    dsimp only
    split
    · rfl
    · exact mapError_mismatch h _ (signedness.not_isPrefix_typeName width)
  | float precision =>
    unfold fromScript
    dsimp only
    split
    · rfl
    · rfl
    · exact mapError_mismatch h _ precision.not_isPrefix_typeName
  | _ =>
    unfold fromScript
    dsimp only
    split <;> first | rfl | exact mapError_mismatch h _ (by decide)

end Scalar

/-! ### Converters -/

namespace Converter

variable {α : Type} (c : Converter) {lib : Library}

theorem explained_of_explains {m : CrossM α} (h : c.explains = true) :
    c.explained lib m = m.mapError lib.names.explain := if_pos h

theorem explained_of_not_explains {m : CrossM α} (h : c.explains = false) :
    c.explained lib m = m := by
  simp [explained, h]

/-- What was explained is not changed by its converter. -/
theorem below_explained {m m' : CrossM α} (hnames : lib.names.OfStructs)
    (h : Below (m.mapError lib.names.explain) m') :
    Below (m.mapError lib.names.explain) (c.explained lib m') := by
  cases hc : c.explains with
  | false =>
    rw [c.explained_of_not_explains hc]
    exact h
  | true =>
    rw [c.explained_of_explains hc]
    have h' := h.mapError lib.names.explain
    rw [CrossM.mapError_mapError] at h'
    have htwice : lib.names.explain ∘ lib.names.explain = lib.names.explain :=
      funext (TypeNames.explain_explain hnames)
    rwa [htwice] at h'

theorem explained_congruence (hnames : lib.names.OfStructs) :
    CrossM.Congruence
      (fun m m' => Below (m.mapError lib.names.explain) (c.explained lib m'))
      (OwnError c.typeName) where
  pure a := by
    cases hc : c.explains with
    | false =>
      rw [c.explained_of_not_explains hc]
      exact .refl _
    | true =>
      rw [c.explained_of_explains hc]
      exact .refl _
  fail he := by
    cases hc : c.explains with
    | false =>
      have hname : ¬structAliasStem.toList <+: c.typeName.toList := by
        intro hpre
        rw [explains, List.isPrefixOf_iff_prefix.2 hpre] at hc
        cases hc
      rw [c.explained_of_not_explains hc, CrossM.mapError_fail,
        TypeNames.explain_of_ownError hnames hname he]
      exact .refl _
    | true =>
      rw [c.explained_of_explains hc]
      exact .refl _
  bind hm hk := by
    rw [CrossM.mapError_bind]
    cases hc : c.explains with
    | false =>
      simp only [c.explained_of_not_explains hc] at hm hk ⊢
      exact hm.bind hk
    | true =>
      simp only [c.explained_of_explains hc] at hm hk ⊢
      rw [CrossM.mapError_bind]
      exact hm.bind hk
  within field hm := by
    rw [TypeNames.mapError_within]
    cases hc : c.explains with
    | false =>
      simp only [c.explained_of_not_explains hc] at hm ⊢
      exact hm.mapError _
    | true =>
      simp only [c.explained_of_explains hc] at hm ⊢
      rw [TypeNames.mapError_within]
      exact hm.mapError _

end Converter
end ScriptBind
