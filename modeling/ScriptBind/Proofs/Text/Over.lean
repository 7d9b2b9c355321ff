import Mathlib.Data.List.Basic
import ScriptBind.Proofs.Lists

/-!
# ScriptBind.Proofs.Text.Over

Which characters a text is made of.

* `Text.Over` - a text of characters with a property only.
* `Text.IsShown` - the printable characters of ASCII.
* `Text.Shows.fixed`, `Text.Shows.number` - fixed texts and numbers are written in them.
-/

namespace ScriptBind
namespace Text

/-- Each character of the text has the property. -/
def Over (Q : Char → Prop) (text : String) : Prop := ∀ c ∈ text.toList, Q c

instance (Q : Char → Prop) [DecidablePred Q] (text : String) : Decidable (Over Q text) :=
  List.decidableBAll Q text.toList

/-- From the space to the tilde. -/
def IsShown (c : Char) : Prop := 32 ≤ c.toNat ∧ c.toNat < 127

instance : DecidablePred IsShown := fun c =>
  inferInstanceAs (Decidable (32 ≤ c.toNat ∧ c.toNat < 127))

variable {Q Q' : Char → Prop} {a b separator : String} {parts : List String}

theorem Over.mono (h : Over Q a) (hQ : ∀ c, Q c → Q' c) : Over Q' a := fun c hc => hQ c (h c hc)

theorem over_append_iff : Over Q (a ++ b) ↔ Over Q a ∧ Over Q b := by
  rw [Over, String.toList_append]
  exact List.forall_mem_append

theorem Over.append (ha : Over Q a) (hb : Over Q b) : Over Q (a ++ b) := over_append_iff.2 ⟨ha, hb⟩

theorem over_empty : Over Q "" := fun _ hc => by simp at hc

theorem over_intercalate (hseparator : Over Q separator) (h : ∀ part ∈ parts, Over Q part) :
    Over Q (separator.intercalate parts) := by
  induction parts with
  | nil => exact over_empty
  | cons part rest ih =>
    obtain ⟨hpart, hrest⟩ := List.forall_mem_cons.1 h
    cases rest with
    | nil => simpa using hpart
    | cons next rest =>
      rw [String.intercalate_cons_cons]
      exact (hpart.append hseparator).append (ih hrest)

theorem over_toString (n : Nat) : Over IsShown (toString n) := by
  intro c hc
  rw [Nat.toString_eq_repr, Nat.toList_repr] at hc
  have hdigit := Nat.isDigit_of_mem_toDigits (by decide) (by decide) hc
  simp only [Char.isDigit, Bool.and_eq_true, decide_eq_true_eq] at hdigit
  obtain ⟨hlow, hhigh⟩ := hdigit
  have hlow : (48 : Nat) ≤ c.toNat := hlow
  have hhigh : c.toNat ≤ 57 := hhigh
  exact ⟨by omega, by omega⟩

/-- The printable characters have the property. -/
structure Shows (Q : Char → Prop) : Prop where
  shown : ∀ c, IsShown c → Q c

/-- A literal is what the text can be, which is decided without its encoding. -/
theorem Shows.fixed (hQ : Shows Q) {cs : List Char}
    (h : cs.all (fun c => decide (IsShown c)) = true) : Over Q (String.ofList cs) := by
  rw [Over, String.toList_ofList]
  exact fun c hc => hQ.shown c (forall_mem_of_all h c hc)

theorem Shows.number (hQ : Shows Q) (n : Nat) : Over Q (toString n) :=
  (over_toString n).mono hQ.shown

end Text
end ScriptBind
