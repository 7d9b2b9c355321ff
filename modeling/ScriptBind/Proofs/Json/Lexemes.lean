import ScriptBind.Json.Reader
import ScriptBind.Json.Writer

/-!
# ScriptBind.Proofs.Json.Lexemes

The parts of a JSON text that hold no values are read as they are written, whatever follows them.

* `Json.skipSpace_lineStart` - line breaks and indentation are skipped.
* `Json.readString?_escaped` - a string is read from its escapes.
* `Json.readUnsigned?_toDigits` - a number is read from its digits.
-/

namespace ScriptBind
namespace Json

variable {cs rest : List Char}

/-! ### Blanks -/

theorem skipSpace_cons {c : Char} (h : isSpace c = false) (cs : List Char) :
    skipSpace (c :: cs) = c :: cs := by
  rw [skipSpace, h]
  rfl

theorem skipSpace_replicate (n : Nat) (cs : List Char) :
    skipSpace (List.replicate n ' ' ++ cs) = skipSpace cs := by
  induction n with
  | zero => rfl
  | succ n ih => exact ih

theorem skipSpace_lineStart (level : Option Nat) (cs : List Char) :
    skipSpace (lineStart level ++ cs) = skipSpace cs := by
  cases level with
  | none => rfl
  | some level => exact skipSpace_replicate (2 * level) cs

/-! ### Strings -/

theorem hexValue?_digitChar {d : Nat} (h : d < 16) :
    Text.hexValue? (Nat.digitChar d) = some d := by
  revert d
  decide

theorem toList_hexPadded_two {n : Nat} (h : n < 256) :
    (Text.hexPadded 2 n).toList = [Nat.digitChar (n / 16), Nat.digitChar (n % 16)] := by
  rw [Text.hexPadded, String.toList_ofList, Nat.toDigits_eq_if (by decide)]
  split
  · rename_i hlt
    rw [Nat.div_eq_of_lt hlt, Nat.mod_eq_of_lt hlt]
    rfl
  · have hlt : n / 16 < 16 := by omega
    rw [Nat.toDigits_of_lt_base hlt]
    rfl

theorem unicodeEscape?_control {n : Nat} (h : n < 32) (cs : List Char) :
    unicodeEscape? ('0' :: '0' :: ((Text.hexPadded 2 n).toList ++ cs)) =
      some (some (Char.ofNat n), cs) := by
  have hhex : hex4? ('0' :: '0' :: ((Text.hexPadded 2 n).toList ++ cs)) = some (n, cs) := by
    rw [toList_hexPadded_two (by omega), List.cons_append, List.singleton_append, hex4?,
      hexValue?_digitChar (by omega), hexValue?_digitChar (by omega)]
    show some (((0 * 16 + 0) * 16 + n / 16) * 16 + n % 16, cs) = _
    have hvalue : ((0 * 16 + 0) * 16 + n / 16) * 16 + n % 16 = n := by omega
    rw [hvalue]
  have hlow : isLowSurrogate n = false := by
    simp only [isLowSurrogate, Bool.and_eq_false_imp, decide_eq_true_eq]
    omega
  have hhigh : isHighSurrogate n = false := by
    simp only [isHighSurrogate, Bool.and_eq_false_imp, decide_eq_true_eq]
    omega
  rw [unicodeEscape?, hhex]
  simp only [hlow, hhigh, Bool.false_eq_true, if_false]

theorem readString?_plain {c : Char} (hquote : c ≠ '"') (hslash : c ≠ '\\')
    (hcontrol : ¬ c.toNat < 32) {fuel : Nat} {text : List Char}
    (h : readString? fuel cs = some (some text, rest)) :
    readString? (fuel + 1) (c :: cs) = some (some (c :: text), rest) := by
  rw [readString?, if_neg (not_or.2 ⟨hslash, hcontrol⟩), h]
  · rfl
  · exact hquote
  · exact fun _ heq _ => hslash heq
  · exact fun _ _ heq _ => hslash heq

/-- One step reads one character, however it is escaped. -/
theorem readString?_escapedChar (c : Char) {fuel : Nat} {text : List Char}
    (h : readString? fuel cs = some (some text, rest)) :
    readString? (fuel + 1) (escapedChar c ++ cs) = some (some (c :: text), rest) := by
  have hsimple : ∀ {letter : Char}, simpleEscape? letter = some c → letter ≠ 'u' →
      readString? (fuel + 1) ('\\' :: letter :: cs) = some (some (c :: text), rest) := by
    intro letter hletter hu
    rw [readString?, hletter, h]
    · rfl
    · exact hu
  have hnat : ∀ {n : Nat}, c.toNat = n → c = Char.ofNat n := fun hn => hn ▸ c.ofNat_toNat.symm
  rw [escapedChar]
  split
  · exact hsimple (by subst c; rfl) (by decide)
  split
  · exact hsimple (by subst c; rfl) (by decide)
  split
  · exact hsimple (hnat ‹_› ▸ rfl) (by decide)
  split
  · exact hsimple (hnat ‹_› ▸ rfl) (by decide)
  split
  · exact hsimple (by subst c; rfl) (by decide)
  split
  · exact hsimple (by subst c; rfl) (by decide)
  split
  · exact hsimple (by subst c; rfl) (by decide)
  split
  · rename_i hcontrol
    show readString? (fuel + 1)
      ('\\' :: 'u' :: '0' :: '0' :: ((Text.hexPadded 2 c.toNat).toList ++ cs)) = _
    rw [readString?, unicodeEscape?_control hcontrol, Char.ofNat_toNat]
    simp only [h]
    rfl
  · exact readString?_plain ‹_› ‹_› ‹_› h

theorem readString?_escaped (text rest : List Char) {fuel : Nat} (h : text.length < fuel) :
    readString? fuel (text.flatMap escapedChar ++ '"' :: rest) = some (some text, rest) := by
  obtain ⟨fuel, rfl⟩ : ∃ k, fuel = k + 1 := ⟨fuel - 1, by omega⟩
  induction text generalizing fuel with
  | nil => rfl
  | cons c text ih =>
    obtain ⟨fuel, rfl⟩ : ∃ k, fuel = k + 1 := ⟨fuel - 1, by simp at h; omega⟩
    rw [List.flatMap_cons, List.append_assoc]
    exact readString?_escapedChar c (ih fuel (Nat.lt_of_succ_lt_succ h))

theorem escapedChar_ne_nil (c : Char) : escapedChar c ≠ [] := by
  rw [escapedChar]
  repeat' split
  all_goals exact List.cons_ne_nil _ _

theorem length_le_flatMap_escapedChar (text : List Char) :
    text.length ≤ (text.flatMap escapedChar).length := by
  induction text with
  | nil => exact Nat.le_refl _
  | cons c text ih =>
    have hc := List.length_pos_iff.2 (escapedChar_ne_nil c)
    rw [List.flatMap_cons, List.length_append, List.length_cons]
    omega

/-- The bound of the recursion is taken from the text that is left. -/
theorem readString?_stringChars (s : String) (rest : List Char) :
    ∃ cs, stringChars s ++ rest = '"' :: cs ∧
      readString? (cs.length + 1) cs = some (some s.toList, rest) := by
  refine ⟨s.toList.flatMap escapedChar ++ '"' :: rest, by simp [stringChars], ?_⟩
  have hlength := length_le_flatMap_escapedChar s.toList
  exact readString?_escaped s.toList rest (by rw [List.length_append]; omega)

/-! ### Numbers -/

/-- A number ends before this text. -/
def Stops (rest : List Char) : Prop :=
  ∀ c ∈ rest.head?, c.isDigit = false ∧ c ≠ '.' ∧ isExponentLetter c = false

theorem stops_nil : Stops [] := by
  rintro c ⟨⟩

theorem stops_cons {c : Char} (hdigit : c.isDigit = false) (hdot : c ≠ '.')
    (hexp : isExponentLetter c = false) (rest : List Char) : Stops (c :: rest) := by
  rintro _ ⟨⟩
  exact ⟨hdigit, hdot, hexp⟩

theorem digits_append {ds : List Char} (hds : ∀ c ∈ ds, c.isDigit = true) (hrest : Stops rest) :
    digits (ds ++ rest) = (ds, rest) := by
  induction ds with
  | nil =>
    cases rest with
    | nil => rfl
    | cons c rest =>
      rw [List.nil_append, digits, (hrest c rfl).1]
      rfl
  | cons d ds ih =>
    obtain ⟨hd, hds⟩ := List.forall_mem_cons.1 hds
    rw [List.cons_append, digits, if_pos hd, ih hds]

theorem natOf_toDigits (n : Nat) : natOf (Nat.toDigits 10 n) = n :=
  Nat.ofDigitChars_toDigits (by decide) (by decide)

theorem exists_toDigits (n : Nat) :
    ∃ d ds, Nat.toDigits 10 n = d :: ds ∧ d.isDigit = true := by
  obtain ⟨d, ds, hds⟩ := List.exists_cons_of_ne_nil (Nat.toDigits_ne_nil (b := 10) (n := n))
  have hd : d ∈ Nat.toDigits 10 n := hds ▸ List.mem_cons_self
  exact ⟨d, ds, hds, Nat.isDigit_of_mem_toDigits (by decide) (by decide) hd⟩

theorem head?_toDigits_ne {n : Nat} (h : n ≠ 0) : (Nat.toDigits 10 n).head? ≠ some '0' := by
  induction n using Nat.strongRecOn with
  | _ n ih =>
    rw [Nat.toDigits_eq_if (by decide)]
    split
    · rename_i hlt
      have hdigit : ∀ d < 10, d ≠ 0 → [Nat.digitChar d].head? ≠ some '0' := by decide
      exact hdigit n hlt h
    · obtain ⟨d, ds, hds, _⟩ := exists_toDigits (n / 10)
      have hhead := ih (n / 10) (by omega) (by omega)
      rw [hds] at hhead ⊢
      exact hhead

/-- A leading zero stands alone. -/
theorem toDigits_ne_zero_cons (n : Nat) (d : Char) (ds : List Char) :
    Nat.toDigits 10 n ≠ '0' :: d :: ds := by
  intro h
  rcases Nat.eq_zero_or_pos n with rfl | hpos
  · cases h
  · exact head?_toDigits_ne (Nat.ne_of_gt hpos) (by rw [h]; rfl)

theorem readUnsigned?_toDigits (isNegative : Bool) (n : Nat) (hrest : Stops rest) :
    readUnsigned? isNegative (Nat.toDigits 10 n ++ rest) =
      some (readUnsigned?.integer isNegative (Nat.toDigits 10 n), rest) := by
  have hall : ∀ c ∈ Nat.toDigits 10 n, c.isDigit = true :=
    fun c => Nat.isDigit_of_mem_toDigits (by decide) (by decide)
  rw [readUnsigned?, digits_append hall hrest]
  split
  · exact absurd (Prod.mk.inj ‹_›).1 Nat.toDigits_ne_nil
  · exact absurd (Prod.mk.inj ‹_›).1 (toDigits_ne_zero_cons n _ _)
  · rename_i heq
    cases heq
    cases rest with
    | nil => rfl
    | cons c rest =>
      obtain ⟨_, hdot, hexp⟩ := hrest c rfl
      split
      · rename_i heq
        cases heq
        exact absurd rfl hdot
      · rename_i heq
        cases heq
        rw [hexp]
        rfl
      · rename_i heq
        cases heq

end Json
end ScriptBind
