import ScriptBind.Proofs.Lists
import ScriptBind.Proofs.TypeExpr.Scan

/-!
# ScriptBind.Proofs.Canon.Delimited

Where a written form ends. Written forms are put together without escapes, so what stands before a
closing character must tell by itself how far it goes.

* `Closes` - what may stand after the written form of a type; `Closes.ne_blank` - no further word.
* `word_inj` - a word ends where its characters end.
* `Separates` - two written forms, each before something that closes it, are told apart.
* `following_inj`, `intercalate_inj` - lists of forms that are told apart are told apart themselves.
-/

namespace ScriptBind
namespace Notation

open Text

/-! ### Words -/

def isWordChar (c : Char) : Bool := isLetterOrNumber c || c = '_' || c = '.'

theorem isWordChar_of_continuesIdent {c : Char} {rest : List Char}
    (h : Token.continuesIdent c rest = true) : isWordChar c = true := by
  unfold Token.continuesIdent at h
  unfold isWordChar
  simp only [Bool.or_eq_true, Bool.and_eq_true] at h ⊢
  exact h.imp_right And.left

theorem isWordChar_of_spanIdent {cs : List Char} (h : Token.spanIdent cs = (cs, [])) :
    ∀ c ∈ cs, isWordChar c = true := by
  induction cs with
  | nil => simp
  | cons c cs ih =>
    rw [Token.spanIdent] at h
    split at h
    · rename_i hc
      have hspan : Token.spanIdent cs = (cs, []) :=
        Prod.ext (List.cons.inj (Prod.mk.inj h).1).2 (Prod.mk.inj h).2
      exact List.forall_mem_cons.2 ⟨isWordChar_of_continuesIdent hc, ih hspan⟩
    · cases (Prod.mk.inj h).1

theorem isWordChar_of_isIdent {name : String} (h : Token.IsIdent name) :
    ∀ c ∈ name.toList, isWordChar c = true := by
  obtain ⟨c, rest, hname, hc, hrest⟩ := Token.isIdent_iff.1 h
  rw [hname]
  exact List.forall_mem_cons.2 ⟨isWordChar_of_continuesIdent
    (Token.continuesIdent_of_startsIdent hc.starts rest), isWordChar_of_spanIdent hrest⟩

theorem isWordChar_of_isDigit {c : Char} (h : c.isDigit = true) : isWordChar c = true := by
  have hdigits : ∀ n < 10, isWordChar (Nat.digitChar n) = true := by decide
  obtain ⟨n, hn, rfl⟩ := Token.exists_digitChar h
  exact hdigits n hn

theorem isWordChar_of_mem_toString {n : Nat} : ∀ c ∈ (toString n).toList, isWordChar c = true := by
  intro c hc
  rw [Nat.toString_eq_repr, Nat.toList_repr] at hc
  exact isWordChar_of_isDigit (Nat.isDigit_of_mem_toDigits (by decide) (by decide) hc)

def EndsWord (cs : List Char) : Prop := ∀ c rest, cs = c :: rest → isWordChar c = false

theorem EndsWord.cons {c : Char} (h : isWordChar c = false) (cs : List Char) :
    EndsWord (c :: cs) := by
  rintro _ _ ⟨⟩
  exact h

theorem word_inj {w w' cs cs' : List Char} (hw : ∀ c ∈ w, isWordChar c = true)
    (hw' : ∀ c ∈ w', isWordChar c = true) (hcs : EndsWord cs) (hcs' : EndsWord cs')
    (h : w ++ cs = w' ++ cs') : w = w' ∧ cs = cs' := by
  induction w generalizing w' with
  | nil =>
    cases w' with
    | nil => exact ⟨rfl, h⟩
    | cons c w' =>
      have hc := hw' c List.mem_cons_self
      rw [hcs c _ h] at hc
      cases hc
  | cons c w ih =>
    cases w' with
    | nil =>
      have hc := hw c List.mem_cons_self
      rw [hcs' c _ h.symm] at hc
      cases hc
    | cons c' w' =>
      rw [List.cons_append, List.cons_append, List.cons.injEq] at h
      obtain ⟨rfl, h⟩ := h
      obtain ⟨rfl, hrest⟩ := ih (List.forall_mem_cons.1 hw).2 (List.forall_mem_cons.1 hw').2 h
      exact ⟨rfl, hrest⟩

/-! ### What may follow -/

/-- The written form of a type ends here. -/
inductive Closes : List Char → Prop where
  | nil : Closes []
  | mark {c : Char} (rest : List Char) : c ∈ [',', ';', ')', ']'] → Closes (c :: rest)
  /-- The end of an interface. -/
  | brace (rest : List Char) : Closes (' ' :: '\x7d' :: rest)

theorem Closes.endsWord {cs : List Char} (h : Closes cs) : EndsWord cs := by
  cases h with
  | nil =>
    intro c rest h
    cases h
  | mark rest hc =>
    have hmarks : ∀ c ∈ [',', ';', ')', ']'], isWordChar c = false :=
      forall_mem_of_all (by decide)
    exact .cons (hmarks _ hc) rest
  | brace rest => exact .cons (by decide) _

/-- After a blank there is a closing brace. -/
theorem Closes.ne_blank {cs rest : List Char} (h : Closes cs)
    (hrest : ∀ after, rest ≠ '\x7d' :: after) : cs ≠ ' ' :: rest := by
  intro heq
  cases h with
  | nil => cases heq
  | mark _ hc =>
    cases heq
    exact absurd hc (by decide)
  | brace after => exact hrest after (List.cons.inj heq).2.symm

/-- What ends a list whose items stand apart by `separator`. -/
structure Closer (separator : Char) (close : List Char) : Prop where
  closes : ∀ rest, Closes (close ++ rest)
  ne : ∀ rest rest', close ++ rest ≠ separator :: rest'

theorem closer_paren : Closer ',' [')'] where
  closes rest := .mark rest (by simp)
  ne rest rest' h := by cases h

theorem closer_brace : Closer ';' [' ', '\x7d'] where
  closes rest := .brace rest
  ne rest rest' h := by cases h

/-! ### Forms that are told apart -/

section Separates

variable {α : Type} {text : α → List Char} {xs ys : List α} {separator : Char}
  {close r r' : List Char}

def Separates (text : α → List Char) (x y : α) : Prop :=
  ∀ r r', Closes r → Closes r' → text x ++ r = text y ++ r' → x = y ∧ r = r'

/-- The items after the first. -/
def following (separator : Char) (text : α → List Char) (xs : List α) : List Char :=
  xs.flatMap fun x => separator :: ' ' :: text x

theorem intercalate_cons (separator : Char) (text : α → List Char) (x : α) (xs : List α) :
    [separator, ' '].intercalate ((x :: xs).map text) = text x ++ following separator text xs := by
  induction xs generalizing x with
  | nil => simp [following]
  | cons y ys ih =>
    rw [List.map_cons, List.map_cons, List.intercalate_cons_cons, ← List.map_cons, ih]
    simp [following]

theorem closes_following (hseparator : separator ∈ [',', ';', ')', ']'])
    (hclose : Closer separator close) (xs : List α) (r : List Char) :
    Closes (following separator text xs ++ (close ++ r)) := by
  cases xs with
  | nil => exact hclose.closes r
  | cons x xs => exact .mark _ hseparator

theorem following_inj (hseparator : separator ∈ [',', ';', ')', ']'])
    (hclose : Closer separator close) (hxs : ∀ x ∈ xs, ∀ y ∈ ys, Separates text x y)
    (h : following separator text xs ++ (close ++ r) =
      following separator text ys ++ (close ++ r')) : xs = ys ∧ r = r' := by
  induction xs generalizing ys with
  | nil =>
    cases ys with
    | nil => exact ⟨rfl, List.append_cancel_left h⟩
    | cons y ys => exact absurd h (hclose.ne r _)
  | cons x xs ih =>
    cases ys with
    | nil => exact absurd h.symm (hclose.ne r' _)
    | cons y ys =>
      simp only [following, List.flatMap_cons, List.cons_append, List.append_assoc,
        List.cons.injEq, true_and] at h
      obtain ⟨rfl, hrest⟩ := hxs x List.mem_cons_self y List.mem_cons_self _ _
        (closes_following hseparator hclose xs r) (closes_following hseparator hclose ys r') h
      obtain ⟨rfl, hr⟩ := ih (fun a ha b hb => hxs a (List.mem_cons_of_mem _ ha) b
        (List.mem_cons_of_mem _ hb)) hrest
      exact ⟨rfl, hr⟩

theorem intercalate_inj (hseparator : separator ∈ [',', ';', ')', ']'])
    (hclose : Closer separator close) (hxs : ∀ x ∈ xs, ∀ y ∈ ys, Separates text x y)
    (hne : ∀ x, x ∈ xs ∨ x ∈ ys → ∀ r r', text x ++ r ≠ close ++ r')
    (h : [separator, ' '].intercalate (xs.map text) ++ (close ++ r) =
      [separator, ' '].intercalate (ys.map text) ++ (close ++ r')) : xs = ys ∧ r = r' := by
  cases xs with
  | nil =>
    cases ys with
    | nil => exact ⟨rfl, List.append_cancel_left h⟩
    | cons y ys =>
      rw [intercalate_cons, List.append_assoc] at h
      exact absurd h.symm (hne y (.inr List.mem_cons_self) _ _)
  | cons x xs =>
    cases ys with
    | nil =>
      rw [intercalate_cons, List.append_assoc] at h
      exact absurd h (hne x (.inl List.mem_cons_self) _ _)
    | cons y ys =>
      rw [intercalate_cons, intercalate_cons, List.append_assoc, List.append_assoc] at h
      obtain ⟨rfl, hrest⟩ := hxs x List.mem_cons_self y List.mem_cons_self _ _
        (closes_following hseparator hclose xs r) (closes_following hseparator hclose ys r') h
      obtain ⟨rfl, hr⟩ := following_inj hseparator hclose (fun a ha b hb =>
        hxs a (List.mem_cons_of_mem _ ha) b (List.mem_cons_of_mem _ hb)) hrest
      exact ⟨rfl, hr⟩

end Separates
end Notation
end ScriptBind
