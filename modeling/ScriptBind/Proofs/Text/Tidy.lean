import Mathlib.Data.List.DropRight
import ScriptBind.Proofs.Text.Over
import ScriptBind.Text.Letter
import ScriptBind.Text.Split

/-!
# ScriptBind.Proofs.Text.Tidy

Texts that stay as they are when they are parted at semicolons and put together again.

* `Text.Tidy` - parts with a semicolon and one space between each two; what such texts are made of
  (`Tidy.prepend`, `Tidy.append`, `Tidy.between`, `Tidy.join`).
* `Text.parts` - what stands between semicolons, without the white space around it.
* `Text.intercalate_parts` - the parts of texts that each end with a semicolon.
-/

namespace ScriptBind
namespace Text

/-! ### White space -/

theorem CharClass.mem_of_has {cl : CharClass} {n : Nat} (h : cl.has n = true) :
    n ∈ cl.flatMap fun (lo, hi, _) => List.range' lo (hi + 1 - lo) := by
  induction cl with
  | nil => cases h
  | cons range rest ih =>
    obtain ⟨lo, hi, step⟩ := range
    rw [has] at h
    rw [List.flatMap_cons, List.mem_append]
    split at h
    · cases h
    · split at h
      · exact .inl (List.mem_range'_1.2 ⟨by omega, by omega⟩)
      · exact .inr (ih h)

theorem isBlank_of_isLetterOrNumber {c : Char} (h : isLetterOrNumber c = true) :
    isBlank c = false := by
  refine Bool.eq_false_iff.2 fun hblank => ?_
  have hnone : ∀ n ∈ blanks.flatMap fun (lo, hi, _) => List.range' lo (hi + 1 - lo),
      (letters.has n || numbers.has n) = false := by decide +kernel
  rw [isLetterOrNumber, isLetter, hnone _ (CharClass.mem_of_has hblank)] at h
  cases h

/-! ### Tidy texts -/

def Starts (text : String) : Prop := ∃ c ∈ text.toList.head?, isBlank c = false

def Ends (text : String) : Prop := ∃ c ∈ text.toList.getLast?, isBlank c = false

-- by looking at one character, not at all of them
instance (text : String) : Decidable (Starts text) :=
  Option.decidableExistsMem text.toList.head?

instance (text : String) : Decidable (Ends text) :=
  Option.decidableExistsMem text.toList.getLast?

/-- Semicolons part texts. -/
def Whole (text : String) : Prop := Over (· ≠ ';') text

instance (text : String) : Decidable (Whole text) :=
  inferInstanceAs (Decidable (Over (· ≠ ';') text))

/-- One part, without white space around it. -/
structure IsSegment (text : String) : Prop where
  whole : Whole text
  starts : Starts text
  ends : Ends text

instance (text : String) : Decidable (IsSegment text) :=
  decidable_of_iff (Whole text ∧ Starts text ∧ Ends text)
    ⟨fun ⟨hwhole, hstarts, hends⟩ => ⟨hwhole, hstarts, hends⟩,
      fun h => ⟨h.whole, h.starts, h.ends⟩⟩

inductive Tidy : String → Prop
  | segment {text : String} : IsSegment text → Tidy text
  | more {text rest : String} : IsSegment text → Tidy rest → Tidy (text ++ "; " ++ rest)

variable {a b p : String} {texts : List String}

theorem Whole.append (ha : Whole a) (hb : Whole b) : Whole (a ++ b) := Over.append ha hb

theorem Starts.append (ha : Starts a) (b : String) : Starts (a ++ b) := by
  obtain ⟨c, hc, hblank⟩ := ha
  refine ⟨c, ?_, hblank⟩
  rw [String.toList_append, List.head?_append, Option.mem_def.1 hc]
  rfl

theorem Ends.prepend (hb : Ends b) (a : String) : Ends (a ++ b) := by
  obtain ⟨c, hc, hblank⟩ := hb
  refine ⟨c, ?_, hblank⟩
  rw [String.toList_append, List.getLast?_append, Option.mem_def.1 hc]
  rfl

namespace Tidy

theorem prepend (hp : Whole p) (hstarts : Starts p) (ha : Tidy a) : Tidy (p ++ a) := by
  cases ha with
  | segment h => exact .segment ⟨hp.append h.whole, hstarts.append _, h.ends.prepend _⟩
  | more h hrest =>
    rw [← String.append_assoc, ← String.append_assoc]
    exact .more ⟨hp.append h.whole, hstarts.append _, h.ends.prepend _⟩ hrest

theorem append (ha : Tidy a) (hp : Whole p) (hends : Ends p) : Tidy (a ++ p) := by
  induction ha with
  | segment h => exact .segment ⟨h.whole.append hp, h.starts.append _, hends.prepend _⟩
  | more h _ ih =>
    rw [String.append_assoc]
    exact .more h ih

theorem between (ha : Tidy a) (hp : Whole p) (hb : Tidy b) : Tidy (a ++ p ++ b) := by
  induction ha with
  | segment h => exact hb.prepend (h.whole.append hp) (h.starts.append p)
  | @more text rest h _ ih =>
    have hshape : text ++ "; " ++ rest ++ p ++ b = text ++ "; " ++ (rest ++ p ++ b) := by
      simp only [String.append_assoc]
    exact hshape ▸ .more h ih

theorem join (ha : Tidy a) (hb : Tidy b) : Tidy (a ++ "; " ++ b) := by
  induction ha with
  | segment h => exact .more h hb
  | @more text rest h _ ih =>
    have hshape : text ++ "; " ++ rest ++ "; " ++ b = text ++ "; " ++ (rest ++ "; " ++ b) := by
      simp only [String.append_assoc]
    exact hshape ▸ .more h ih

theorem intercalate {separator : String}
    (hseparator : ∀ {a b}, Tidy a → Tidy b → Tidy (a ++ separator ++ b)) (hne : texts ≠ [])
    (h : ∀ text ∈ texts, Tidy text) : Tidy (separator.intercalate texts) := by
  induction texts with
  | nil => exact absurd rfl hne
  | cons text rest ih =>
    obtain ⟨htext, hrest⟩ := List.forall_mem_cons.1 h
    cases rest with
    | nil => rwa [String.intercalate_singleton]
    | cons next rest =>
      rw [String.intercalate_cons_cons]
      exact hseparator htext (ih (by simp) hrest)

end Tidy

/-! ### The parts of a text -/

def parts (cs : List Char) : List String :=
  ((splitOn ';' cs).map trim).filterMap fun part =>
    if part.isEmpty then none else some (String.ofList part)

theorem splitOn_append {separator : Char} {cs : List Char} (h : separator ∉ cs)
    (rest : List Char) : splitOn separator (cs ++ separator :: rest) =
      cs :: splitOn separator rest := by
  induction cs with
  | nil => rw [List.nil_append, splitOn, if_pos rfl]
  | cons c cs ih =>
    obtain ⟨hc, hcs⟩ := not_or.1 (mt List.mem_cons.2 h)
    rw [List.cons_append, splitOn, if_neg (Ne.symm hc), ih hcs, consFirst]

section Lead

variable {lead : List Char} (hlead : ∀ c ∈ lead, isBlank c = true)

include hlead

theorem trim_append (h : IsSegment a) : trim (lead ++ a.toList) = a.toList := by
  obtain ⟨first, hfirst, hfirstBlank⟩ := h.starts
  obtain ⟨last, hlast, hlastBlank⟩ := h.ends
  obtain ⟨front, hfront⟩ := List.getLast?_eq_some_iff.1 hlast
  obtain ⟨rest, hrest⟩ := List.head?_eq_some_iff.1 hfirst
  have hleft : (lead ++ a.toList).dropWhile isBlank = a.toList := by
    rw [List.dropWhile_append_of_pos hlead, hrest,
      List.dropWhile_cons_of_neg (by simp [hfirstBlank])]
  have hright : a.toList.rdropWhile isBlank = a.toList := by
    rw [hfront, List.rdropWhile_concat_neg _ _ _ (by simp [hlastBlank])]
  rw [trim, hleft]
  exact hright

theorem parts_append (h : IsSegment a) (rest : List Char) :
    parts (lead ++ a.toList ++ ';' :: rest) = a :: parts rest := by
  have hwhole : ';' ∉ lead ++ a.toList := fun hmem => by
    rcases List.mem_append.1 hmem with hmem | hmem
    · exact absurd (hlead _ hmem) (by decide)
    · exact h.whole _ hmem rfl
  obtain ⟨first, hfirst, _⟩ := h.starts
  obtain ⟨others, hothers⟩ := List.head?_eq_some_iff.1 hfirst
  have hempty : a.toList.isEmpty = false := by rw [hothers, List.isEmpty_cons]
  rw [parts, splitOn_append hwhole, List.map_cons, trim_append hlead h, List.filterMap_cons, hempty]
  simp [parts]

end Lead

/-- How a tidy text is parted, after white space and in front of whatever follows a semicolon. -/
theorem Tidy.exists_parts (h : Tidy a) : ∃ segments : List String, segments ≠ [] ∧
    "; ".intercalate segments = a ∧ ∀ lead : List Char, (∀ c ∈ lead, isBlank c = true) →
      ∀ rest, parts (lead ++ a.toList ++ ';' :: rest) = segments ++ parts rest := by
  induction h with
  | @segment text h =>
    exact ⟨[text], by simp, String.intercalate_singleton, fun lead hlead rest =>
      parts_append hlead h rest⟩
  | @more text others h _ ih =>
    obtain ⟨segments, hne, hsegments, hparts⟩ := ih
    refine ⟨text :: segments, by simp, ?_, fun lead hlead rest => ?_⟩
    · rw [String.intercalate_cons_of_ne_nil hne, hsegments]
    · have hspace : ∀ c ∈ [' '], isBlank c = true := forall_mem_of_all (by decide)
      have hshape : lead ++ (text ++ "; " ++ others).toList ++ ';' :: rest =
          lead ++ text.toList ++ ';' :: ([' '] ++ others.toList ++ ';' :: rest) := by simp
      rw [hshape, parts_append hlead h, hparts [' '] hspace, List.cons_append]

/-- Texts that each end with a semicolon are told apart again, as far as it shows when they are
put together: a text with semicolons inside it gives several parts. -/
theorem intercalate_parts (h : ∀ text ∈ texts, Tidy text) :
    "; ".intercalate (parts (String.join (texts.map (· ++ ";"))).toList) =
      "; ".intercalate texts := by
  suffices hboth : (parts (String.join (texts.map (· ++ ";"))).toList = [] ↔ texts = []) ∧
      "; ".intercalate (parts (String.join (texts.map (· ++ ";"))).toList) =
        "; ".intercalate texts from hboth.2
  induction texts with
  | nil => exact ⟨by decide, by decide⟩
  | cons text rest ih =>
    obtain ⟨htext, hrest⟩ := List.forall_mem_cons.1 h
    obtain ⟨hnil, hjoined⟩ := ih hrest
    obtain ⟨segments, hne, hsegments, hparts⟩ := htext.exists_parts
    have hfirst : parts (String.join ((text :: rest).map (· ++ ";"))).toList =
        segments ++ parts (String.join (rest.map (· ++ ";"))).toList := by
      rw [← hparts [] (by simp)]
      simp
    rw [hfirst]
    refine ⟨by simp [hne], ?_⟩
    cases rest with
    | nil => rw [hnil.2 rfl, List.append_nil, hsegments, String.intercalate_singleton]
    | cons next rest =>
      have hmore := mt hnil.1 (List.cons_ne_nil next rest)
      rw [String.intercalate_append_of_ne_nil hne hmore, hsegments, hjoined,
        String.intercalate_cons_cons]

end Text
end ScriptBind
