import Mathlib
import ScriptBind.Proofs.Lists
import ScriptBind.Text.Slug

/-!
# ScriptBind.Proofs.Text.Slug

What a slug looks like, whatever the name is that it was made from.

* `Text.Spaced` - words of small letters and digits with one underscore between each two.
* `Text.IsSlug` - such words, from a letter on and not too many.
* `Text.isSlug_slug` - every slug is like that.
* `Text.slug_eq_self_iff` - and nothing else is its own slug.
-/

namespace ScriptBind
namespace Text

/-! ### Characters -/

/-- The characters of a word. -/
def IsPlain (c : Char) : Prop := c.isLower = true ∨ c.isDigit = true

instance : DecidablePred IsPlain := fun c =>
  inferInstanceAs (Decidable (c.isLower = true ∨ c.isDigit = true))

theorem isLower_toLower {c : Char} (h : c.isAlpha = true) : c.toLower.isLower = true := by
  rw [Char.isAlpha, Bool.or_eq_true] at h
  rw [Char.toLower]
  split
  · rename_i hupper
    have hge : 65 ≤ c.val.toNat := UInt32.le_iff_toNat_le.1 hupper.1
    have hle : c.val.toNat ≤ 90 := UInt32.le_iff_toNat_le.1 hupper.2
    simp only [Char.isLower, Bool.and_eq_true, decide_eq_true_eq, ge_iff_le,
      UInt32.le_iff_toNat_le, UInt32.toNat_add, UInt32.reduceSub, UInt32.reduceToNat,
      Char.reduceVal]
    omega
  · rename_i hnot
    refine h.resolve_left fun hupper => hnot ?_
    simpa [Char.isUpper] using hupper

theorem toLower_of_isPlain {c : Char} (h : IsPlain c) : c.toLower = c := by
  rw [Char.toLower, dif_neg]
  rintro ⟨hle, hge⟩
  simp only [IsPlain, Char.isLower, Char.isDigit, Bool.and_eq_true, decide_eq_true_eq,
    UInt32.le_iff_toNat_le] at *
  grind

theorem isPlain_toLower {c : Char} (h : isSlugChar c = true) : IsPlain c.toLower := by
  rw [isSlugChar, Bool.or_eq_true] at h
  rcases h with halpha | hdigit
  · exact .inl (isLower_toLower halpha)
  · rw [toLower_of_isPlain (.inr hdigit)]
    exact .inr hdigit

theorem isSlugChar_of_isPlain {c : Char} (h : IsPlain c) : isSlugChar c = true := by
  rw [isSlugChar, Char.isAlpha]
  rcases h with hlower | hdigit
  · rw [hlower, Bool.or_true, Bool.true_or]
  · rw [hdigit, Bool.or_true]

theorem not_isDigit_of_isLower {c : Char} (h : c.isLower = true) : c.isDigit = false := by
  simp only [Char.isLower, Char.isDigit, Bool.and_eq_true, Bool.and_eq_false_iff,
    decide_eq_true_eq, decide_eq_false_iff_not, ge_iff_le, UInt32.le_iff_toNat_le,
    UInt32.reduceToNat, Char.reduceVal] at *
  omega

theorem ne_underscore_of_isPlain {c : Char} (h : IsPlain c) : c ≠ '_' := by
  rintro rfl
  revert h
  rw [IsPlain]
  decide

/-! ### Words with underscores between them -/

/-- The second of two neighbours is no underscore after an underscore. -/
abbrev Single (text : List Char) : Prop := text.IsChain fun a b => a = '_' → b ≠ '_'

structure Spaced (text : List Char) : Prop where
  chars : ∀ c ∈ text, IsPlain c ∨ c = '_'
  single : Single text
  starts : text.head? ≠ some '_'
  ends : text.getLast? ≠ some '_'

theorem spaced_nil : Spaced [] := ⟨nofun, .nil, nofun, nofun⟩

theorem spaced_word {word : List Char} (h : ∀ c ∈ word, IsPlain c) : Spaced word where
  chars c hc := .inl (h c hc)
  single := by
    refine (List.pairwise_of_forall_mem_list fun a ha b _ hunderscore => ?_).isChain
    exact absurd hunderscore (ne_underscore_of_isPlain (h a ha))
  starts hstarts := ne_underscore_of_isPlain (h _ (List.mem_of_head? hstarts)) rfl
  ends hends := ne_underscore_of_isPlain (h _ (List.mem_of_getLast? hends)) rfl

theorem Spaced.append {text rest : List Char} (h : Spaced text) (hrest : Spaced rest)
    (hne : text ≠ []) (hne' : rest ≠ []) : Spaced (text ++ '_' :: rest) where
  chars c hc := by
    rcases List.mem_append.1 hc with hc | hc
    · exact h.chars c hc
    · rcases List.mem_cons.1 hc with rfl | hc
      · exact .inr rfl
      · exact hrest.chars c hc
  single := by
    refine h.single.append (hrest.single.cons fun c hc _ hunderscore => ?_) ?_
    · exact hrest.starts (hunderscore ▸ hc)
    · rintro c hc _ _ rfl
      exact absurd hc h.ends
  starts := by
    cases text with
    | nil => exact absurd rfl hne
    | cons c text => exact h.starts
  ends := by
    rw [List.getLast?_append_of_ne_nil _ (List.cons_ne_nil _ _), List.getLast?_cons_of_ne_nil hne']
    exact hrest.ends

theorem Spaced.of_isPrefix {text short : List Char} (h : Spaced text) (hstart : short <+: text)
    (hends : short.getLast? ≠ some '_') : Spaced short where
  chars c hc := h.chars c (hstart.subset hc)
  single := h.single.prefix hstart
  starts := by
    obtain ⟨rest, rfl⟩ := hstart
    cases short with
    | nil => nofun
    | cons c short => exact h.starts
  ends := hends

/-! ### The words of a name -/

def IsWord (word : List Char) : Prop := word ≠ [] ∧ ∀ c ∈ word, IsPlain c

theorem isWord_reverse {run : List Char} (hne : ¬ run.isEmpty = true)
    (hrun : ∀ c ∈ run, IsPlain c) : IsWord run.reverse :=
  ⟨by simpa using hne, fun c hc => hrun c (List.mem_reverse.1 hc)⟩

theorem isWord_of_mem_wordsFrom {text run word : List Char} (hrun : ∀ c ∈ run, IsPlain c)
    (hword : word ∈ wordsFrom run text) : IsWord word := by
  induction text generalizing run with
  | nil =>
    rw [wordsFrom] at hword
    split at hword
    · cases hword
    · rename_i hne
      exact List.mem_singleton.1 hword ▸ isWord_reverse hne hrun
  | cons c rest ih =>
    rw [wordsFrom] at hword
    split at hword
    · rename_i hslug
      exact ih (List.forall_mem_cons.2 ⟨isPlain_toLower hslug, hrun⟩) hword
    · split at hword
      · exact ih (List.forall_mem_nil _) hword
      · rename_i hne
        rcases List.mem_cons.1 hword with rfl | hword
        · exact isWord_reverse hne hrun
        · exact ih (List.forall_mem_nil _) hword

theorem joinWords_ne_nil {word : List Char} (hword : word ≠ []) (words : List (List Char)) :
    joinWords (word :: words) ≠ [] := by
  cases words with
  | nil => exact hword
  | cons next rest => exact List.append_ne_nil_of_left_ne_nil hword _

theorem spaced_joinWords {words : List (List Char)} (h : ∀ word ∈ words, IsWord word) :
    Spaced (joinWords words) := by
  induction words using joinWords.induct with
  | case1 => exact spaced_nil
  | case2 word => exact spaced_word (h word (List.mem_singleton_self word)).2
  | case3 word next rest ih =>
    obtain ⟨hword, hwords⟩ := List.forall_mem_cons.1 h
    have hnext := (hwords next List.mem_cons_self).1
    exact (spaced_word hword.2).append (ih hwords) hword.1 (joinWords_ne_nil hnext rest)

/-- The words of a text that is spaced are what stands between its underscores. -/
theorem joinWords_wordsFrom {text run : List Char} (hchars : ∀ c ∈ text, IsPlain c ∨ c = '_')
    (hsingle : Single text) (hends : text.getLast? ≠ some '_')
    (hstarts : run = [] → text.head? ≠ some '_') :
    joinWords (wordsFrom run text) = run.reverse ++ text := by
  induction text generalizing run with
  | nil =>
    rw [wordsFrom, List.append_nil]
    split
    · rename_i hempty
      rw [List.isEmpty_iff.1 hempty]
      rfl
    · rfl
  | cons c rest ih =>
    obtain ⟨hc, hall⟩ := List.forall_mem_cons.1 hchars
    obtain ⟨hnext, htail⟩ := List.isChain_cons.1 hsingle
    have hrest : rest.getLast? ≠ some '_' := fun hlast => hends (by simp [List.getLast?_cons, hlast])
    rcases hc with hplain | rfl
    · rw [wordsFrom, if_pos (isSlugChar_of_isPlain hplain), toLower_of_isPlain hplain,
        ih hall htail hrest (fun hnil => by cases hnil), List.reverse_cons,
        List.append_assoc]
      rfl
    · have hrun : ¬ run.isEmpty = true := fun hempty => hstarts (List.isEmpty_iff.1 hempty) rfl
      have hne : rest ≠ [] := by
        rintro rfl
        exact hends rfl
      have hwords : joinWords (wordsFrom [] rest) = rest :=
        ih hall htail hrest fun _ hhead => hnext _ hhead rfl rfl
      rw [wordsFrom, if_neg (by decide), if_neg hrun]
      cases hcases : wordsFrom [] rest with
      | nil =>
        rw [hcases] at hwords
        exact absurd hwords.symm hne
      | cons word words =>
        rw [hcases] at hwords
        rw [joinWords, hwords]

/-! ### Spelling out -/

theorem replaceFrom_of_not_mem {old new text : List Char} {c : Char} (hc : c ∈ old)
    (htext : c ∉ text) : replaceFrom old new 0 text = text := by
  induction text with
  | nil => rfl
  | cons d rest ih =>
    have hnot : ¬ old.isPrefixOf (d :: rest) = true := fun hstart =>
      htext ((List.isPrefixOf_iff_prefix.1 hstart).subset hc)
    rw [replaceFrom, if_neg hnot, ih fun hmem => htext (List.mem_cons_of_mem d hmem)]

theorem replace_of_not_mem {old new : String} {text : List Char} {c : Char} (hc : c ∈ old.toList)
    (htext : c ∉ text) : replace old new text = text := replaceFrom_of_not_mem hc htext

theorem spellOut_of_spaced {text : List Char} (h : Spaced text) : spellOut text = text := by
  have hnone : ∀ c, ¬ IsPlain c → c ≠ '_' → c ∉ text := fun c hplain hne hc =>
    (h.chars c hc).elim hplain hne
  have hnotPlain : ∀ c ∈ ['<', '[', '.', '*'], ¬ IsPlain c := forall_mem_of_all (by decide)
  have hangle : '<' ∉ text := hnone _ (hnotPlain _ (by decide)) (by decide)
  rw [spellOut, replace_of_not_mem (c := '<') (by decide) hangle,
    replace_of_not_mem (c := '<') (by decide) hangle,
    replace_of_not_mem (c := '[') (by decide) (hnone _ (hnotPlain _ (by decide)) (by decide)),
    replace_of_not_mem (c := '.') (by decide) (hnone _ (hnotPlain _ (by decide)) (by decide)),
    replace_of_not_mem (c := '*') (by decide) (hnone _ (hnotPlain _ (by decide)) (by decide))]

/-! ### The limit -/

theorem isPrefix_shorten (text : List Char) : shorten text <+: text := by
  rw [shorten]
  split
  · exact (List.rdropWhile_prefix _ _).trans (List.take_prefix _ _)
  · exact List.prefix_refl text

theorem length_shorten_le (text : List Char) : (shorten text).length ≤ slugLimit := by
  rw [shorten]
  split
  · exact (List.rdropWhile_prefix _ _).length_le.trans (List.length_take_le _ _)
  · rename_i hle
    exact Nat.le_of_not_lt hle

theorem getLast?_shorten {text : List Char} (h : text.getLast? ≠ some '_') :
    (shorten text).getLast? ≠ some '_' := by
  rw [shorten]
  split
  · intro hlast
    obtain ⟨hne, hlast⟩ := List.mem_getLast?_eq_getLast hlast
    exact List.rdropWhile_last_not (· == '_') (text.take slugLimit) hne (beq_iff_eq.2 hlast.symm)
  · exact h

theorem shorten_cons {c : Char} {rest : List Char} (hc : c ≠ '_') :
    ∃ rest', shorten (c :: rest) = c :: rest' := by
  have hne : shorten (c :: rest) ≠ [] := by
    rw [shorten]
    split
    · intro hnil
      have hall := (List.rdropWhile_eq_nil_iff (p := (· == '_'))).1 hnil
      exact hc (by simpa using hall c (List.mem_cons_self ..))
    · exact List.cons_ne_nil c rest
  obtain ⟨more, hmore⟩ := isPrefix_shorten (c :: rest)
  cases hshort : shorten (c :: rest) with
  | nil => exact absurd hshort hne
  | cons d rest' =>
    rw [hshort] at hmore
    exact ⟨rest', by rw [(List.cons.inj hmore).1]⟩

/-! ### Slugs -/

structure IsSlug (name : String) : Prop where
  chars : ∀ c ∈ name.toList, IsPlain c ∨ c = '_'
  single : Single name.toList
  starts : ∃ c rest, name.toList = c :: rest ∧ c.isLower = true
  ends : name.toList.getLast? ≠ some '_'
  short : name.length ≤ slugLimit

/-- A digit at the beginning comes after a word. -/
theorem slugChars_eq (text : List Char) : ∃ lettered, Spaced lettered ∧
    (lettered = [] ∨ ∃ c rest, lettered = c :: rest ∧ c.isLower = true) ∧
    slugChars text = if (shorten lettered).isEmpty then "anon".toList else shorten lettered := by
  have hjoined : Spaced (joinWords (wordsFrom [] (spellOut text))) :=
    spaced_joinWords fun _ hword => isWord_of_mem_wordsFrom (List.forall_mem_nil _) hword
  simp only [slugChars]
  generalize joinWords (wordsFrom [] (spellOut text)) = joined at hjoined
  refine ⟨_, ?_, ?_, rfl⟩
  · split
    · rename_i hdigit
      have hne : joined ≠ [] := by
        rintro rfl
        cases hdigit
      have harray : Spaced "array".toList := spaced_word (forall_mem_of_all (by decide))
      exact harray.append hjoined (by decide) hne
    · exact hjoined
  · split
    · exact .inr ⟨'a', _, rfl, rfl⟩
    · rename_i hdigit
      cases joined with
      | nil => exact .inl rfl
      | cons c rest =>
        rcases hjoined.chars c List.mem_cons_self with (hlower | hc) | rfl
        · exact .inr ⟨c, rest, rfl, hlower⟩
        · exact absurd hc hdigit
        · exact absurd rfl hjoined.starts

theorem isSlug_slug (name : String) : IsSlug (slug name) := by
  obtain ⟨lettered, hspaced, hletter, heq⟩ := slugChars_eq name.toList
  have hlist : (slug name).toList = slugChars name.toList := String.toList_ofList
  have hanon : IsSlug "anon" :=
    ⟨forall_mem_of_all (by decide), by decide, ⟨'a', _, rfl, rfl⟩, by decide, by decide⟩
  rcases hletter with rfl | ⟨c, rest, rfl, hlower⟩
  · have hslug : slug name = "anon" := String.toList_inj.1 (hlist.trans heq)
    exact hslug ▸ hanon
  · obtain ⟨rest', hshort⟩ : ∃ rest', shorten (c :: rest) = c :: rest' :=
      shorten_cons (ne_underscore_of_isPlain (.inl hlower))
    have hends := getLast?_shorten hspaced.ends
    have hkept : Spaced (c :: rest') := hshort ▸ hspaced.of_isPrefix (isPrefix_shorten _) hends
    have hlength := length_shorten_le (c :: rest)
    rw [hshort] at heq hlength
    have hname : (slug name).toList = c :: rest' := hlist.trans heq
    exact {
      chars := hname ▸ hkept.chars
      single := hname ▸ hkept.single
      starts := ⟨c, rest', hname, hlower⟩
      ends := hname ▸ hkept.ends
      short := by rw [← String.length_toList, hname]; exact hlength }

/-- What has the form of a slug is its own slug. -/
theorem slug_eq_self {name : String} (h : IsSlug name) : slug name = name := by
  obtain ⟨c, rest, hname, hlower⟩ := h.starts
  have hstarts : name.toList.head? ≠ some '_' := by
    rw [hname]
    exact fun hhead => ne_underscore_of_isPlain (.inl hlower) (Option.some.inj hhead)
  have hspaced : Spaced name.toList := ⟨h.chars, h.single, hstarts, h.ends⟩
  have hwords : joinWords (wordsFrom [] name.toList) = name.toList :=
    joinWords_wordsFrom h.chars h.single h.ends fun _ => hstarts
  have hdigit : ¬ startsWithDigit name.toList = true := by
    rw [hname, startsWithDigit, not_isDigit_of_isLower hlower]
    exact Bool.false_ne_true
  have hshort : shorten name.toList = name.toList := by
    rw [shorten, if_neg]
    rw [String.length_toList]
    exact Nat.not_lt.2 h.short
  refine String.toList_inj.1 ?_
  rw [slug, String.toList_ofList]
  simp only [slugChars, spellOut_of_spaced hspaced, hwords, if_neg hdigit, hshort]
  rw [hname]
  rfl

/-- The names that are slugs are those which are their own slugs. -/
theorem slug_eq_self_iff {name : String} : slug name = name ↔ IsSlug name :=
  ⟨fun h => h ▸ isSlug_slug name, slug_eq_self⟩

theorem slug_slug (name : String) : slug (slug name) = slug name := slug_eq_self (isSlug_slug name)

end Text
end ScriptBind
