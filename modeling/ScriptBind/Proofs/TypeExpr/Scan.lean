import ScriptBind.TypeExpr.Token

/-!
# ScriptBind.Proofs.TypeExpr.Scan

Which tokens there are, and which characters give them.

* `Token.IsIdent` - a text that is a single name; `isIdent_iff` says of which characters.
* `Token.Valid` - what is true of every token of a text (`valid_of_scans`).
* `Token.Scans` - the tokens of characters, with a rule for each token in front of others;
  `scan_eq_ok_iff` says that these are what `scan` gives.
-/

namespace ScriptBind
namespace Token

open Text

/-- The text is one token, a name. -/
def IsIdent (name : String) : Prop := scan name = .ok [.ident name]

def Valid : Token → Prop
  | ident name => IsIdent name
  | int value => value < lengthBound
  | _ => True

/-! ### Names -/

/-- The first character of a name, which starts no other token. -/
structure Begins (c : Char) : Prop where
  notBlank : isBlank c = false
  notPunctuation : ofPunctuation? c = none
  notDot : c ≠ '.'
  notAngle : c ≠ '<'
  notDigit : c.isDigit = false
  starts : startsIdent c = true

instance (c : Char) : Decidable (Begins c) :=
  decidable_of_iff (isBlank c = false ∧ ofPunctuation? c = none ∧ c ≠ '.' ∧ c ≠ '<' ∧
      c.isDigit = false ∧ startsIdent c = true)
    ⟨fun ⟨hb, hp, hd, ha, hn, hs⟩ => ⟨hb, hp, hd, ha, hn, hs⟩,
      fun h => ⟨h.notBlank, h.notPunctuation, h.notDot, h.notAngle, h.notDigit, h.starts⟩⟩

theorem continuesIdent_of_startsIdent {c : Char} (h : startsIdent c = true) (rest : List Char) :
    continuesIdent c rest = true := by
  rw [startsIdent, Bool.or_eq_true] at h
  unfold continuesIdent
  rw [isLetterOrNumber]
  rcases h with h | h <;> simp [h]

theorem spanIdent_append_eq (cs : List Char) : (spanIdent cs).1 ++ (spanIdent cs).2 = cs := by
  induction cs with
  | nil => rfl
  | cons c rest ih =>
    rw [spanIdent]
    split
    · rw [List.cons_append, ih]
    · rfl

/-- A dot at the end of a name would not have belonged to it. -/
theorem spanIdent_fst (cs : List Char) : spanIdent (spanIdent cs).1 = ((spanIdent cs).1, []) := by
  induction cs with
  | nil => rfl
  | cons c rest ih =>
    rw [spanIdent]
    split
    · rename_i hc
      have hc' : continuesIdent c (spanIdent rest).1 = true := by
        cases rest with
        | nil => exact hc
        | cons next rest =>
          unfold continuesIdent at hc ⊢
          cases hstart : startsIdent next with
          | false =>
            simp only [hstart, Bool.and_false, Bool.or_false] at hc
            simp only [hc, Bool.true_or]
          | true =>
            rw [spanIdent, if_pos (continuesIdent_of_startsIdent hstart rest)]
            simpa only [hstart] using hc
      rw [spanIdent, if_pos hc', ih]
    · rfl

/-- What does not go on with a name or a number. -/
def Stops (cs : List Char) : Prop :=
  ∀ c rest, cs = c :: rest → continuesIdent c rest = false ∧ c.isDigit = false

theorem stops_nil : Stops [] := by
  intro c rest h
  cases h

theorem spanIdent_append {cs rest : List Char} (hcs : spanIdent cs = (cs, []))
    (hrest : Stops rest) : spanIdent (cs ++ rest) = (cs, rest) := by
  induction cs with
  | nil =>
    cases rest with
    | nil => rfl
    | cons c rest =>
      have hc := (hrest c rest rfl).1
      rw [List.nil_append, spanIdent, hc]
      rfl
  | cons c cs ih =>
    rw [spanIdent] at hcs
    split at hcs
    · rename_i hc
      have hspan : spanIdent cs = (cs, []) :=
        Prod.ext (List.cons.inj (Prod.mk.inj hcs).1).2 (Prod.mk.inj hcs).2
      have hc' : continuesIdent c (cs ++ rest) = true := by
        cases cs with
        | nil =>
          unfold continuesIdent at hc ⊢
          simp only [Bool.and_false, Bool.or_false] at hc
          simp only [hc, Bool.true_or]
        | cons next cs => exact hc
      rw [List.cons_append, spanIdent, if_pos hc', ih hspan]
    · cases (Prod.mk.inj hcs).1

/-! ### Tokens one by one -/

/-- The characters give these tokens. -/
inductive Scans : List Char → List Token → Prop where
  | nil : Scans [] []
  | blank {c : Char} {rest : List Char} {ts : List Token} :
    isBlank c = true → Scans rest ts → Scans (c :: rest) ts
  | punctuation {c : Char} {t : Token} {rest : List Char} {ts : List Token} :
    isBlank c = false → ofPunctuation? c = some t → Scans rest ts → Scans (c :: rest) (t :: ts)
  | ellipsis {rest : List Char} {ts : List Token} :
    Scans rest ts → Scans ('.' :: '.' :: '.' :: rest) (.ellipsis :: ts)
  | arrow {rest : List Char} {ts : List Token} :
    Scans rest ts → Scans ('<' :: '-' :: rest) (.arrow :: ts)
  | int {c : Char} {rest : List Char} {ts : List Token} :
    c.isDigit = true → digitsValue (c :: (spanDigits rest).1) < lengthBound →
    Scans (spanDigits rest).2 ts →
    Scans (c :: rest) (.int (digitsValue (c :: (spanDigits rest).1)) :: ts)
  | ident {c : Char} {rest : List Char} {ts : List Token} :
    Begins c → Scans (spanIdent rest).2 ts →
    Scans (c :: rest) (.ident (String.ofList (c :: (spanIdent rest).1)) :: ts)

/-- A token is given only once those after it are there. -/
theorem exists_of_cons_eq_ok {result : Except ScanError (List Token)} {t : Token} {ts : List Token}
    (h : (match result with
      | .error e => .error e
      | .ok tokens => .ok (t :: tokens)) = (.ok ts : Except ScanError (List Token))) :
    ∃ tokens, result = .ok tokens ∧ ts = t :: tokens := by
  cases result with
  | error e => cases h
  | ok tokens =>
    cases h
    exact ⟨tokens, rfl, rfl⟩

theorem scans_of_scanFrom {offset : Nat} {cs : List Char} {ts : List Token}
    (h : scanFrom offset cs = .ok ts) : Scans cs ts := by
  induction hn : cs.length using Nat.strongRecOn generalizing offset cs ts with
  | ind n ih =>
  cases cs with
  | nil =>
    rw [scanFrom] at h
    cases h
    exact .nil
  | cons c rest =>
    have hshorter : ∀ {offset cs ts}, cs.length ≤ rest.length → scanFrom offset cs = .ok ts →
        Scans cs ts := fun hle h => ih _ (hn ▸ Nat.lt_succ_of_le hle) h rfl
    rw [scanFrom.eq_def] at h
    dsimp only at h
    split at h
    · exact .blank ‹_› (hshorter (Nat.le_refl _) h)
    rename_i hblank
    cases hp : ofPunctuation? c with
    | some t =>
      rw [hp] at h
      dsimp only at h
      obtain ⟨tokens, hrest, rfl⟩ := exists_of_cons_eq_ok h
      exact .punctuation (Bool.eq_false_iff.2 hblank) hp
        (hshorter (Nat.le_refl _) hrest)
    | none =>
      rw [hp] at h
      dsimp only at h
      by_cases hdot : c = '.'
      · rw [if_pos hdot] at h
        split at h
        · obtain ⟨tokens, hrest, rfl⟩ := exists_of_cons_eq_ok h
          exact hdot ▸ .ellipsis (hshorter (Nat.le_add_right _ 2) hrest)
        · cases h
      by_cases hangle : c = '<'
      · rw [if_neg hdot, if_pos hangle] at h
        split at h
        · obtain ⟨tokens, hrest, rfl⟩ := exists_of_cons_eq_ok h
          exact hangle ▸ .arrow (hshorter (Nat.le_add_right _ 1) hrest)
        · cases h
      rw [if_neg hdot, if_neg hangle] at h
      by_cases hdigit : c.isDigit = true
      · rw [if_pos hdigit] at h
        split at h
        · obtain ⟨tokens, hrest, rfl⟩ := exists_of_cons_eq_ok h
          exact .int hdigit ‹_› (hshorter (length_spanDigits rest) hrest)
        · cases h
      rw [if_neg hdigit] at h
      split at h
      · obtain ⟨tokens, hrest, rfl⟩ := exists_of_cons_eq_ok h
        have hbegins : Begins c := ⟨Bool.eq_false_iff.2 hblank, hp, hdot, hangle,
          Bool.eq_false_iff.2 hdigit, ‹_›⟩
        exact .ident hbegins (hshorter (length_spanIdent rest) hrest)
      · cases h

theorem exists_digitChar {c : Char} (h : c.isDigit = true) : ∃ n < 10, c = Nat.digitChar n := by
  have hzero : '0'.toNat = 48 := rfl
  have hnine : '9'.toNat = 57 := rfl
  obtain ⟨hlo, hhi⟩ := Char.isDigit_iff_toNat.1 h
  have hlt : c.toNat - 48 < 10 := by omega
  refine ⟨c.toNat - 48, hlt, ?_⟩
  rw [← Char.toNat_inj, Nat.toNat_digitChar_of_lt_ten hlt]
  omega

/-- Digits start no other token. -/
theorem eq_of_isDigit {c : Char} (h : c.isDigit = true) :
    isBlank c = false ∧ ofPunctuation? c = none ∧ c ≠ '.' ∧ c ≠ '<' := by
  have hdigits : ∀ n < 10, isBlank (Nat.digitChar n) = false ∧
      ofPunctuation? (Nat.digitChar n) = none ∧ Nat.digitChar n ≠ '.' ∧ Nat.digitChar n ≠ '<' := by
    decide
  obtain ⟨n, hn, rfl⟩ := exists_digitChar h
  exact hdigits n hn

theorem scanFrom_of_scans {cs : List Char} {ts : List Token} (h : Scans cs ts) (offset : Nat) :
    scanFrom offset cs = .ok ts := by
  induction h generalizing offset with
  | nil => rw [scanFrom]
  | blank hblank _ ih =>
    rw [scanFrom.eq_def]
    simp only [hblank, if_true, ih]
  | punctuation hblank ht _ ih =>
    rw [scanFrom.eq_def]
    simp only [hblank, ht, ih, Bool.false_eq_true, if_false]
  | ellipsis _ ih =>
    have hblank : isBlank '.' = false := by decide
    have hp : ofPunctuation? '.' = none := rfl
    rw [scanFrom.eq_def]
    simp only [hblank, hp, ih, Bool.false_eq_true, if_false, if_true]
  | arrow _ ih =>
    have hblank : isBlank '<' = false := by decide
    have hp : ofPunctuation? '<' = none := rfl
    have hdot : '<' ≠ '.' := by decide
    rw [scanFrom.eq_def]
    simp only [hblank, hp, hdot, ih, Bool.false_eq_true, if_false, if_true]
  | int hdigit hlt _ ih =>
    obtain ⟨hblank, hp, hdot, hangle⟩ := eq_of_isDigit hdigit
    rw [scanFrom.eq_def]
    simp only [hblank, hp, hdot, hangle, hdigit, hlt, ih, Bool.false_eq_true, if_false, if_true]
  | ident hc _ ih =>
    rw [scanFrom.eq_def]
    simp only [hc.notBlank, hc.notPunctuation, hc.notDot, hc.notAngle, hc.notDigit, hc.starts, ih,
      Bool.false_eq_true, if_false, if_true]

theorem scan_eq_ok_iff {text : String} {ts : List Token} :
    scan text = .ok ts ↔ Scans text.toList ts :=
  ⟨scans_of_scanFrom, fun h => scanFrom_of_scans h 0⟩

/-! ### What a token is -/

theorem ofPunctuation?_valid {c : Char} {t : Token} (h : ofPunctuation? c = some t) :
    t.Valid ∧ ∀ name, t ≠ .ident name := by
  unfold ofPunctuation? at h
  split at h <;> cases h <;> exact ⟨trivial, fun name h => by cases h⟩

theorem length_le_of_scans {cs : List Char} {ts : List Token} (h : Scans cs ts) {name : String}
    (hname : .ident name ∈ ts) : name.toList.length ≤ cs.length := by
  induction h with
  | nil => cases hname
  | blank _ _ ih => exact Nat.le_succ_of_le (ih hname)
  | punctuation _ ht _ ih =>
    rcases List.mem_cons.1 hname with heq | hname
    · exact absurd heq.symm ((ofPunctuation?_valid ht).2 name)
    · exact Nat.le_succ_of_le (ih hname)
  | ellipsis _ ih | arrow _ ih =>
    rcases List.mem_cons.1 hname with heq | hname
    · cases heq
    · have := ih hname
      simp only [List.length_cons]
      omega
  | @int c rest ts _ _ _ ih =>
    rcases List.mem_cons.1 hname with heq | hname
    · cases heq
    · exact Nat.le_succ_of_le (Nat.le_trans (ih hname) (length_spanDigits rest))
  | @ident c rest ts _ _ ih =>
    have hlength := congrArg List.length (spanIdent_append_eq rest)
    rw [List.length_append] at hlength
    rcases List.mem_cons.1 hname with heq | hname
    · cases heq
      rw [String.toList_ofList, List.length_cons, List.length_cons]
      omega
    · exact Nat.le_succ_of_le (Nat.le_trans (ih hname) (length_spanIdent rest))

theorem isIdent_iff {name : String} :
    IsIdent name ↔ ∃ c rest, name.toList = c :: rest ∧ Begins c ∧ spanIdent rest = (rest, []) := by
  rw [IsIdent, scan_eq_ok_iff]
  constructor
  · intro h
    generalize hcs : name.toList = cs at h
    generalize hts : [Token.ident name] = ts at h
    cases h with
    | nil => cases hts
    | blank _ hrest =>
      -- what is left is shorter than the name
      have hle := length_le_of_scans hrest (hts ▸ List.mem_singleton_self _)
      rw [hcs, List.length_cons] at hle
      omega
    | punctuation _ ht _ =>
      cases hts
      exact absurd rfl ((ofPunctuation?_valid ht).2 name)
    | @ident c rest ts hc _ =>
      cases hts
      rw [String.toList_ofList, List.cons.injEq] at hcs
      have hfst := spanIdent_fst rest
      rw [hcs.2] at hfst
      exact ⟨c, rest, rfl, hc, hfst⟩
    | ellipsis _ | arrow _ | int _ _ _ => cases hts
  · rintro ⟨c, rest, hname, hc, hrest⟩
    have h := @Scans.ident c rest [] hc (by rw [hrest]; exact .nil)
    rw [hrest, ← hname, String.ofList_toList] at h
    exact h

/-- Whether the characters are those of a name. -/
def isName : List Char → Bool
  | [] => false
  | c :: rest => Begins c ∧ spanIdent rest = (rest, [])

theorem isName_iff {name : String} : isName name.toList = true ↔ IsIdent name := by
  rw [isIdent_iff]
  unfold isName
  split
  · rename_i h
    simp [h]
  · rename_i c rest h
    rw [h, decide_eq_true_eq]
    constructor
    · exact fun hname => ⟨c, rest, rfl, hname⟩
    · rintro ⟨_, _, heq, hname⟩
      cases heq
      exact hname

instance : DecidablePred IsIdent := fun _ => decidable_of_iff _ isName_iff

theorem valid_of_scans {cs : List Char} {ts : List Token} (h : Scans cs ts) :
    ∀ t ∈ ts, t.Valid := by
  induction h with
  | nil => simp
  | blank _ _ ih => exact ih
  | punctuation _ ht _ ih => exact List.forall_mem_cons.2 ⟨(ofPunctuation?_valid ht).1, ih⟩
  | ellipsis _ ih | arrow _ ih => exact List.forall_mem_cons.2 ⟨trivial, ih⟩
  | int _ hlt _ ih => exact List.forall_mem_cons.2 ⟨hlt, ih⟩
  | @ident c rest ts hc _ ih =>
    have hname : IsIdent (String.ofList (c :: (spanIdent rest).1)) :=
      isIdent_iff.2 ⟨c, (spanIdent rest).1, String.toList_ofList, hc, spanIdent_fst rest⟩
    exact List.forall_mem_cons.2 ⟨hname, ih⟩

/-! ### Tokens in writing -/

theorem scans_ident {name : String} {rest : List Char} {ts : List Token} (h : IsIdent name)
    (hrest : Stops rest) (hts : Scans rest ts) :
    Scans (name.toList ++ rest) (.ident name :: ts) := by
  obtain ⟨c, cs, hname, hc, hcs⟩ := isIdent_iff.1 h
  have hspan := spanIdent_append hcs hrest
  have h := @Scans.ident c (cs ++ rest) ts hc (by rw [hspan]; exact hts)
  rwa [hspan, ← hname, String.ofList_toList, ← List.cons_append, ← hname] at h

theorem spanDigits_append {digits rest : List Char} (hdigits : ∀ c ∈ digits, c.isDigit = true)
    (hrest : Stops rest) : spanDigits (digits ++ rest) = (digits, rest) := by
  induction digits with
  | nil =>
    cases rest with
    | nil => rfl
    | cons c rest =>
      have hc := (hrest c rest rfl).2
      rw [List.nil_append, spanDigits, hc]
      rfl
  | cons c digits ih =>
    obtain ⟨hc, hdigits⟩ := List.forall_mem_cons.1 hdigits
    rw [List.cons_append, spanDigits, if_pos hc, ih hdigits]

theorem scans_int {n : Nat} {rest : List Char} {ts : List Token} (h : n < lengthBound)
    (hrest : Stops rest) (hts : Scans rest ts) :
    Scans ((toString n).toList ++ rest) (.int n :: ts) := by
  have hvalue : digitsValue (Nat.toDigits 10 n) = n :=
    Nat.ofDigitChars_toDigits (by decide) (by decide)
  have hdigits : ∀ c ∈ Nat.toDigits 10 n, c.isDigit = true :=
    fun c => Nat.isDigit_of_mem_toDigits (by decide) (by decide)
  rw [Nat.toString_eq_repr, Nat.toList_repr]
  cases hn : Nat.toDigits 10 n with
  | nil => exact absurd hn Nat.toDigits_ne_nil
  | cons c digits =>
    rw [hn] at hvalue hdigits
    obtain ⟨hc, hdigits⟩ := List.forall_mem_cons.1 hdigits
    have hspan := spanDigits_append hdigits hrest
    have h := @Scans.int c (digits ++ rest) ts hc (by rw [hspan, hvalue]; exact h)
      (by rw [hspan]; exact hts)
    rwa [hspan, hvalue] at h

end Token
end ScriptBind
