import ScriptBind.Proofs.Canon.Delimited
import ScriptBind.Proofs.Canon.Plain
import ScriptBind.Proofs.Canon.Written

/-!
# ScriptBind.Proofs.Canon.Words

The word with which a written form begins, and what follows it.

* `CanonKind.atom?` - the name of a type that is written as one word.
* `CanonKind.face_eq_of_atom?` - such a name says what the type is, except for the fields of a struct
  and for what stands behind a name.
* `CanonKind.head_tail_inj` - two written forms that go on alike begin with the same word.
* `CanonKind.form_eq_of_tail_eq` - the word and what follows it say what kind of type it is.
-/

namespace ScriptBind

open Notation

namespace Notation

/-- Begins with no character that closes or parts written forms. -/
def Opens : List Char → Prop
  | [] => False
  | c :: _ => c ∉ [')', '(', '\x7d', '.', ' ']

theorem opens_of_begins {c : Char} (h : Token.Begins c) (rest : List Char) : Opens (c :: rest) := by
  intro hmem
  have hnone : ∀ c ∈ [')', '(', '\x7d', '.', ' '], ¬ Token.Begins c :=
    forall_mem_of_all (by decide)
  exact hnone c hmem h

theorem opens_of_isIdent {name : String} (h : Token.IsIdent name) (rest : List Char) :
    Opens (name.toList ++ rest) := by
  obtain ⟨c, cs, hname, hc, _⟩ := Token.isIdent_iff.1 h
  rw [hname]
  exact opens_of_begins hc _

end Notation

namespace CanonKind

/-! ### Types that are written as one word -/

def atom? : CanonKind → Option String
  | .bool => some "bool"
  | .int width signedness => some (signedness.typeName width)
  | .float precision => some precision.typeName
  | .complex bits => some ("complex" ++ toString bits)
  | .unsafePointer => some "unsafe.Pointer"
  | .string => some "string"
  | .any => some "any"
  | .error => some "error"
  | .struct aliasName _ => some aliasName
  | .named name _ => some name
  | _ => none

/-- What the word says: not the fields of a struct, nor what stands behind a name. -/
def face : CanonKind → CanonKind
  | .struct aliasName _ => .struct aliasName []
  | .named name _ => .named name none
  | kind => kind

/-- Read the word back. -/
def ofAtom (name : String) : CanonKind :=
  if '.' ∈ name.toList then if name = "unsafe.Pointer" then .unsafePointer else .named name none
  else
    match name.toList with
    | 'b' :: _ => .bool
    | 's' :: _ => .string
    | 'a' :: _ => .any
    | 'e' :: _ => .error
    | 'f' :: 'l' :: 'o' :: 'a' :: 't' :: '3' :: _ => .float .single
    | 'f' :: _ => .float .double
    | 'i' :: 'n' :: 't' :: digits => .int (Nat.ofDigitChars 10 digits 0) .signed
    | 'u' :: 'i' :: 'n' :: 't' :: digits => .int (Nat.ofDigitChars 10 digits 0) .unsigned
    | 'c' :: 'o' :: 'm' :: 'p' :: 'l' :: 'e' :: 'x' :: digits =>
      .complex (Nat.ofDigitChars 10 digits 0)
    | _ => .struct name []

section Atom

variable {s : Session} {kind kind' : CanonKind} {name : String}

theorem toList_structAlias (listing : String) :
    ∃ rest, (structAlias listing).toList = 'S' :: rest ∧
      ∀ c ∈ rest, isWordChar c = true ∧ c ≠ '.' := by
  have hstem : ∀ c ∈ "truct_".toList, isWordChar c = true ∧ c ≠ '.' :=
    forall_mem_of_all (by decide)
  have hdigits : ∀ d < 16, isWordChar (Nat.digitChar d) = true ∧ Nat.digitChar d ≠ '.' := by decide
  refine ⟨"truct_".toList ++ (Text.hexPadded 16 (structHash listing)).toList, ?_, ?_⟩
  · simp [structAlias, structAliasStem]
  · refine List.forall_mem_append.2 ⟨hstem, fun c hc => ?_⟩
    obtain ⟨d, hd, rfl⟩ := mem_hexPadded hc
    exact hdigits d hd

theorem dot_mem_of_isQualified (h : IsQualified name) : '.' ∈ name.toList := by
  obtain ⟨scope, base, _, _, rfl⟩ := h
  simp

theorem dot_not_mem_toDigits (n : Nat) : '.' ∉ Nat.toDigits 10 n := fun h =>
  absurd (Nat.isDigit_of_mem_toDigits (by decide) (by decide) h) (by decide)

theorem ofAtom_of_atom? (hk : kind.Plain s) (h : kind.atom? = some name) :
    ofAtom name = kind.face := by
  cases kind with
  | named n u =>
    cases h
    rw [ofAtom, if_pos (dot_mem_of_isQualified hk.1), if_neg hk.2]
    rfl
  | struct a fields =>
    cases h
    obtain ⟨rest, hrest, hchars⟩ := toList_structAlias (s.fieldListing fields)
    have hdot : '.' ∉ 'S' :: rest := fun h => by
      rcases List.mem_cons.1 h with h | h
      · cases h
      · exact (hchars _ h).2 rfl
    rw [ofAtom, hk.1, hrest, if_neg hdot]
    rfl
  | int width signedness =>
    cases h
    cases signedness <;>
      simp [ofAtom, Signedness.typeName, dot_not_mem_toDigits, face]
  | complex bits =>
    cases h
    simp [ofAtom, dot_not_mem_toDigits, face]
  | float precision => cases precision <;> cases h <;> rfl
  | _ => cases h <;> rfl

theorem face_eq_of_atom? (hk : kind.Plain s) (hk' : kind'.Plain s) (h : kind.atom? = some name)
    (h' : kind'.atom? = some name) : kind.face = kind'.face :=
  (ofAtom_of_atom? hk h).symm.trans (ofAtom_of_atom? hk' h')

/-- Kinds with the same word, where only a struct has more to it. -/
theorem outline_eq_of_face_eq
    (hstruct : ∀ aliasName fields fields', kind = .struct aliasName fields →
      kind' = .struct aliasName fields' → fields = fields')
    (heq : kind.face = kind'.face) : kind.outline = kind'.outline := by
  cases kind with
  | struct aliasName fields =>
    cases kind' <;> simp only [face, reduceCtorEq, struct.injEq] at heq
    obtain ⟨rfl, _⟩ := heq
    rw [hstruct aliasName fields _ rfl rfl]
  | _ => cases kind' <;> simp_all [face, outline]

theorem isWordChar_of_isQualified (h : IsQualified name) :
    ∀ c ∈ name.toList, isWordChar c = true := by
  obtain ⟨scope, base, hscope, hbase, rfl⟩ := h
  rw [String.toList_append, String.toList_append]
  have hdot : ∀ c ∈ ".".toList, isWordChar c = true := List.all_eq_true.1 (by decide)
  exact List.forall_mem_append.2 ⟨List.forall_mem_append.2 ⟨isWordChar_of_isIdent hscope, hdot⟩,
    isWordChar_of_isIdent hbase⟩

theorem isWordChar_of_atom? (hk : kind.Plain s) (h : kind.atom? = some name) :
    ∀ c ∈ name.toList, isWordChar c = true := by
  cases kind with
  | named n u =>
    cases h
    exact isWordChar_of_isQualified hk.1
  | struct a fields =>
    cases h
    obtain ⟨rest, hrest, hchars⟩ := toList_structAlias (s.fieldListing fields)
    rw [hk.1, hrest]
    exact List.forall_mem_cons.2 ⟨by decide, fun c hc => (hchars c hc).1⟩
  | int width signedness =>
    cases h
    cases signedness <;> rw [Signedness.typeName, String.toList_append] <;>
      exact List.forall_mem_append.2
        ⟨List.all_eq_true.1 (by decide), isWordChar_of_mem_toString⟩
  | complex bits =>
    cases h
    rw [String.toList_append]
    exact List.forall_mem_append.2
        ⟨List.all_eq_true.1 (by decide), isWordChar_of_mem_toString⟩
  | float precision =>
    cases precision <;> cases h <;> exact List.all_eq_true.1 (by decide)
  | _ => cases h <;> exact List.all_eq_true.1 (by decide)

/-- The words with which types of more than one word begin; of some no word begins them. -/
def keywords : List String := ["", "map", "func", "chan", "interface"]

theorem not_mem_keywords_of_atom? (hk : kind.Plain s) (h : kind.atom? = some name) :
    name ∉ keywords := by
  intro hmem
  have hkeywords : ∀ w ∈ keywords, '.' ∉ w.toList ∧ 'S' ∉ w.toList := by decide
  cases kind with
  | named n u =>
    cases h
    exact (hkeywords name hmem).1 (dot_mem_of_isQualified hk.1)
  | struct a fields =>
    cases h
    obtain ⟨rest, hrest, _⟩ := toList_structAlias (s.fieldListing fields)
    rw [← hk.1] at hrest
    exact (hkeywords name hmem).2 (hrest ▸ List.mem_cons_self)
  | int width signedness =>
    cases h
    cases signedness <;> simp [keywords, Signedness.typeName, ← String.toList_inj] at hmem
    -- what begins an integer type also begins `interface`
    have hdigit : 'e'.isDigit = true := Nat.isDigit_of_mem_toDigits (by decide) (by decide)
      (hmem ▸ List.mem_cons_self : 'e' ∈ Nat.toDigits 10 width)
    cases hdigit
  | complex bits =>
    cases h
    simp [keywords, ← String.toList_inj] at hmem
  | float precision => cases precision <;> cases h <;> revert hmem <;> decide
  | _ => cases h <;> revert hmem <;> decide

end Atom

/-! ### Words and what follows them -/

section Split

variable {s : Session} {kind kind' : CanonKind} (text elementText : CanonId → String)

/-- The word that a written form begins with. -/
def head : CanonKind → String
  | .map _ _ => "map"
  | .func _ => "func"
  | .interface _ => "interface"
  | .chan .both _ => "chan"
  | .chan .sendOnly _ => "chan"
  | kind => kind.atom?.getD ""

def sigChars (f : CanonFunc) : List Char :=
  '(' :: [',', ' '].intercalate
    ((Session.paramStrings text elementText f.variadic f.params).map String.toList) ++
    ')' :: (Session.resultString text f.results).toList

/-- What stands after the first word. -/
def tail : CanonKind → List Char
  | .slice element => '[' :: ']' :: (text element).toList
  | .array length element => '[' :: (toString length).toList ++ ']' :: (text element).toList
  | .map key value => '[' :: (text key).toList ++ ']' :: (text value).toList
  | .pointer element => '*' :: (text element).toList
  | .func f => sigChars text elementText f
  | .chan .both element => ' ' :: (text element).toList
  | .chan .sendOnly element => '<' :: '-' :: ' ' :: (text element).toList
  | .chan .recvOnly element => '<' :: '-' :: "chan ".toList ++ (text element).toList
  | .interface methods =>
    ' ' :: '\x7b' :: ' ' :: [';', ' '].intercalate
      (methods.map fun m => m.name.toList ++ sigChars text elementText m.func) ++ [' ', '\x7d']
  | _ => []

/-- What kind of type it is, without its parts. -/
def form : CanonKind → CanonKind
  | .slice _ => .slice 0
  | .array length _ => .array length 0
  | .map _ _ => .map 0 0
  | .pointer _ => .pointer 0
  | .func _ => .func ⟨[], [], false, []⟩
  | .chan direction _ => .chan direction 0
  | .interface _ => .interface []
  | kind => kind

theorem toList_funcStringWith {f : CanonFunc} (h : f.typeParams = []) :
    (Session.funcStringWith text elementText f).toList = sigChars text elementText f := by
  simp [Session.funcStringWith, sigChars, h]

theorem toList_written (hk : kind.Plain s) :
    (kind.written text elementText).toList = kind.head.toList ++ kind.tail text elementText := by
  cases kind with
  | func f =>
    rw [written, String.toList_append, toList_funcStringWith text elementText hk.typeParams]
    rfl
  | interface methods =>
    have hmethods : (methods.map fun m =>
        m.name ++ Session.funcStringWith text elementText m.func).map String.toList =
        methods.map fun m => m.name.toList ++ sigChars text elementText m.func := by
      rw [List.map_map]
      refine List.map_congr_left fun m hm => ?_
      exact String.toList_append.trans
        (congrArg _ (toList_funcStringWith text elementText (hk m hm).2.typeParams))
    simp [written, head, tail, hmethods]
  | chan direction element => cases direction <;> simp [written, head, tail, ChanDir.keyword, atom?]
  | typeParam name => exact hk.elim
  | _ => simp [written, head, tail, atom?]

theorem endsWord_tail (kind : CanonKind) {r : List Char} (h : Closes r) :
    EndsWord (kind.tail text elementText ++ r) := by
  cases kind with
  | slice element | array length element | map key value | pointer element | func f
  | interface methods => exact .cons (by decide) _
  | chan direction element => cases direction <;> exact .cons (by decide) _
  | _ => exact h.endsWord

theorem head_of_atom? {name : String} (h : kind.atom? = some name) : kind.head = name := by
  cases kind <;> cases h <;> rfl

theorem tail_of_atom? {name : String} (h : kind.atom? = some name) :
    kind.tail text elementText = [] := by
  cases kind <;> cases h <;> rfl

theorem head_mem_keywords (hk : kind.Plain s) (h : kind.atom? = none) : kind.head ∈ keywords := by
  cases kind with
  | typeParam name => exact hk.elim
  | chan direction element => cases direction <;> simp [head, keywords, atom?]
  | slice element | array length element | map key value | pointer element | func f
  | interface methods => simp [head, keywords, atom?]
  | _ => cases h

theorem isWordChar_of_head (hk : kind.Plain s) : ∀ c ∈ kind.head.toList, isWordChar c = true := by
  cases h : kind.atom? with
  | some name =>
    rw [head_of_atom? h]
    exact isWordChar_of_atom? hk h
  | none =>
    have hkeywords : ∀ w ∈ keywords, w.toList.all isWordChar = true := by decide
    exact List.all_eq_true.1 (hkeywords _ (head_mem_keywords hk h))

/-- Kinds that are written alike in front of what closes them begin with the same word, and go on
alike. -/
theorem head_tail_inj (hk : kind.Plain s) (hk' : kind'.Plain s) {r r' : List Char}
    (hr : Closes r) (hr' : Closes r')
    (h : (kind.written text elementText).toList ++ r =
      (kind'.written text elementText).toList ++ r') :
    kind.head = kind'.head ∧ kind.tail text elementText ++ r = kind'.tail text elementText ++ r' := by
  rw [toList_written _ _ hk, toList_written _ _ hk', List.append_assoc, List.append_assoc] at h
  obtain ⟨hhead, htail⟩ := word_inj (isWordChar_of_head hk) (isWordChar_of_head hk')
    (endsWord_tail _ _ kind hr) (endsWord_tail _ _ kind' hr') h
  exact ⟨String.toList_inj.1 hhead, htail⟩

/-- The length of an array is told from nothing. -/
theorem digits_ne (n : Nat) (cs cs' : List Char) : (toString n).toList ++ cs ≠ ']' :: cs' := by
  intro h
  rw [Nat.toString_eq_repr, Nat.toList_repr] at h
  cases hdigits : Nat.toDigits 10 n with
  | nil => exact Nat.toDigits_ne_nil hdigits
  | cons c digits =>
    have hc : c.isDigit = true :=
      Nat.isDigit_of_mem_toDigits (by decide) (by decide) (hdigits ▸ List.mem_cons_self)
    rw [hdigits] at h
    cases h
    cases hc

theorem digits_inj {n n' : Nat} {cs cs' : List Char}
    (h : (toString n).toList ++ ']' :: cs = (toString n').toList ++ ']' :: cs') : n = n' := by
  have hdigits := (word_inj isWordChar_of_mem_toString isWordChar_of_mem_toString
    (.cons (by decide) _) (.cons (by decide) _) h).1
  rw [Nat.toString_eq_repr, Nat.toString_eq_repr, Nat.toList_repr, Nat.toList_repr] at hdigits
  rw [← Nat.ofDigitChars_ten_toDigits (n := n), hdigits, Nat.ofDigitChars_ten_toDigits]

theorem form_eq_of_tail_eq (hk : kind.Plain s) (hk' : kind'.Plain s) (hnone : kind.atom? = none)
    (hnone' : kind'.atom? = none) (hhead : kind.head = kind'.head) {r r' : List Char}
    (htail : kind.tail text elementText ++ r = kind'.tail text elementText ++ r') :
    kind.form = kind'.form := by
  cases kind with
  | slice element =>
    cases kind' with
    | array length' element' =>
      simp only [tail, List.cons_append, List.append_assoc] at htail
      exact absurd (List.cons.inj htail).2.symm (digits_ne _ _ _)
    | chan direction' element' => cases direction' <;> simp [head, tail] at hhead htail
    | typeParam name => exact hk'.elim
    | _ => simp [head, tail, atom?, form] at hhead htail hnone' ⊢
  | array length element =>
    cases kind' with
    | slice element' =>
      simp only [tail, List.cons_append, List.append_assoc] at htail
      exact absurd (List.cons.inj htail).2 (digits_ne _ _ _)
    | array length' element' =>
      simp only [tail, List.cons_append, List.append_assoc] at htail
      rw [form, form, digits_inj (List.cons.inj htail).2]
    | chan direction' element' => cases direction' <;> simp [head, tail] at hhead htail
    | typeParam name => exact hk'.elim
    | _ => simp [head, tail, atom?] at hhead htail hnone'
  | chan direction element =>
    cases kind' with
    | chan direction' element' =>
      cases direction <;> cases direction' <;> simp [head, tail, form] at hhead htail ⊢
    | typeParam name => exact hk'.elim
    | _ => cases direction <;> simp [head, tail, atom?] at hhead htail hnone'
  | map _ _ | pointer _ | func _ | interface _ =>
    cases kind' with
    | chan direction' element' =>
      cases direction' <;> simp [head, tail, atom?] at hhead htail
    | typeParam name => exact hk'.elim
    | _ => simp [head, tail, atom?, form] at hhead htail hnone' ⊢
  | typeParam name => exact hk.elim
  | _ => cases hnone

/-- No written form begins like what closes or parts one. -/
theorem opens_written (hk : kind.Plain s) : Opens (kind.written text elementText).toList := by
  rw [toList_written _ _ hk]
  cases kind with
  | named name underlying =>
    obtain ⟨scope, base, hscope, _, rfl⟩ := hk.1
    show Opens ((scope ++ "." ++ base).toList ++ [])
    rw [String.toList_append, String.toList_append, List.append_assoc, List.append_assoc]
    exact opens_of_isIdent hscope _
  | struct aliasName fields =>
    obtain ⟨rest, hrest, _⟩ := toList_structAlias (s.fieldListing fields)
    rw [← hk.1] at hrest
    simp [head, atom?, hrest, Opens]
  | int width signedness => cases signedness <;> simp [head, atom?, Signedness.typeName, Opens]
  | float precision => cases precision <;> simp [head, atom?, Precision.typeName, Opens]
  | chan direction element => cases direction <;> simp [head, tail, atom?, Opens]
  | typeParam name => exact hk.elim
  | _ => simp [head, tail, sigChars, atom?, Opens]

end Split
end CanonKind

end ScriptBind
