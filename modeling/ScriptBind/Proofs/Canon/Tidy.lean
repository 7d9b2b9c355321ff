import ScriptBind.Proofs.Canon.Words
import ScriptBind.Proofs.Text.Tidy

/-!
# ScriptBind.Proofs.Canon.Tidy

Where semicolons stand in a type in writing: between the methods of an interface, however deep it
lies, and always with one space after them.

* `TypeGraph.Identified`, `CanonKind.Identified` - types in which every name is a name in type
  notation; those of a table are (`Session.Valid.identified`).
* `CanonKind.tidy_written` - a kind in writing, given its parts in writing.
* `Session.Valid.tidy_of_spells` - a type in writing.
-/

namespace ScriptBind

open Text (IsSegment Tidy Whole Starts Ends)

/-! ### Names -/

def FuncSig.Identified (sig : FuncSig) : Prop := ∀ param ∈ sig.allTypeParams, Token.IsIdent param

/-- The names that are part of what a node means: neither those of parameters nor that of an
alias. -/
def TypeKind.Identified : TypeKind → Prop
  | .func sig => sig.Identified
  | .interface methods => ∀ m ∈ methods, Token.IsIdent m.name ∧ m.sig.Identified
  | .struct fields => ∀ f ∈ fields, Token.IsIdent f.name
  | .named name _ _ => Token.IsIdent name
  | .typeParam name => Token.IsIdent name
  | _ => True

def TypeGraph.Identified (g : TypeGraph) : Prop := ∀ kind ∈ g.nodes, kind.Identified

def CanonFunc.Identified (f : CanonFunc) : Prop := ∀ param ∈ f.typeParams, Token.IsIdent param

def CanonKind.Identified : CanonKind → Prop
  | .func f => f.Identified
  | .interface methods => ∀ m ∈ methods, Token.IsIdent m.name ∧ m.func.Identified
  | .struct aliasName fields => Token.IsIdent aliasName ∧ ∀ f ∈ fields, Token.IsIdent f.1
  | .named name _ => Token.IsIdent name
  | .typeParam name => Token.IsIdent name
  | _ => True

theorem Notation.spanIdent_eq_self {cs : List Char}
    (h : ∀ c ∈ cs, isWordChar c = true ∧ c ≠ '.') : Token.spanIdent cs = (cs, []) := by
  induction cs with
  | nil => rfl
  | cons c cs ih =>
    obtain ⟨⟨hword, hdot⟩, hcs⟩ := List.forall_mem_cons.1 h
    have hcontinues : Token.continuesIdent c cs = true := by
      simp only [isWordChar, hdot, decide_false, Bool.or_false] at hword
      rw [Token.continuesIdent.eq_def, hword, Bool.true_or]
    rw [Token.spanIdent, if_pos hcontinues, ih hcs]

theorem isIdent_structAlias (listing : String) : Token.IsIdent (structAlias listing) := by
  obtain ⟨rest, halias, hrest⟩ := CanonKind.toList_structAlias listing
  exact Token.isIdent_iff.2 ⟨'S', rest, halias, by decide, Notation.spanIdent_eq_self hrest⟩

theorem CanonFunc.identified_of_unfoldWith {sig : FuncSig} {unfold : TypeId → Option Unfolding}
    {unfold' : CanonId → Unfolding} {f : CanonFunc} (h : sig.Identified)
    (hu : sig.unfoldWith unfold = some (f.unfoldWith unfold')) : f.Identified := by
  obtain ⟨params, results, _, _, hu⟩ := FuncSig.unfoldWith_eq_some_iff.1 hu
  obtain ⟨-, -, -, htypeParams⟩ := Unfolding.func.inj hu
  rw [Identified, htypeParams]
  exact h

theorem Session.Valid.identified {g : TypeGraph} {s : Session} (h : s.Valid g)
    (hg : g.Identified) {id : CanonId} {kind : CanonKind} (hkind : s.kind? id = some kind) :
    kind.Identified := by
  obtain ⟨type, htype⟩ := h.origin id (lt_size_of_kind? hkind)
  rw [h.interned.unfold_eq hkind] at htype
  obtain ⟨node, hnode, depth, hroot⟩ := htype.exists_rootOf
  have hnamed := hg node hnode
  cases kind with
  | func f =>
    obtain ⟨sig, rfl, hsig⟩ := hroot
    exact CanonFunc.identified_of_unfoldWith hnamed hsig
  | interface methods =>
    obtain ⟨ms, rfl, hmethods⟩ := hroot
    intro m hm
    obtain ⟨m', hm', hname, hsig⟩ := hmethods _ (List.mem_map_of_mem hm)
    obtain ⟨hident, hidentified⟩ := hnamed m' hm'
    rw [hname] at hident
    exact ⟨hident, CanonFunc.identified_of_unfoldWith hidentified hsig⟩
  | struct aliasName fields =>
    obtain ⟨fs, rfl, hfields⟩ := hroot
    rw [h.interned.aliased id _ _ hkind]
    refine ⟨isIdent_structAlias _, fun f hf => ?_⟩
    obtain ⟨f', hf', hname⟩ := hfields _ (List.mem_map_of_mem hf)
    exact hname ▸ hnamed f' hf'
  | named name underlying =>
    obtain ⟨body, typeParams, rfl⟩ := hroot
    exact hnamed
  | typeParam name =>
    cases hroot
    exact hnamed
  | _ => trivial

/-! ### Words -/

namespace Notation

theorem isBlank_of_isWordChar {c : Char} (h : isWordChar c = true) : Text.isBlank c = false := by
  simp only [isWordChar, Bool.or_eq_true, decide_eq_true_eq] at h
  rcases h with (h | rfl) | rfl
  · exact Text.isBlank_of_isLetterOrNumber h
  · decide
  · decide

theorem isSegment_of_word {word : String} (hne : word.toList ≠ [])
    (h : ∀ c ∈ word.toList, isWordChar c = true) : IsSegment word where
  whole c hc hsemicolon := by
    have hnone : isWordChar ';' = false := by decide
    rw [hsemicolon] at hc
    exact absurd (h _ hc) (by rw [hnone]; decide)
  starts := ⟨_, List.head?_eq_some_head hne, isBlank_of_isWordChar (h _ (List.head_mem hne))⟩
  ends := ⟨_, List.getLast?_eq_some_getLast hne, isBlank_of_isWordChar (h _ (List.getLast_mem hne))⟩

theorem isSegment_of_isIdent {name : String} (h : Token.IsIdent name) : IsSegment name := by
  refine isSegment_of_word ?_ (isWordChar_of_isIdent h)
  obtain ⟨c, rest, hname, _⟩ := Token.isIdent_iff.1 h
  rw [hname]
  exact List.cons_ne_nil c rest

theorem isSegment_toString (n : Nat) : IsSegment (toString n) := by
  refine isSegment_of_word ?_ isWordChar_of_mem_toString
  rw [Nat.toString_eq_repr, Nat.toList_repr]
  exact Nat.toDigits_ne_nil

end Notation

open Notation (isSegment_of_isIdent isSegment_toString)

/-! ### Types in writing -/

section Written

variable {text elementText : CanonId → String} {whole a p : String}
  {texts : List String}

theorem Text.tidy_commas (hne : texts ≠ []) (h : ∀ text ∈ texts, Tidy text) :
    Tidy (", ".intercalate texts) :=
  .intercalate (fun ha hb => ha.between (by decide) hb) hne h

theorem Text.tidy_parenthesized (h : ∀ text ∈ texts, Tidy text) :
    Tidy ("(" ++ ", ".intercalate texts ++ ")") := by
  by_cases hne : texts = []
  · rw [hne]
    exact .segment (by decide)
  · exact ((tidy_commas hne h).prepend (by decide) (by decide)).append (by decide) (by decide)

theorem Text.tidy_bracketed (hp : Whole p) (ha : Tidy a) : Tidy ("[" ++ p ++ "]" ++ a) := by
  have hopen : Starts "[" := by decide
  exact ha.prepend ((Whole.append (by decide) hp).append (by decide))
    ((hopen.append p).append "]")

theorem tidy_resultString {results : List CanonId} (hwhole : Tidy whole)
    (htext : ∀ r ∈ results, Tidy (text r)) : Tidy (whole ++ Session.resultString text results) := by
  match results with
  | [] => rwa [Session.resultString, String.append_empty]
  | [r] =>
    rw [Session.resultString, ← String.append_assoc]
    exact hwhole.between (by decide) (htext r (List.mem_singleton_self r))
  | r :: r' :: rest =>
    have htexts : Tidy (", ".intercalate ((r :: r' :: rest).map text)) :=
      Text.tidy_commas (by simp) (List.forall_mem_map.2 htext)
    show Tidy (whole ++ (" (" ++ ", ".intercalate ((r :: r' :: rest).map text) ++ ")"))
    rw [← String.append_assoc, ← String.append_assoc]
    exact (hwhole.between (by decide) htexts).append (by decide) (by decide)

theorem tidy_paramStrings {variadic : Bool} {params : List CanonId}
    (htext : ∀ r ∈ params, Tidy (text r)) (helement : ∀ r ∈ params, Tidy (elementText r)) :
    ∀ part ∈ Session.paramStrings text elementText variadic params, Tidy part := by
  induction params with
  | nil => exact List.forall_mem_nil _
  | cons p rest ih =>
    obtain ⟨hp, hrest⟩ := List.forall_mem_cons.1 htext
    obtain ⟨helementP, helementRest⟩ := List.forall_mem_cons.1 helement
    cases rest with
    | nil =>
      rw [Session.paramStrings]
      split
      · exact List.forall_mem_singleton.2 (helementP.prepend (by decide) (by decide))
      · exact List.forall_mem_singleton.2 hp
    | cons q rest => exact List.forall_mem_cons.2 ⟨hp, ih hrest helementRest⟩

theorem tidy_funcStringWith {f : CanonFunc} (hf : f.Identified)
    (htext : ∀ r ∈ f.refs, Tidy (text r)) (helement : ∀ r ∈ f.refs, Tidy (elementText r)) :
    Tidy (Session.funcStringWith text elementText f) := by
  have hparams : Tidy ("(" ++ ", ".intercalate
      (Session.paramStrings text elementText f.variadic f.params) ++ ")") :=
    Text.tidy_parenthesized (tidy_paramStrings
      (fun r hr => htext r (List.mem_append_left _ hr))
      fun r hr => helement r (List.mem_append_left _ hr))
  have hresults : ∀ r ∈ f.results, Tidy (text r) :=
    fun r hr => htext r (List.mem_append_right _ hr)
  rw [Session.funcStringWith]
  split
  · rw [String.empty_append]
    exact tidy_resultString hparams hresults
  · have htypeParams : Whole (", ".intercalate f.typeParams) :=
      Text.over_intercalate (by decide) fun param hparam =>
        (isSegment_of_isIdent (hf param hparam)).whole
    have hgeneric := tidy_resultString (Text.tidy_bracketed htypeParams hparams) hresults
    simpa only [String.append_assoc] using hgeneric

theorem CanonKind.tidy_written {kind : CanonKind} (hkind : kind.Identified)
    (htext : ∀ r ∈ kind.refs, Tidy (text r)) (helement : ∀ r ∈ kind.refs, Tidy (elementText r)) :
    Tidy (kind.written text elementText) := by
  cases kind with
  | bool | unsafePointer | string | any | error =>
    rw [written]
    exact .segment (by decide)
  | int width signedness =>
    cases signedness <;>
      exact .prepend (by decide) (by decide) (.segment (isSegment_toString width))
  | float precision =>
    rw [written]
    cases precision <;> exact .segment (by decide)
  | complex bits => exact .prepend (by decide) (by decide) (.segment (isSegment_toString bits))
  | slice element | pointer element =>
    exact .prepend (by decide) (by decide) (htext element (by simp [refs]))
  | array length element =>
    exact Text.tidy_bracketed (isSegment_toString length).whole (htext element (by simp [refs]))
  | map key value =>
    have hkey := htext key (by simp [refs])
    have hvalue := htext value (by simp [refs])
    exact (hkey.prepend (by decide) (by decide)).between (by decide) hvalue
  | func f =>
    exact .prepend (by decide) (by decide) (tidy_funcStringWith hkind htext helement)
  | chan direction element =>
    cases direction <;> exact .prepend (by decide) (by decide) (htext element (by simp [refs]))
  | interface methods =>
    rw [written]
    by_cases hne : methods = []
    · rw [hne, List.map_nil]
      exact .segment (by decide)
    · refine Tidy.append (.prepend (by decide) (by decide) (.intercalate .join (by simp [hne])
        (List.forall_mem_map.2 fun m hm => ?_))) (by decide) (by decide)
      obtain ⟨hname, hfunc⟩ := hkind m hm
      have hsegment := isSegment_of_isIdent hname
      exact .prepend hsegment.whole hsegment.starts (tidy_funcStringWith hfunc
        (fun r hr => htext r (List.mem_flatMap.2 ⟨m, hm, hr⟩))
        fun r hr => helement r (List.mem_flatMap.2 ⟨m, hm, hr⟩))
  | struct aliasName fields => exact .segment (isSegment_of_isIdent hkind.1)
  | named name underlying | typeParam name => exact .segment (isSegment_of_isIdent hkind)

end Written

/-- However deep its semicolons lie. -/
theorem Session.Valid.tidy_of_spells {g : TypeGraph} {s : Session} (h : s.Valid g)
    (hg : g.Identified) {id : CanonId} {text : String} (hid : s.Spells id text) : Tidy text := by
  induction hid with
  | kind hkind _ _ ihparts ihelements =>
    exact CanonKind.tidy_written (h.identified hg hkind) ihparts ihelements

end ScriptBind
