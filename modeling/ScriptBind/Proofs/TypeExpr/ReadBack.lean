import ScriptBind.Proofs.TypeExpr.Lookahead
import ScriptBind.Proofs.TypeExpr.Reading

/-!
# ScriptBind.Proofs.TypeExpr.ReadBack

Reading the tokens of an expression gives back the expression.

* `Enough` - how deep the recursion may go for given tokens.
* `ReadsBack` - what each function of the reader makes of the tokens; `readsBack` shows it for every
  depth, by one lemma for each function.
-/

namespace ScriptBind
namespace TypeReader

open Token (joined following joined_singleton joined_cons)

/-! ### Depth -/

/-- The depth does for these tokens, also if `k` calls come before the first token is used up. -/
def Enough (k fuel : Nat) (tokens : List Token) : Prop := 3 * tokens.length + k < fuel

namespace Enough

variable {k fuel : Nat} {t : Token} {tokens rest : List Token}

theorem same (h : Enough (k + 1) (fuel + 1) tokens) : Enough k fuel tokens := by
  unfold Enough at *
  omega

theorem tail (h : Enough k (fuel + 1) (t :: rest)) : Enough 2 fuel rest := by
  unfold Enough at *
  rw [List.length_cons] at h
  omega

theorem drop (h : Enough k fuel (tokens ++ rest)) : Enough k fuel rest := by
  unfold Enough at *
  rw [List.length_append] at h
  omega

theorem skip (h : Enough k fuel (t :: rest)) : Enough k fuel rest := @drop k fuel [t] rest h

theorem mono {j : Nat} (h : Enough k fuel tokens) (hj : j ≤ k) : Enough j fuel tokens := by
  unfold Enough at *
  omega

theorem zero (h : Enough k fuel tokens) : Enough 0 fuel tokens := h.mono (Nat.zero_le k)

end Enough

/-! ### The functions of the reader -/

variable {fuel : Nat}

/-- At a depth that does for the tokens, every function of the reader gives back what they are the
tokens of. -/
structure ReadsBack (fuel : Nat) : Prop where
  type : ∀ {e : TypeExpr} {ts : List Token}, e.WellFormed → Closes ts →
    Enough 0 fuel (e.tokens ++ ts) → readType fuel (e.tokens ++ ts) = .ok (e, ts)
  args : ∀ {es : List TypeExpr} {ts : List Token}, es ≠ [] → (∀ e ∈ es, e.WellFormed) →
    Enough 1 fuel (joined .comma (exprTokens es) ++ .rightBracket :: ts) →
    readArgs fuel (joined .comma (exprTokens es) ++ .rightBracket :: ts) = .ok (es, ts)
  typeParams : ∀ {names : List String} {ts : List Token}, names ≠ [] →
    Enough 0 fuel (joined .comma (names.map typeParamToken) ++ .rightBracket :: ts) →
    readTypeParams fuel (joined .comma (names.map typeParamToken) ++ .rightBracket :: ts) =
      .ok (names, ts)
  func : ∀ {f : FuncExpr} {ts : List Token}, f.WellFormed → Closes ts →
    Enough 0 fuel (f.tokens ++ ts) → readFunc fuel (f.tokens ++ ts) = .ok (f, ts)
  params : ∀ {allowed v : Bool} {ps : List ParamExpr} {ts : List Token},
    (∀ p ∈ ps, p.WellFormed) → UniformNames ps → (v = true → allowed = true ∧ EndsInSlice ps) →
    Enough 2 fuel (joined .comma (paramTokens v ps) ++ .rightParen :: ts) →
    readParams fuel allowed (joined .comma (paramTokens v ps) ++ .rightParen :: ts) =
      .ok ((ps, v), ts)
  items : ∀ {allowed v : Bool} {ps : List ParamExpr} {ts : List Token}, ps ≠ [] →
    (∀ p ∈ ps, p.WellFormed) → (v = true → allowed = true ∧ EndsInSlice ps) →
    Enough 1 fuel (joined .comma (paramTokens v ps) ++ .rightParen :: ts) →
    readParamItems fuel allowed (joined .comma (paramTokens v ps) ++ .rightParen :: ts) =
      .ok ((ps, v), ts)
  fields : ∀ {seen : List String} {fs : List FieldExpr} {ts : List Token},
    Distinct seen (fs.map (·.name)) → (∀ f ∈ fs, f.type.WellFormed) →
    Enough 0 fuel (joined .semicolon (fieldTokens fs) ++ .rightBrace :: ts) →
    readFields fuel seen (joined .semicolon (fieldTokens fs) ++ .rightBrace :: ts) = .ok (fs, ts)
  moreFields : ∀ {seen : List String} {fs : List FieldExpr} {ts : List Token},
    Distinct seen (fs.map (·.name)) → (∀ f ∈ fs, f.type.WellFormed) →
    Enough 0 fuel (following .semicolon (fieldTokens fs) ++ .rightBrace :: ts) →
    readFields fuel seen (following .semicolon (fieldTokens fs) ++ .rightBrace :: ts) =
      .ok (fs, ts)
  methods : ∀ {seen : List String} {ms : List MethodExpr} {ts : List Token},
    Distinct seen (ms.map (·.name)) → (∀ m ∈ ms, m.func.typeParams = []) →
    (∀ m ∈ ms, m.func.WellFormed) →
    Enough 0 fuel (joined .semicolon (methodTokens ms) ++ .rightBrace :: ts) →
    readMethods fuel seen (joined .semicolon (methodTokens ms) ++ .rightBrace :: ts) =
      .ok (ms, ts)
  moreMethods : ∀ {seen : List String} {ms : List MethodExpr} {ts : List Token},
    Distinct seen (ms.map (·.name)) → (∀ m ∈ ms, m.func.typeParams = []) →
    (∀ m ∈ ms, m.func.WellFormed) →
    Enough 0 fuel (following .semicolon (methodTokens ms) ++ .rightBrace :: ts) →
    readMethods fuel seen (following .semicolon (methodTokens ms) ++ .rightBrace :: ts) =
      .ok (ms, ts)

theorem readsBack_zero : ReadsBack 0 where
  type _ _ h := absurd h (Nat.not_lt_zero _)
  args _ _ h := absurd h (Nat.not_lt_zero _)
  typeParams _ h := absurd h (Nat.not_lt_zero _)
  func _ _ h := absurd h (Nat.not_lt_zero _)
  params _ _ _ h := absurd h (Nat.not_lt_zero _)
  items _ _ _ h := absurd h (Nat.not_lt_zero _)
  fields _ _ h := absurd h (Nat.not_lt_zero _)
  moreFields _ _ h := absurd h (Nat.not_lt_zero _)
  methods _ _ _ h := absurd h (Nat.not_lt_zero _)
  moreMethods _ _ _ h := absurd h (Nat.not_lt_zero _)

namespace ReadsBack

theorem readArgs (h : ReadsBack fuel) {es : List TypeExpr} {ts : List Token} (hne : es ≠ [])
    (hwf : ∀ e ∈ es, e.WellFormed)
    (hfuel : Enough 1 (fuel + 1) (joined .comma (exprTokens es) ++ .rightBracket :: ts)) :
    readArgs (fuel + 1) (joined .comma (exprTokens es) ++ .rightBracket :: ts) = .ok (es, ts) := by
  match es, hne, hwf with
  | [a], _, hwf =>
    simp only [exprTokens, joined_singleton] at hfuel ⊢
    rw [TypeReader.readArgs, h.type (List.forall_mem_singleton.1 hwf) .rightBracket hfuel.same]
    rfl
  | a :: b :: es, _, hwf =>
    obtain ⟨ha, hwf⟩ := List.forall_mem_cons.1 hwf
    rw [exprTokens, joined_cons _ _ (by simp [exprTokens]), List.append_assoc, List.cons_append]
      at hfuel ⊢
    have hmore := h.args (by simp) hwf (hfuel.drop.tail.mono (by decide : 1 ≤ 2))
    rw [TypeReader.readArgs, h.type ha .comma hfuel.same]
    simp only [ok_bind, hmore]

theorem readTypeParams (h : ReadsBack fuel) {names : List String} {ts : List Token}
    (hne : names ≠ [])
    (hfuel : Enough 0 (fuel + 1)
      (joined .comma (names.map typeParamToken) ++ .rightBracket :: ts)) :
    readTypeParams (fuel + 1) (joined .comma (names.map typeParamToken) ++ .rightBracket :: ts) =
      .ok (names, ts) := by
  -- the constraint is read as a type and dropped
  have hany : ∀ {ts : List Token}, Closes ts → Enough 2 fuel (.ident "any" :: ts) →
      TypeReader.readType fuel (.ident "any" :: ts) = .ok (.name "any" [], ts) := by
    intro ts hts henough
    have hwf : TypeExpr.WellFormed (.name "any" []) := .name ⟨by decide, by decide⟩
      (List.forall_mem_nil _)
    have hread := @ReadsBack.type fuel h _ ts hwf hts
    rw [TypeExpr.tokens, List.cons_append, List.nil_append] at hread
    exact hread (henough.zero)
  match names, hne with
  | [n], _ =>
    simp only [List.map_cons, List.map_nil, joined_singleton, typeParamToken, List.cons_append,
      List.nil_append] at hfuel ⊢
    have hbound := hany .rightBracket hfuel.tail
    rw [TypeReader.readTypeParams]
    simp only [expectIdent_cons, ok_bind, hbound]
  | n :: m :: names, _ =>
    rw [List.map_cons, joined_cons _ _ (by simp), typeParamToken, List.append_assoc,
      List.cons_append, List.cons_append, List.cons_append, List.nil_append] at hfuel ⊢
    have hmore := h.typeParams (by simp) (hfuel.tail.skip.skip.zero)
    have hbound := hany .comma hfuel.tail
    rw [TypeReader.readTypeParams]
    simp only [expectIdent_cons, ok_bind, hbound, hmore]

/-! ### Types -/

theorem readName (h : ReadsBack fuel) {name : String} {args : List TypeExpr} {ts : List Token}
    (hname : IsTypeName name) (hargs : ∀ arg ∈ args, arg.WellFormed) (hts : Closes ts)
    (hfuel : Enough 0 (fuel + 1) ((TypeExpr.name name args).tokens ++ ts)) :
    TypeReader.readType (fuel + 1) ((TypeExpr.name name args).tokens ++ ts) =
      .ok (.name name args, ts) := by
  have hplain : ∀ rest, TypeReader.readType (fuel + 1) (.ident name :: rest) =
      if opensArgs rest then
        TypeReader.readArgs fuel (rest.drop 1) >>= fun read => .ok (.name name read.1, read.2)
      else .ok (.name name [], rest) := by
    have hnot := hname.2
    simp only [typeKeywords, List.mem_cons, List.not_mem_nil, or_false, not_or] at hnot
    obtain ⟨hmap, hchan, hfunc, hstruct, hinterface⟩ := hnot
    intro rest
    unfold TypeReader.readType
    simp only [hmap, hchan, hfunc, hstruct, hinterface, if_false]
  cases args with
  | nil =>
    rw [TypeExpr.tokens, List.cons_append, List.nil_append, hplain,
      if_neg (by simp [hts.opensArgs])]
  | cons arg args =>
    have hopens := (startsType_tokens arg
      (following .comma (exprTokens args) ++ .rightBracket :: ts)).opensArgs
    simp only [TypeExpr.tokens, List.cons_append, List.append_assoc, List.nil_append] at hfuel ⊢
    have hread := h.args (by simp) hargs (hfuel.tail.skip.mono (by decide : 1 ≤ 2))
    rw [← List.append_assoc] at hopens
    rw [exprTokens] at hread
    rw [hplain, joined, if_pos hopens, List.drop_one, List.tail_cons, ← joined, hread]
    rfl

theorem readChan (h : ReadsBack fuel) {direction : ChanDir} {element : TypeExpr} {ts : List Token}
    (hboth : direction = .both → ∀ inner, element ≠ .chan .recvOnly inner)
    (he : element.WellFormed) (hts : Closes ts)
    (hfuel : Enough 0 (fuel + 1) ((TypeExpr.chan direction element).tokens ++ ts)) :
    TypeReader.readType (fuel + 1) ((TypeExpr.chan direction element).tokens ++ ts) =
      .ok (.chan direction element, ts) := by
  cases direction with
  | both =>
    rw [TypeExpr.tokens, List.cons_append] at hfuel ⊢
    have hread := h.type he hts (hfuel.tail.zero)
    unfold TypeReader.readType
    dsimp only
    rw [if_neg (by decide), if_pos rfl]
    split
    · rename_i heq
      obtain ⟨inner, rfl⟩ := arrow_of_tokens heq
      exact absurd rfl (hboth rfl inner)
    · rw [hread, ok_bind]
  | sendOnly =>
    rw [TypeExpr.tokens, List.cons_append, List.cons_append] at hfuel ⊢
    have hread := h.type he hts (hfuel.tail.skip.zero)
    unfold TypeReader.readType
    dsimp only
    rw [if_neg (by decide), if_pos rfl, hread, ok_bind]
  | recvOnly =>
    rw [TypeExpr.tokens, List.cons_append, List.cons_append] at hfuel ⊢
    have hread := h.type he hts (hfuel.tail.skip.zero)
    rw [TypeReader.readType]
    simp only [expectIdent_cons, hread, ok_bind, if_true]

theorem readType (h : ReadsBack fuel) {e : TypeExpr} {ts : List Token} (hwf : e.WellFormed)
    (hts : Closes ts) (hfuel : Enough 0 (fuel + 1) (e.tokens ++ ts)) :
    TypeReader.readType (fuel + 1) (e.tokens ++ ts) = .ok (e, ts) := by
  cases hwf with
  | name hname hargs => exact h.readName hname hargs hts hfuel
  | chan hboth he => exact h.readChan hboth he hts hfuel
  | slice he =>
    rw [TypeExpr.tokens, List.cons_append, List.cons_append] at hfuel ⊢
    have hread := h.type he hts (hfuel.tail.skip.zero)
    rw [TypeReader.readType, hread, ok_bind]
  | array _ he =>
    rw [TypeExpr.tokens, List.cons_append, List.cons_append, List.cons_append] at hfuel ⊢
    have hread := h.type he hts (hfuel.tail.skip.skip.zero)
    rw [TypeReader.readType, expect_cons, ok_bind, hread, ok_bind]
  | pointer he =>
    rw [TypeExpr.tokens, List.cons_append] at hfuel ⊢
    have hread := h.type he hts (hfuel.tail.zero)
    rw [TypeReader.readType, hread, ok_bind]
  | map hkey hvalue =>
    simp only [TypeExpr.tokens, List.cons_append, List.append_assoc] at hfuel ⊢
    have hkeyRead := h.type hkey .rightBracket (hfuel.tail.skip.zero)
    have hvalueRead := h.type hvalue hts (hfuel.tail.skip.drop.skip.zero)
    unfold TypeReader.readType
    simp only [if_true, expect_cons, ok_bind, hkeyRead, hvalueRead]
  | func hf =>
    rw [TypeExpr.tokens, List.cons_append] at hfuel ⊢
    have hread := h.func hf hts (hfuel.tail.zero)
    unfold TypeReader.readType
    dsimp only
    rw [if_neg (by decide), if_neg (by decide), if_pos rfl, hread, ok_bind]
  | struct hnodup hnames htypes =>
    simp only [TypeExpr.tokens, List.cons_append, List.append_assoc, List.nil_append] at hfuel ⊢
    have hdistinct : Distinct [] _ := ⟨hnodup, fun _ _ => List.not_mem_nil, List.forall_mem_map.2 hnames⟩
    have hread := h.fields hdistinct htypes (hfuel.tail.skip.zero)
    unfold TypeReader.readType
    dsimp only
    rw [if_neg (by decide), if_neg (by decide), if_neg (by decide), if_pos rfl, expect_cons,
      ok_bind, hread, ok_bind]
  | interface hnodup hnames hparams hfuncs =>
    simp only [TypeExpr.tokens, List.cons_append, List.append_assoc, List.nil_append] at hfuel ⊢
    have hdistinct : Distinct [] _ := ⟨hnodup, fun _ _ => List.not_mem_nil, List.forall_mem_map.2 hnames⟩
    have hread := h.methods hdistinct hparams hfuncs (hfuel.tail.skip.zero)
    unfold TypeReader.readType
    dsimp only
    rw [if_neg (by decide), if_neg (by decide), if_neg (by decide), if_neg (by decide),
      if_pos rfl, expect_cons, ok_bind, hread, ok_bind]

/-! ### Functions -/

theorem typeParamsIfAny (h : ReadsBack fuel) (names : List String) {ts : List Token}
    (hfuel : Enough 0 (fuel + 1) (typeParamTokens names ++ .leftParen :: ts)) :
    readTypeParamsIfAny fuel (typeParamTokens names ++ .leftParen :: ts) =
      .ok (names, .leftParen :: ts) := by
  cases names with
  | nil => rfl
  | cons n names =>
    simp only [typeParamTokens, List.cons_append, List.append_assoc, List.nil_append] at hfuel ⊢
    exact h.typeParams (by simp) (hfuel.tail.zero)

theorem readResults_type {tokens : List Token} (h : StartsType tokens) :
    readResults fuel tokens = (do
      let (result, rest) ← TypeReader.readType fuel tokens
      .ok ([⟨none, result⟩], rest)) := by
  cases h <;> rfl

theorem results (h : ReadsBack fuel) {results : List ParamExpr} {ts : List Token}
    (hwf : ∀ r ∈ results, r.WellFormed) (huniform : UniformNames results) (hts : Closes ts)
    (hfuel : Enough 2 fuel (resultTokens results (paramTokens false results) ++ ts)) :
    readResults fuel (resultTokens results (paramTokens false results) ++ ts) =
      .ok (results, ts) := by
  unfold resultTokens at hfuel ⊢
  split at hfuel
  · cases hts <;> rfl
  · rename_i type
    rw [(paramItems_cons fun h => absurd h Bool.false_ne_true).2, paramTokens, joined_singleton, nameTokens,
      List.nil_append] at hfuel ⊢
    cases List.forall_mem_singleton.1 hwf with | mk _ htype =>
    rw [readResults_type (startsType_tokens type ts), h.type htype hts (hfuel.zero),
      ok_bind]
  · rw [List.append_assoc, List.cons_append] at hfuel ⊢
    have hread := @ReadsBack.params fuel h false false results ts hwf huniform
      (fun h => absurd h Bool.false_ne_true) hfuel.skip
    rw [readResults]
    exact congrArg (· >>= fun read => .ok (read.1.1, read.2)) hread

theorem readFunc (h : ReadsBack fuel) {f : FuncExpr} {ts : List Token} (hwf : f.WellFormed)
    (hts : Closes ts) (hfuel : Enough 0 (fuel + 1) (f.tokens ++ ts)) :
    TypeReader.readFunc (fuel + 1) (f.tokens ++ ts) = .ok (f, ts) := by
  cases hwf with | mk _ hparams huniform hresults huniform' hslice =>
  simp only [FuncExpr.tokens, List.append_assoc, List.cons_append] at hfuel ⊢
  have hlist := hfuel.drop.tail
  rw [readFunc_succ, h.typeParamsIfAny _ hfuel]
  simp only [ok_bind, expect_cons, h.params hparams huniform (fun hv => ⟨rfl, hslice hv⟩) hlist,
    h.results hresults huniform' hts hlist.drop.skip]

/-! ### Parameters -/

theorem readParamType_type {tokens : List Token} (hstarts : StartsType tokens) (allowed : Bool) :
    readParamType fuel allowed tokens = (do
      let (type, rest) ← TypeReader.readType fuel tokens
      .ok ((type, false), rest)) := by
  cases hstarts <;> rfl

/-- A parameter that is not the last one of a variadic function. -/
theorem readParamItems_type (h : ReadsBack fuel) {p : ParamExpr} (hp : p.WellFormed)
    (allowed : Bool) {ts : List Token} (hts : Closes ts)
    (hfuel : Enough 0 fuel (p.type.tokens ++ ts)) :
    TypeReader.readParamItems (fuel + 1) allowed (nameTokens p.name ++ (p.type.tokens ++ ts)) =
      readMoreItems fuel allowed p false ts := by
  cases hp with | mk hname htype =>
  rw [readParamItems_succ, paramName_before_type hname _ hts,
    readParamType_type (startsType_tokens _ ts), h.type htype hts hfuel]
  simp only [ok_bind]

/-- The last parameter of a variadic function. -/
theorem readParamItems_dots (h : ReadsBack fuel) {name : Option String} {element : TypeExpr}
    (hp : ParamExpr.WellFormed ⟨name, .slice element⟩) {ts : List Token}
    (hfuel : Enough 0 fuel (element.tokens ++ .rightParen :: ts)) :
    TypeReader.readParamItems (fuel + 1) true
        (nameTokens name ++ .ellipsis :: (element.tokens ++ .rightParen :: ts)) =
      .ok (([⟨name, .slice element⟩], true), ts) := by
  cases hp with | mk hname htype =>
  cases htype with | slice he =>
  rw [readParamItems_succ, paramName_before_dots hname, readParamType, if_pos rfl,
    h.type he .rightParen hfuel]
  rfl

theorem paramTokens_ne_nil (v : Bool) {ps : List ParamExpr} (h : ps ≠ []) :
    paramTokens v ps ≠ [] := by
  match ps, h with
  | ⟨name, type⟩ :: rest, _ =>
    cases rest <;> cases type <;> cases v <;> simp [paramTokens]

theorem readParamItems (h : ReadsBack fuel) {allowed v : Bool} {ps : List ParamExpr}
    {ts : List Token} (hne : ps ≠ []) (hwf : ∀ p ∈ ps, p.WellFormed)
    (hv : v = true → allowed = true ∧ EndsInSlice ps)
    (hfuel : Enough 1 (fuel + 1) (joined .comma (paramTokens v ps) ++ .rightParen :: ts)) :
    TypeReader.readParamItems (fuel + 1) allowed
        (joined .comma (paramTokens v ps) ++ .rightParen :: ts) = .ok ((ps, v), ts) := by
  match ps, hne, hwf, hv with
  | ⟨name, type⟩ :: q :: ps, _, hwf, hv =>
    obtain ⟨hp, hps⟩ := List.forall_mem_cons.1 hwf
    rw [(paramItems_cons (by simp)).2, joined_cons _ _ (paramTokens_ne_nil v (by simp)),
      List.append_assoc, List.append_assoc, List.cons_append] at hfuel ⊢
    have hmore := h.items (by simp) hps hv (hfuel.drop.drop.tail.mono (by decide : 1 ≤ 2))
    rw [h.readParamItems_type hp allowed .comma hfuel.same.drop, readMoreItems,
      if_neg (by decide), hmore, ok_bind]
  | [⟨name, type⟩], _, hwf, hv =>
    have hp := List.forall_mem_singleton.1 hwf
    cases v with
    | false =>
      rw [(paramItems_cons fun h => absurd h Bool.false_ne_true).2, paramTokens, joined_singleton,
        List.append_assoc] at hfuel ⊢
      rw [h.readParamItems_type hp allowed .rightParen hfuel.same.drop, readMoreItems]
    | true =>
      obtain ⟨hallowed, _, element, hlast⟩ := hv rfl
      cases hlast
      rw [paramTokens, if_pos rfl, joined_singleton, List.append_assoc, List.cons_append]
        at hfuel ⊢
      rw [hallowed]
      exact h.readParamItems_dots hp hfuel.same.drop.skip

/-- No parameter begins with the end of the list. -/
theorem readParamItems_rightParen (fuel : Nat) (allowed : Bool) (rest : List Token) :
    ∃ e, TypeReader.readParamItems fuel allowed (.rightParen :: rest) = .error e := by
  match fuel with
  | 0 => exact ⟨_, rfl⟩
  | 1 => exact ⟨_, rfl⟩
  | fuel + 2 => exact ⟨_, rfl⟩

theorem readParams (h : ReadsBack fuel) {allowed v : Bool} {ps : List ParamExpr} {ts : List Token}
    (hwf : ∀ p ∈ ps, p.WellFormed) (huniform : UniformNames ps)
    (hv : v = true → allowed = true ∧ EndsInSlice ps)
    (hfuel : Enough 2 (fuel + 1) (joined .comma (paramTokens v ps) ++ .rightParen :: ts)) :
    TypeReader.readParams (fuel + 1) allowed
        (joined .comma (paramTokens v ps) ++ .rightParen :: ts) = .ok ((ps, v), ts) := by
  cases ps with
  | nil =>
    cases v with
    | false => rfl
    | true =>
      obtain ⟨_, _, _, hlast⟩ := hv rfl
      cases hlast
  | cons p ps =>
    have hitems := h.items (by simp) hwf hv hfuel.same
    rw [TypeReader.readParams.eq_3]
    · rw [hitems, ok_bind]
      exact if_pos (uniformNames_iff.2 huniform)
    · intro rest heq
      obtain ⟨e, herror⟩ := readParamItems_rightParen fuel allowed rest
      rw [heq, herror] at hitems
      cases hitems

/-! ### Fields and methods -/

/-- What may follow a field or a method. -/
inductive EndsItem : List Token → Prop where
  | semicolon {rest : List Token} : EndsItem (.semicolon :: rest)
  | rightBrace {rest : List Token} : EndsItem (.rightBrace :: rest)

theorem endsItem_following (items : List (List Token)) (ts : List Token) :
    EndsItem (following .semicolon items ++ .rightBrace :: ts) := by
  cases items with
  | nil => exact .rightBrace
  | cons item rest =>
    rw [Token.following_of_ne_nil _ (by simp)]
    exact .semicolon

theorem EndsItem.closes {tokens : List Token} (h : EndsItem tokens) : Closes tokens := by
  cases h with
  | semicolon => exact .semicolon
  | rightBrace => exact .rightBrace

theorem readFields_ident {seen : List String} {name : String} {type : TypeExpr}
    {tokens rest : List Token} (hseen : name ∉ seen)
    (htype : TypeReader.readType fuel tokens = .ok (type, rest)) (hrest : EndsItem rest) :
    TypeReader.readFields (fuel + 1) seen (.ident name :: tokens) = (do
      let (fields, rest) ← TypeReader.readFields fuel (name :: seen) rest
      .ok (⟨name, type⟩ :: fields, rest)) := by
  rw [TypeReader.readFields, if_neg (by simpa using hseen), htype]
  cases hrest <;> rfl

theorem readFields (h : ReadsBack fuel) {seen : List String} {fs : List FieldExpr} {ts : List Token}
    (hnames : Distinct seen (fs.map (·.name))) (htypes : ∀ f ∈ fs, f.type.WellFormed)
    (hfuel : Enough 0 (fuel + 1) (joined .semicolon (fieldTokens fs) ++ .rightBrace :: ts)) :
    TypeReader.readFields (fuel + 1) seen
        (joined .semicolon (fieldTokens fs) ++ .rightBrace :: ts) = .ok (fs, ts) := by
  match fs, hnames, htypes with
  | [], _, _ => rfl
  | ⟨name, type⟩ :: fs, hnames, htypes =>
    obtain ⟨htype, htypes⟩ := List.forall_mem_cons.1 htypes
    obtain ⟨hseen, hnames⟩ := hnames.of_cons
    have hends := endsItem_following (fieldTokens fs) ts
    rw [fieldTokens, joined, List.append_assoc, List.cons_append] at hfuel ⊢
    have hread := h.type htype hends.closes (hfuel.tail.zero)
    have hmore := h.moreFields hnames htypes (hfuel.tail.drop.zero)
    rw [readFields_ident hseen hread hends, hmore, ok_bind]

theorem readMoreFields (h : ReadsBack fuel) {seen : List String} {fs : List FieldExpr}
    {ts : List Token} (hnames : Distinct seen (fs.map (·.name)))
    (htypes : ∀ f ∈ fs, f.type.WellFormed)
    (hfuel : Enough 0 (fuel + 1) (following .semicolon (fieldTokens fs) ++ .rightBrace :: ts)) :
    TypeReader.readFields (fuel + 1) seen
        (following .semicolon (fieldTokens fs) ++ .rightBrace :: ts) = .ok (fs, ts) := by
  match fs, hnames, htypes with
  | [], _, _ => rfl
  | ⟨name, type⟩ :: fs, hnames, htypes =>
    rw [Token.following_of_ne_nil _ (by simp [fieldTokens]), List.cons_append] at hfuel ⊢
    rw [TypeReader.readFields]
    exact h.fields hnames htypes (hfuel.tail.zero)

theorem readMethods_ident {seen : List String} {name : String} {func : FuncExpr}
    {tokens rest : List Token} (hseen : name ∉ seen)
    (hfunc : TypeReader.readFunc fuel (.leftParen :: tokens) = .ok (func, rest)) :
    TypeReader.readMethods (fuel + 1) seen (.ident name :: .leftParen :: tokens) = (do
      let (methods, rest) ← TypeReader.readMethods fuel (name :: seen) rest
      .ok (⟨name, func⟩ :: methods, rest)) := by
  rw [TypeReader.readMethods, if_neg (by simpa using hseen), hfunc]
  rfl

theorem readMethods (h : ReadsBack fuel) {seen : List String} {ms : List MethodExpr}
    {ts : List Token} (hnames : Distinct seen (ms.map (·.name)))
    (hparams : ∀ m ∈ ms, m.func.typeParams = []) (hfuncs : ∀ m ∈ ms, m.func.WellFormed)
    (hfuel : Enough 0 (fuel + 1) (joined .semicolon (methodTokens ms) ++ .rightBrace :: ts)) :
    TypeReader.readMethods (fuel + 1) seen
        (joined .semicolon (methodTokens ms) ++ .rightBrace :: ts) = .ok (ms, ts) := by
  match ms, hnames, hparams, hfuncs with
  | [], _, _, _ => rfl
  | ⟨name, ⟨[], params, results, variadic⟩⟩ :: ms, hnames, hparams, hfuncs =>
    obtain ⟨hfunc, hfuncs⟩ := List.forall_mem_cons.1 hfuncs
    obtain ⟨hseen, hnames⟩ := hnames.of_cons
    have hends := endsItem_following (methodTokens ms) ts
    rw [methodTokens, joined, List.append_assoc, List.cons_append] at hfuel ⊢
    have hread := h.func hfunc hends.closes (hfuel.tail.zero)
    have hmore := h.moreMethods hnames (List.forall_mem_cons.1 hparams).2 hfuncs
      (hfuel.tail.drop.zero)
    simp only [FuncExpr.tokens, typeParamTokens, List.nil_append, List.cons_append] at hread ⊢
    rw [readMethods_ident hseen hread, hmore, ok_bind]
  | ⟨_, ⟨_ :: _, _, _, _⟩⟩ :: _, _, hparams, _ =>
    cases (List.forall_mem_cons.1 hparams).1

theorem readMoreMethods (h : ReadsBack fuel) {seen : List String} {ms : List MethodExpr}
    {ts : List Token} (hnames : Distinct seen (ms.map (·.name)))
    (hparams : ∀ m ∈ ms, m.func.typeParams = []) (hfuncs : ∀ m ∈ ms, m.func.WellFormed)
    (hfuel : Enough 0 (fuel + 1) (following .semicolon (methodTokens ms) ++ .rightBrace :: ts)) :
    TypeReader.readMethods (fuel + 1) seen
        (following .semicolon (methodTokens ms) ++ .rightBrace :: ts) = .ok (ms, ts) := by
  match ms, hnames, hparams, hfuncs with
  | [], _, _, _ => rfl
  | ⟨name, func⟩ :: ms, hnames, hparams, hfuncs =>
    rw [Token.following_of_ne_nil _ (by simp [methodTokens]), List.cons_append] at hfuel ⊢
    rw [TypeReader.readMethods]
    exact h.methods hnames hparams hfuncs (hfuel.tail.zero)

end ReadsBack

theorem readsBack (fuel : Nat) : ReadsBack fuel := by
  induction fuel with
  | zero => exact readsBack_zero
  | succ fuel ih =>
    exact
      { type := ih.readType
        args := ih.readArgs
        typeParams := ih.readTypeParams
        func := ih.readFunc
        params := ih.readParams
        items := ih.readParamItems
        fields := ih.readFields
        moreFields := ih.readMoreFields
        methods := ih.readMethods
        moreMethods := ih.readMoreMethods }

end TypeReader
end ScriptBind
