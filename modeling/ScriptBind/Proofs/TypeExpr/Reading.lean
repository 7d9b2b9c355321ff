import ScriptBind.Proofs.TypeExpr.WellFormed

/-!
# ScriptBind.Proofs.TypeExpr.Reading

What is read from a text is well formed.

* `readFunc_succ`, `readParamItems_succ` - two functions of the reader as steps one after the other.
* `Yields` - what holds of whatever a step of the reader read, with a rule for each kind of step.
* `Reads` - what each function of the reader yields; `reads` shows it for every depth.
* `TypeExpr.wellFormed_of_read`, `FuncExpr.wellFormed_of_read` - the same for texts.
-/

namespace ScriptBind
namespace TypeReader

variable {α β : Type}

/-! ### Parts of the reader -/

@[simp] theorem ok_bind (a : α) (next : α → Except ReadError β) :
    ((.ok a : Except ReadError α) >>= next) = next a := rfl

@[simp] theorem expect_cons (t : Token) (rest : List Token) : expect t (t :: rest) = .ok rest := by
  rw [expect, if_pos rfl]

@[simp] theorem expectIdent_cons (what name : String) (rest : List Token) :
    expectIdent what (.ident name :: rest) = .ok (name, rest) := rfl

def readTypeParamsIfAny (fuel : Nat) : List Token → Except ReadError (Step (List String))
  | .leftBracket :: rest => readTypeParams fuel rest
  | tokens => .ok ([], tokens)

/-- The results of a function, which may be left out. -/
def readResults (fuel : Nat) : List Token → Except ReadError (Step (List ParamExpr))
  | .leftParen :: rest => do
    let ((results, _), rest) ← readParams fuel false rest
    .ok (results, rest)
  | tokens =>
    if startsResult tokens then do
      let (result, rest) ← readType fuel tokens
      .ok ([⟨none, result⟩], rest)
    else .ok ([], tokens)

theorem readFunc_succ (fuel : Nat) (tokens : List Token) :
    readFunc (fuel + 1) tokens = (do
      let (typeParams, rest) ← readTypeParamsIfAny fuel tokens
      let rest ← expect .leftParen rest
      let ((params, variadic), rest) ← readParams fuel true rest
      let (results, rest) ← readResults fuel rest
      .ok (⟨typeParams, params, results, variadic⟩, rest)) := by
  have hresults : ∀ (names : List String) (list : List ParamExpr × Bool) (rest : List Token),
      (match rest with
        | .leftParen :: rest => do
          let ((results, _), rest) ← readParams fuel false rest
          .ok (⟨names, list.1, results, list.2⟩, rest)
        | rest =>
          if startsResult rest then do
            let (result, rest) ← readType fuel rest
            .ok (⟨names, list.1, [⟨none, result⟩], list.2⟩, rest)
          else .ok (⟨names, list.1, [], list.2⟩, rest)) = (do
      let (results, rest) ← readResults fuel rest
      (.ok (⟨names, list.1, results, list.2⟩, rest) : Except ReadError (Step FuncExpr))) := by
    intro names list rest
    split
    · rw [readResults]
      cases readParams fuel false _ <;> rfl
    · rename_i hrest
      rw [readResults.eq_2 fuel rest hrest]
      split
      · cases readType fuel rest <;> rfl
      · rfl
  unfold readFunc
  split
  · rw [readTypeParamsIfAny]
    exact bind_congr fun _ => bind_congr fun _ => bind_congr fun _ => hresults _ _ _
  · rename_i htokens
    rw [readTypeParamsIfAny.eq_2 fuel tokens htokens]
    exact bind_congr fun _ => bind_congr fun _ => bind_congr fun _ => hresults _ _ _

/-- The type of a parameter, and whether it is variadic. -/
def readParamType (fuel : Nat) (allowVariadic : Bool) :
    List Token → Except ReadError (Step (TypeExpr × Bool))
  | .ellipsis :: rest =>
    if allowVariadic then do
      let (element, rest) ← readType fuel rest
      .ok ((.slice element, true), rest)
    else .error .variadicResult
  | tokens => do
    let (type, rest) ← readType fuel tokens
    .ok ((type, false), rest)

/-- What follows the parameter that was read last. -/
def readMoreItems (fuel : Nat) (allowVariadic : Bool) (param : ParamExpr) (variadic : Bool) :
    List Token → Except ReadError (Step (List ParamExpr × Bool))
  | .comma :: rest =>
    if variadic then .error .variadicNotLast
    else do
      let ((params, variadic), rest) ← readParamItems fuel allowVariadic rest
      .ok ((param :: params, variadic), rest)
  | .rightParen :: rest => .ok (([param], variadic), rest)
  | token :: _ => .error (.expected "',' or ')'" (some token))
  | [] => .error (.unterminated "parameter list")

theorem readParamItems_succ (fuel : Nat) (allowVariadic : Bool) (tokens : List Token) :
    readParamItems (fuel + 1) allowVariadic tokens = (do
      let ((type, variadic), rest) ← readParamType fuel allowVariadic (paramName tokens).2
      readMoreItems fuel allowVariadic ⟨(paramName tokens).1, type⟩ variadic rest) := by
  unfold readParamItems readMoreItems
  dsimp only
  generalize (paramName tokens).2 = rest
  split
  · rw [readParamType]
    split
    · cases readType fuel _ <;> rfl
    · rfl
  · rename_i hrest
    rw [readParamType.eq_2 fuel allowVariadic rest hrest]
    cases readType fuel rest <;> rfl

/-! ### Rules -/

/-- The tokens are those of some text. -/
def AllValid (tokens : List Token) : Prop := ∀ t ∈ tokens, t.Valid

theorem AllValid.head {t : Token} {rest : List Token} (h : AllValid (t :: rest)) : t.Valid :=
  h t List.mem_cons_self

theorem AllValid.tail {t : Token} {rest : List Token} (h : AllValid (t :: rest)) :
    AllValid rest := fun u hu => h u (List.mem_cons_of_mem t hu)

/-- If a step succeeds, this holds of what it read and of the tokens after it. -/
def Yields (step : Except ReadError (Step α)) (P : α → List Token → Prop) : Prop :=
  ∀ a rest, step = .ok (a, rest) → P a rest

namespace Yields

variable {P : α → List Token → Prop} {Q : β → List Token → Prop}

theorem ok {a : α} {rest : List Token} (h : P a rest) : Yields (.ok (a, rest)) P := by
  intro b rest' heq
  cases heq
  exact h

theorem error {e : ReadError} : Yields (.error e) P := by
  intro b rest heq
  cases heq

theorem bind {step : Except ReadError (Step α)} {next : Step α → Except ReadError (Step β)}
    (h : Yields step P) (hnext : ∀ a rest, P a rest → Yields (next (a, rest)) Q) :
    Yields (step >>= next) Q := by
  intro b rest heq
  cases hstep : step with
  | error e =>
    rw [hstep] at heq
    cases heq
  | ok read =>
    rw [hstep] at heq
    exact hnext read.1 read.2 (h _ _ hstep) b rest heq

theorem expect {token : Token} {tokens : List Token}
    {next : List Token → Except ReadError (Step β)}
    (hnext : ∀ rest, tokens = token :: rest → Yields (next rest) Q) :
    Yields (TypeReader.expect token tokens >>= next) Q := by
  cases tokens with
  | nil => exact error
  | cons t rest =>
    rw [TypeReader.expect]
    split
    · rename_i heq
      exact hnext rest (heq ▸ rfl)
    · exact error

theorem expectIdent {what : String} {tokens : List Token}
    {next : Step String → Except ReadError (Step β)}
    (hnext : ∀ name rest, tokens = .ident name :: rest → Yields (next (name, rest)) Q) :
    Yields (TypeReader.expectIdent what tokens >>= next) Q := by
  unfold TypeReader.expectIdent
  split
  · rename_i name rest
    exact hnext name rest rfl
  · exact error
  · exact error

end Yields

/-! ### The functions of the reader -/

/-- An expression as read from the tokens, with those after it. -/
structure ReadsAs (tokens : List Token) (e : TypeExpr) (rest : List Token) : Prop where
  wellFormed : e.WellFormed
  startsWithArrow : ∀ inner, e = .chan .recvOnly inner → tokens.head? = some .arrow
  valid : AllValid rest

/-- Names and what belongs to them, as read after the names that were `seen`. -/
structure Distinct (seen names : List String) : Prop where
  nodup : names.Nodup
  unseen : ∀ n ∈ names, n ∉ seen
  ident : ∀ n ∈ names, Token.IsIdent n

theorem Distinct.nil {seen : List String} : Distinct seen [] := ⟨.nil, nofun, nofun⟩

theorem Distinct.cons {seen names : List String} {name : String} (hname : Token.IsIdent name)
    (hseen : name ∉ seen) (h : Distinct (name :: seen) names) : Distinct seen (name :: names) where
  nodup := List.nodup_cons.2 ⟨fun hn => h.unseen name hn List.mem_cons_self, h.nodup⟩
  unseen := List.forall_mem_cons.2
    ⟨hseen, fun n hn hmem => h.unseen n hn (List.mem_cons_of_mem name hmem)⟩
  ident := List.forall_mem_cons.2 ⟨hname, h.ident⟩

theorem Distinct.of_cons {seen names : List String} {name : String}
    (h : Distinct seen (name :: names)) : name ∉ seen ∧ Distinct (name :: seen) names := by
  obtain ⟨hnotMem, hnodup⟩ := List.nodup_cons.1 h.nodup
  refine ⟨h.unseen name List.mem_cons_self, hnodup, fun n hn hmem => ?_, fun n hn => ?_⟩
  · rcases List.mem_cons.1 hmem with rfl | hmem
    · exact hnotMem hn
    · exact h.unseen n (List.mem_cons_of_mem name hn) hmem
  · exact h.ident n (List.mem_cons_of_mem name hn)

/-- What every function of the reader yields at a depth. -/
structure Reads (fuel : Nat) : Prop where
  type : ∀ tokens, AllValid tokens → Yields (readType fuel tokens) (ReadsAs tokens)
  args : ∀ tokens, AllValid tokens → Yields (readArgs fuel tokens) fun args rest =>
    (∀ arg ∈ args, arg.WellFormed) ∧ AllValid rest
  typeParams : ∀ tokens, AllValid tokens → Yields (readTypeParams fuel tokens) fun names rest =>
    (∀ name ∈ names, Token.IsIdent name) ∧ AllValid rest
  func : ∀ tokens, AllValid tokens → Yields (readFunc fuel tokens) fun f rest =>
    f.WellFormed ∧ (tokens.head? = some .leftParen → f.typeParams = []) ∧ AllValid rest
  params : ∀ allowed tokens, AllValid tokens →
    Yields (readParams fuel allowed tokens) fun list rest =>
      (∀ p ∈ list.1, p.WellFormed) ∧ UniformNames list.1 ∧
        (list.2 = true → EndsInSlice list.1) ∧ AllValid rest
  items : ∀ allowed tokens, AllValid tokens →
    Yields (readParamItems fuel allowed tokens) fun list rest =>
      (∀ p ∈ list.1, p.WellFormed) ∧ (list.2 = true → EndsInSlice list.1) ∧ AllValid rest
  fields : ∀ seen tokens, AllValid tokens →
    Yields (readFields fuel seen tokens) fun fields rest =>
      Distinct seen (fields.map (·.name)) ∧ (∀ f ∈ fields, f.type.WellFormed) ∧ AllValid rest
  methods : ∀ seen tokens, AllValid tokens →
    Yields (readMethods fuel seen tokens) fun methods rest =>
      Distinct seen (methods.map (·.name)) ∧ (∀ m ∈ methods, m.func.typeParams = []) ∧
        (∀ m ∈ methods, m.func.WellFormed) ∧ AllValid rest

variable {fuel : Nat}

theorem reads_zero : Reads 0 where
  type _ _ := .error
  args _ _ := .error
  typeParams _ _ := .error
  func _ _ := .error
  params _ _ _ := .error
  items _ _ _ := .error
  fields _ _ _ := .error
  methods _ _ _ := .error

/-- After an opening bracket, a slice or an array. -/
theorem Reads.bracket (h : Reads fuel) {rest : List Token} (hv : AllValid rest) :
    Yields (readType (fuel + 1) (.leftBracket :: rest)) (ReadsAs (.leftBracket :: rest)) := by
  unfold readType
  dsimp only
  split
  · refine (h.type _ hv.tail).bind fun e rest he => ?_
    exact .ok ⟨.slice he.wellFormed, nofun, he.valid⟩
  · rename_i length rest
    refine .expect fun rest' hrest => ?_
    subst hrest
    refine (h.type _ hv.tail.tail).bind fun e rest he => ?_
    exact .ok ⟨.array hv.head he.wellFormed, nofun, he.valid⟩
  · exact .error
  · exact .error

/-- After a name, whether it is one of the words that start a type of their own or not. -/
theorem Reads.ident (h : Reads fuel) {name : String} {rest : List Token}
    (hname : Token.IsIdent name) (hv : AllValid rest) :
    Yields (readType (fuel + 1) (.ident name :: rest)) (ReadsAs (.ident name :: rest)) := by
  unfold readType
  dsimp only
  split
  · refine .expect fun rest' hrest => ?_
    subst hrest
    refine (h.type _ hv.tail).bind fun key rest hkey => .expect fun rest' hrest => ?_
    subst hrest
    refine (h.type _ hkey.valid.tail).bind fun value rest hvalue => ?_
    exact .ok ⟨.map hkey.wellFormed hvalue.wellFormed, nofun, hvalue.valid⟩
  split
  · split
    · refine (h.type _ hv.tail).bind fun e rest he => ?_
      exact .ok ⟨.chan nofun he.wellFormed, nofun, he.valid⟩
    · rename_i rest hnotArrow
      refine (h.type _ hv).bind fun e rest' he => ?_
      refine .ok ⟨.chan (fun _ inner heq => ?_) he.wellFormed, nofun, he.valid⟩
      obtain ⟨rest'', hrest⟩ := List.head?_eq_some_iff.1 (he.startsWithArrow inner heq)
      exact hnotArrow rest'' hrest
  split
  · refine (h.func _ hv).bind fun f rest hf => ?_
    exact .ok ⟨.func hf.1, nofun, hf.2.2⟩
  split
  · refine .expect fun rest' hrest => ?_
    subst hrest
    refine (h.fields [] _ hv.tail).bind fun fields rest hfields => ?_
    obtain ⟨hnames, htypes, hrest⟩ := hfields
    exact .ok ⟨.struct hnames.nodup (List.forall_mem_map.1 hnames.ident) htypes, nofun, hrest⟩
  split
  · refine .expect fun rest' hrest => ?_
    subst hrest
    refine (h.methods [] _ hv.tail).bind fun methods rest hmethods => ?_
    obtain ⟨hnames, hparams, hfuncs, hrest⟩ := hmethods
    exact .ok ⟨.interface hnames.nodup (List.forall_mem_map.1 hnames.ident) hparams hfuncs, nofun,
      hrest⟩
  have hplain : IsTypeName name := ⟨hname, by simp [typeKeywords, *]⟩
  split
  · refine (h.args _ fun t ht => hv t (List.mem_of_mem_drop ht)).bind fun args rest hargs => ?_
    exact .ok ⟨.name hplain hargs.1, nofun, hargs.2⟩
  · exact .ok ⟨.name hplain nofun, nofun, hv⟩

theorem Reads.readType (h : Reads fuel) (tokens : List Token) (hv : AllValid tokens) :
    Yields (readType (fuel + 1) tokens) (ReadsAs tokens) := by
  match tokens, hv with
  | .leftBracket :: rest, hv => exact h.bracket hv.tail
  | .ident name :: rest, hv => exact h.ident hv.head hv.tail
  | .star :: rest, hv =>
    rw [TypeReader.readType]
    refine (h.type _ hv.tail).bind fun e rest he => ?_
    exact .ok ⟨.pointer he.wellFormed, nofun, he.valid⟩
  | .arrow :: rest, hv =>
    rw [TypeReader.readType]
    refine .expectIdent fun word rest' hrest => ?_
    subst hrest
    dsimp only
    split
    · refine (h.type _ hv.tail.tail).bind fun e rest he => ?_
      exact .ok ⟨.chan nofun he.wellFormed, fun _ _ => rfl, he.valid⟩
    · exact .error
  | [], _ | .int _ :: _, _ | .rightBracket :: _, _ | .leftParen :: _, _ | .rightParen :: _, _
  | .leftBrace :: _, _ | .rightBrace :: _, _ | .comma :: _, _ | .semicolon :: _, _
  | .ellipsis :: _, _ => exact .error

theorem Reads.readArgs (h : Reads fuel) (tokens : List Token) (hv : AllValid tokens) :
    Yields (readArgs (fuel + 1) tokens) fun args rest =>
      (∀ arg ∈ args, arg.WellFormed) ∧ AllValid rest := by
  rw [TypeReader.readArgs]
  refine (h.type _ hv).bind fun arg rest harg => ?_
  dsimp only
  split
  · refine (h.args _ harg.valid.tail).bind fun args rest hargs => ?_
    exact .ok ⟨List.forall_mem_cons.2 ⟨harg.wellFormed, hargs.1⟩, hargs.2⟩
  · exact .ok ⟨List.forall_mem_singleton.2 harg.wellFormed, harg.valid.tail⟩
  · exact .error
  · exact .error

theorem Reads.readTypeParams (h : Reads fuel) (tokens : List Token) (hv : AllValid tokens) :
    Yields (readTypeParams (fuel + 1) tokens) fun names rest =>
      (∀ name ∈ names, Token.IsIdent name) ∧ AllValid rest := by
  rw [TypeReader.readTypeParams]
  refine .expectIdent fun name rest hrest => ?_
  subst hrest
  refine (h.type _ hv.tail).bind fun bound rest hbound => ?_
  dsimp only
  split
  · refine (h.typeParams _ hbound.valid.tail).bind fun names rest hnames => ?_
    exact .ok ⟨List.forall_mem_cons.2 ⟨hv.head, hnames.1⟩, hnames.2⟩
  · exact .ok ⟨List.forall_mem_singleton.2 hv.head, hbound.valid.tail⟩
  · exact .error
  · exact .error

theorem uniformNames_iff {params : List ParamExpr} :
    uniformNames params = true ↔ UniformNames params := by
  rw [uniformNames, Bool.or_eq_true, List.all_eq_true, List.all_eq_true, UniformNames]

theorem Reads.typeParamsIfAny (h : Reads fuel) (tokens : List Token) (hv : AllValid tokens) :
    Yields (readTypeParamsIfAny fuel tokens) fun names rest =>
      (∀ name ∈ names, Token.IsIdent name) ∧
        (tokens.head? = some .leftParen → names = []) ∧ AllValid rest := by
  unfold readTypeParamsIfAny
  split
  · intro names rest heq
    have hnames := h.typeParams _ hv.tail names rest heq
    exact ⟨hnames.1, nofun, hnames.2⟩
  · exact .ok ⟨nofun, fun _ => rfl, hv⟩

theorem Reads.results (h : Reads fuel) (tokens : List Token) (hv : AllValid tokens) :
    Yields (readResults fuel tokens) fun results rest =>
      (∀ r ∈ results, r.WellFormed) ∧ UniformNames results ∧ AllValid rest := by
  unfold readResults
  split
  · refine (h.params false _ hv.tail).bind fun list rest ⟨hresults, huniform, _, hrest⟩ => ?_
    exact .ok ⟨hresults, huniform, hrest⟩
  split
  · refine (h.type _ hv).bind fun result rest hresult => .ok ⟨?_, ?_, hresult.valid⟩
    · exact List.forall_mem_singleton.2 (.mk nofun hresult.wellFormed)
    · exact .inr (List.forall_mem_singleton.2 rfl)
  · exact .ok ⟨nofun, .inl nofun, hv⟩

theorem Reads.readFunc (h : Reads fuel) (tokens : List Token) (hv : AllValid tokens) :
    Yields (readFunc (fuel + 1) tokens) fun f rest =>
      f.WellFormed ∧ (tokens.head? = some .leftParen → f.typeParams = []) ∧ AllValid rest := by
  rw [readFunc_succ]
  refine (h.typeParamsIfAny _ hv).bind fun names rest ⟨hnames, hnone, hrest⟩ => ?_
  refine .expect fun rest heq => ?_
  subst heq
  refine (h.params true _ hrest.tail).bind fun list rest ⟨hparams, huniform, hslice, hrest⟩ => ?_
  refine (h.results _ hrest).bind fun results rest ⟨hresults, huniform', hrest⟩ => ?_
  exact .ok ⟨.mk hnames hparams huniform hresults huniform' hslice, hnone, hrest⟩

theorem Reads.readParams (h : Reads fuel) (allowed : Bool) (tokens : List Token)
    (hv : AllValid tokens) :
    Yields (readParams (fuel + 1) allowed tokens) fun list rest =>
      (∀ p ∈ list.1, p.WellFormed) ∧ UniformNames list.1 ∧
        (list.2 = true → EndsInSlice list.1) ∧ AllValid rest := by
  unfold TypeReader.readParams
  split
  · rename_i heq
    cases heq
  · exact .ok ⟨nofun, .inl nofun, nofun, hv.tail⟩
  · rename_i heq _
    cases heq
    refine (h.items _ _ hv).bind fun list rest ⟨hparams, hslice, hrest⟩ => ?_
    dsimp only
    split
    · rename_i huniform
      exact .ok ⟨hparams, uniformNames_iff.1 huniform, hslice, hrest⟩
    · exact .error

/-- The name that may come before the type of a parameter. -/
theorem valid_paramName {tokens : List Token} (hv : AllValid tokens) :
    (∀ n, (paramName tokens).1 = some n → IsTypeName n) ∧ AllValid (paramName tokens).2 := by
  unfold paramName
  split
  · split
    · rename_i hstarts
      unfold startsWithParamName at hstarts
      rw [Bool.and_eq_true, Bool.not_eq_true', List.contains_eq_mem,
        decide_eq_false_iff_not] at hstarts
      refine ⟨fun n hn => ?_, hv.tail⟩
      cases hn
      exact ⟨hv.head, hstarts.1⟩
    · exact ⟨nofun, hv⟩
  · exact ⟨nofun, hv⟩

theorem endsInSlice_cons {p : ParamExpr} {params : List ParamExpr} (h : EndsInSlice params) :
    EndsInSlice (p :: params) := by
  obtain ⟨name, element, hlast⟩ := h
  refine ⟨name, element, ?_⟩
  rw [List.getLast?_cons, hlast, Option.getD_some]

theorem Reads.paramType (h : Reads fuel) (allowed : Bool) (tokens : List Token)
    (hv : AllValid tokens) :
    Yields (readParamType fuel allowed tokens) fun typed rest =>
      typed.1.WellFormed ∧ (typed.2 = true → ∃ element, typed.1 = .slice element) ∧
        AllValid rest := by
  unfold readParamType
  split
  · split
    · refine (h.type _ hv.tail).bind fun e rest he => ?_
      exact .ok ⟨.slice he.wellFormed, fun _ => ⟨e, rfl⟩, he.valid⟩
    · exact .error
  · refine (h.type _ hv).bind fun e rest he => ?_
    exact .ok ⟨he.wellFormed, nofun, he.valid⟩

theorem Reads.readParamItems (h : Reads fuel) (allowed : Bool) (tokens : List Token)
    (hv : AllValid tokens) :
    Yields (readParamItems (fuel + 1) allowed tokens) fun list rest =>
      (∀ p ∈ list.1, p.WellFormed) ∧ (list.2 = true → EndsInSlice list.1) ∧ AllValid rest := by
  obtain ⟨hname, hafter⟩ := valid_paramName hv
  rw [readParamItems_succ]
  refine (h.paramType allowed _ hafter).bind fun typed rest ⟨htype, hslice, hrest⟩ => ?_
  have hparam : ParamExpr.WellFormed ⟨(paramName tokens).1, typed.1⟩ := .mk hname htype
  unfold readMoreItems
  dsimp only
  split
  · split
    · exact .error
    · refine (h.items allowed _ hrest.tail).bind fun list rest ⟨hparams, hends, hrest⟩ => ?_
      exact .ok ⟨List.forall_mem_cons.2 ⟨hparam, hparams⟩,
        fun hv => endsInSlice_cons (hends hv), hrest⟩
  · refine .ok ⟨List.forall_mem_singleton.2 hparam, fun hv => ?_, hrest.tail⟩
    obtain ⟨element, helement⟩ := hslice hv
    exact ⟨(paramName tokens).1, element, by rw [List.getLast?_singleton, helement]⟩
  · exact .error
  · exact .error

theorem Reads.readFields (h : Reads fuel) (seen : List String) (tokens : List Token)
    (hv : AllValid tokens) :
    Yields (readFields (fuel + 1) seen tokens) fun fields rest =>
      Distinct seen (fields.map (·.name)) ∧ (∀ f ∈ fields, f.type.WellFormed) ∧ AllValid rest := by
  match tokens, hv with
  | .rightBrace :: rest, hv => exact .ok ⟨.nil, nofun, hv.tail⟩
  | .semicolon :: rest, hv => exact h.fields seen rest hv.tail
  | .ident name :: rest, hv =>
    unfold TypeReader.readFields
    dsimp only
    split
    · exact .error
    rename_i hseen
    rw [List.contains_eq_mem, decide_eq_true_eq] at hseen
    refine (h.type _ hv.tail).bind fun type rest htype => ?_
    have hmore : Yields (TypeReader.readFields fuel (name :: seen) rest >>= fun read =>
        .ok (⟨name, type⟩ :: read.1, read.2)) fun fields rest =>
        Distinct seen (fields.map (·.name)) ∧ (∀ f ∈ fields, f.type.WellFormed) ∧
          AllValid rest := by
      refine (h.fields _ _ htype.valid).bind fun fields rest ⟨hnames, htypes, hrest⟩ => .ok ?_
      exact ⟨hnames.cons hv.head hseen, List.forall_mem_cons.2 ⟨htype.wellFormed, htypes⟩, hrest⟩
    dsimp only
    split
    · exact hmore
    · exact hmore
    · exact .error
    · exact .error
  | [], _ | .int _ :: _, _ | .leftBracket :: _, _ | .rightBracket :: _, _ | .leftParen :: _, _
  | .rightParen :: _, _ | .leftBrace :: _, _ | .star :: _, _ | .comma :: _, _ | .arrow :: _, _
  | .ellipsis :: _, _ => exact .error

theorem Reads.readMethods (h : Reads fuel) (seen : List String) (tokens : List Token)
    (hv : AllValid tokens) :
    Yields (readMethods (fuel + 1) seen tokens) fun methods rest =>
      Distinct seen (methods.map (·.name)) ∧ (∀ m ∈ methods, m.func.typeParams = []) ∧
        (∀ m ∈ methods, m.func.WellFormed) ∧ AllValid rest := by
  match tokens, hv with
  | .rightBrace :: rest, hv => exact .ok ⟨.nil, nofun, nofun, hv.tail⟩
  | .semicolon :: rest, hv => exact h.methods seen rest hv.tail
  | .ident name :: rest, hv =>
    unfold TypeReader.readMethods
    dsimp only
    split
    · split
      · exact .error
      rename_i hseen
      rw [List.contains_eq_mem, decide_eq_true_eq] at hseen
      refine (h.func _ hv.tail).bind fun f rest ⟨hf, hnone, hrest⟩ => ?_
      refine (h.methods _ _ hrest).bind fun methods rest ⟨hnames, hnones, hfuncs, hrest⟩ => .ok ?_
      exact ⟨hnames.cons hv.head hseen, List.forall_mem_cons.2 ⟨hnone rfl, hnones⟩,
        List.forall_mem_cons.2 ⟨hf, hfuncs⟩, hrest⟩
    · exact .error
  | [], _ | .int _ :: _, _ | .leftBracket :: _, _ | .rightBracket :: _, _ | .leftParen :: _, _
  | .rightParen :: _, _ | .leftBrace :: _, _ | .star :: _, _ | .comma :: _, _ | .arrow :: _, _
  | .ellipsis :: _, _ => exact .error

theorem reads (fuel : Nat) : Reads fuel := by
  induction fuel with
  | zero => exact reads_zero
  | succ fuel ih =>
    exact
      { type := ih.readType
        args := ih.readArgs
        typeParams := ih.readTypeParams
        func := ih.readFunc
        params := ih.readParams
        items := ih.readParamItems
        fields := ih.readFields
        methods := ih.readMethods }

/-! ### Texts -/

theorem valid_of_tokensOf {text : String} {tokens : List Token}
    (h : tokensOf text = .ok tokens) : AllValid tokens := by
  unfold tokensOf at h
  split at h
  · cases h
  · cases h
  · rename_i hscan
    cases h
    exact Token.valid_of_scans (Token.scan_eq_ok_iff.1 hscan)

theorem complete_eq_ok_iff {result : Except ReadError (Step α)} {a : α} :
    complete result = .ok a ↔ result = .ok (a, []) := by
  unfold complete
  split <;> simp

end TypeReader

open TypeReader

theorem TypeExpr.wellFormed_of_read {text : String} {e : TypeExpr}
    (h : TypeExpr.read text = .ok e) : e.WellFormed := by
  unfold TypeExpr.read at h
  split at h
  · cases h
  · rename_i tokens htokens
    have hread := complete_eq_ok_iff.1 h
    exact ((reads _).type _ (valid_of_tokensOf htokens) _ _ hread).wellFormed

theorem FuncExpr.wellFormed_of_read {text : String} {f : FuncExpr}
    (h : FuncExpr.read text = .ok f) : f.WellFormed := by
  unfold FuncExpr.read at h
  split at h
  · cases h
  · rename_i tokens htokens
    have hread := complete_eq_ok_iff.1 h
    have hv := valid_of_tokensOf htokens
    have hdrop : AllValid (dropFunc tokens) := by
      unfold dropFunc
      split
      · exact hv.tail
      · exact hv
    exact ((reads _).func _ hdrop _ _ hread).1

end ScriptBind
