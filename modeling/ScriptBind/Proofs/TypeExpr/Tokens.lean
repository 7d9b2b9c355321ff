import Mathlib.Data.List.Forall2
import ScriptBind.TypeExpr.Printer
import ScriptBind.Proofs.TypeExpr.WellFormed

/-!
# ScriptBind.Proofs.TypeExpr.Tokens

The tokens of a type expression, and that its written form has these tokens.

* `Token.Prints` - the characters give the tokens, before whatever does not go on with a name.
* `TypeExpr.tokens`, `FuncExpr.tokens` - what an expression is written with.
* `TypeExpr.scan_render`, `FuncExpr.scan_render` - the scanner gives them back.
-/

namespace ScriptBind

namespace Token

open Text

/-! ### Characters that end a name -/

/-- The character goes on with no name and no number, whatever follows it. -/
def StopsAt (c : Char) : Prop :=
  isLetterOrNumber c = false ∧ c ≠ '_' ∧ c ≠ '.' ∧ c.isDigit = false

instance (c : Char) : Decidable (StopsAt c) := inferInstanceAs (Decidable (_ ∧ _))

theorem StopsAt.stops {c : Char} (h : StopsAt c) (rest : List Char) : Stops (c :: rest) := by
  intro c' rest' heq
  cases heq
  obtain ⟨hletter, hunderscore, hdot, hdigit⟩ := h
  refine ⟨?_, hdigit⟩
  unfold continuesIdent
  simp [hletter, hunderscore, hdot]

theorem ofPunctuation?_stopsAt {c : Char} {t : Token} (h : ofPunctuation? c = some t) :
    isBlank c = false ∧ StopsAt c := by
  unfold ofPunctuation? at h
  split at h <;> first | cases h; done | decide

/-- A name may stand before these characters. -/
def EndsName (cs : List Char) : Prop := ∀ rest, Stops rest → Stops (cs ++ rest)

theorem EndsName.cons {c : Char} (h : StopsAt c) (cs : List Char) : EndsName (c :: cs) :=
  fun rest _ => h.stops (cs ++ rest)

/-! ### Written forms -/

/-- In front of anything that does not go on with a name, the characters give these tokens. -/
def Prints (cs : List Char) (ts : List Token) : Prop :=
  ∀ rest us, Stops rest → Scans rest us → Scans (cs ++ rest) (ts ++ us)

namespace Prints

variable {cs cs' : List Char} {ts ts' : List Token}

theorem nil : Prints [] [] := fun _ _ _ h => h

theorem append (h : Prints cs ts) (hends : EndsName cs') (h' : Prints cs' ts') :
    Prints (cs ++ cs') (ts ++ ts') := by
  intro rest us hrest hus
  rw [List.append_assoc, List.append_assoc]
  exact h _ _ (hends rest hrest) (h' rest us hrest hus)

theorem ident {name : String} (h : IsIdent name) : Prints name.toList [.ident name] :=
  fun _ _ hrest hus => scans_ident h hrest hus

theorem int {n : Nat} (h : n < lengthBound) : Prints (toString n).toList [.int n] :=
  fun _ _ hrest hus => scans_int h hrest hus

theorem blank (h : Prints cs ts) : Prints (' ' :: cs) ts :=
  fun rest us hrest hus => .blank (by decide) (h rest us hrest hus)

theorem punctuation {c : Char} {t : Token} (ht : ofPunctuation? c = some t) (h : Prints cs ts) :
    Prints (c :: cs) (t :: ts) :=
  fun rest us hrest hus => .punctuation (ofPunctuation?_stopsAt ht).1 ht (h rest us hrest hus)

theorem ellipsis (h : Prints cs ts) : Prints ('.' :: '.' :: '.' :: cs) (.ellipsis :: ts) :=
  fun rest us hrest hus => .ellipsis (h rest us hrest hus)

theorem arrow (h : Prints cs ts) : Prints ('<' :: '-' :: cs) (.arrow :: ts) :=
  fun rest us hrest hus => .arrow (h rest us hrest hus)

/-- A name with something after it. -/
theorem named {name : String} (hname : IsIdent name) (hends : EndsName cs) (h : Prints cs ts) :
    Prints (name.toList ++ cs) (.ident name :: ts) := (ident hname).append hends h

/-- A name, a space and something after it. -/
theorem spaced {name : String} (hname : IsIdent name) (h : Prints cs ts) :
    Prints (name.toList ++ ' ' :: cs) (.ident name :: ts) :=
  named hname (.cons (by decide) cs) h.blank

/-- Something with a closing character after it. -/
theorem closed {c : Char} {t : Token} (ht : ofPunctuation? c = some t) (h : Prints cs ts)
    (h' : Prints cs' ts') : Prints (cs ++ c :: cs') (ts ++ t :: ts') :=
  h.append (.cons (ofPunctuation?_stopsAt ht).2 cs') (h'.punctuation ht)

theorem scan_ofList (h : Prints cs ts) : scan (String.ofList cs) = .ok ts := by
  have hscans := h [] [] stops_nil .nil
  rw [List.append_nil, List.append_nil] at hscans
  rw [scan_eq_ok_iff, String.toList_ofList]
  exact hscans

end Prints

/-- Items with a separator before each of them. -/
def following (separator : Token) (items : List (List Token)) : List Token :=
  items.flatMap (separator :: ·)

/-- Items with a separator between them. -/
def joined (separator : Token) : List (List Token) → List Token
  | [] => []
  | item :: rest => item ++ following separator rest

theorem following_of_ne_nil (separator : Token) {items : List (List Token)} (h : items ≠ []) :
    following separator items = separator :: joined separator items := by
  cases items with
  | nil => exact absurd rfl h
  | cons item rest => rw [following, List.flatMap_cons, List.cons_append, joined, following]

theorem joined_singleton (separator : Token) (item : List Token) :
    joined separator [item] = item := by
  rw [joined, following, List.flatMap_nil, List.append_nil]

theorem joined_cons (separator : Token) (item : List Token) {rest : List (List Token)}
    (h : rest ≠ []) :
    joined separator (item :: rest) = item ++ separator :: joined separator rest := by
  rw [joined, following_of_ne_nil separator h]

theorem prints_separated {c : Char} {t : Token} (ht : ofPunctuation? c = some t)
    {items : List (List Char)} {tokens : List (List Token)}
    (h : List.Forall₂ Prints items tokens) :
    Prints (separated [c, ' '] items) (joined t tokens) := by
  induction h with
  | nil => exact .nil
  | @cons item ts items tokens hitem hrest ih =>
    cases hrest with
    | nil =>
      rw [separated, joined_singleton]
      exact hitem
    | cons hnext hrest =>
      rw [joined_cons t ts (by simp), separated, List.append_assoc]
      exact hitem.closed ht ih.blank

end Token

open Token

/-! ### The tokens of an expression -/

/-- A type parameter is written with a constraint that is always satisfied. -/
def typeParamToken (name : String) : List Token := [.ident name, .ident "any"]

def typeParamTokens (names : List String) : List Token :=
  match names with
  | [] => []
  | names =>
    .leftBracket :: joined .comma (names.map typeParamToken) ++ [.rightBracket]

def nameTokens : Option String → List Token
  | none => []
  | some name => [.ident name]

/-- A single result without a name stands without parentheses. -/
def resultTokens (results : List ParamExpr) (items : List (List Token)) : List Token :=
  match results with
  | [] => []
  | [⟨none, _⟩] => joined .comma items
  | _ => .leftParen :: joined .comma items ++ [.rightParen]

mutual

def TypeExpr.tokens : TypeExpr → List Token
  | .name name [] => [.ident name]
  | .name name (arg :: args) =>
    .ident name :: .leftBracket :: joined .comma (arg.tokens :: exprTokens args) ++ [.rightBracket]
  | .slice element => .leftBracket :: .rightBracket :: element.tokens
  | .array length element => .leftBracket :: .int length :: .rightBracket :: element.tokens
  | .map key value =>
    .ident "map" :: .leftBracket :: key.tokens ++ .rightBracket :: value.tokens
  | .pointer element => .star :: element.tokens
  | .func signature => .ident "func" :: signature.tokens
  | .chan .both element => .ident "chan" :: element.tokens
  | .chan .sendOnly element => .ident "chan" :: .arrow :: element.tokens
  | .chan .recvOnly element => .arrow :: .ident "chan" :: element.tokens
  | .struct fields =>
    .ident "struct" :: .leftBrace :: joined .semicolon (fieldTokens fields) ++ [.rightBrace]
  | .interface methods =>
    .ident "interface" :: .leftBrace :: joined .semicolon (methodTokens methods) ++ [.rightBrace]

def exprTokens : List TypeExpr → List (List Token)
  | [] => []
  | e :: rest => e.tokens :: exprTokens rest

def fieldTokens : List FieldExpr → List (List Token)
  | [] => []
  | ⟨name, type⟩ :: rest => (.ident name :: type.tokens) :: fieldTokens rest

def methodTokens : List MethodExpr → List (List Token)
  | [] => []
  | ⟨name, func⟩ :: rest => (.ident name :: func.tokens) :: methodTokens rest

def FuncExpr.tokens : FuncExpr → List Token
  | ⟨typeParams, params, results, variadic⟩ =>
    typeParamTokens typeParams ++ .leftParen :: joined .comma (paramTokens variadic params) ++
      .rightParen :: resultTokens results (paramTokens false results)

def paramTokens (variadic : Bool) : List ParamExpr → List (List Token)
  | [] => []
  | [⟨name, .slice element⟩] =>
    if variadic then [nameTokens name ++ .ellipsis :: element.tokens]
    else [nameTokens name ++ .leftBracket :: .rightBracket :: element.tokens]
  | ⟨name, type⟩ :: rest => (nameTokens name ++ type.tokens) :: paramTokens variadic rest

end

/-! ### The written form gives the tokens -/

/-- A list with commas in it, in brackets or parentheses. -/
theorem prints_list {o c : Char} {opening closing : Token} {items : List (List Char)}
    {tokens : List (List Token)} {cs : List Char} {ts : List Token}
    (ho : ofPunctuation? o = some opening) (hc : ofPunctuation? c = some closing)
    (h : List.Forall₂ Prints items tokens) (hrest : Prints cs ts) :
    Prints (o :: (separated [',', ' '] items ++ c :: cs))
      (opening :: (joined .comma tokens ++ closing :: ts)) :=
  .punctuation ho ((prints_separated rfl h).closed hc hrest)

theorem prints_braced {items : List (List Char)} {tokens : List (List Token)}
    (h : List.Forall₂ Prints items tokens) :
    Prints (braced items) (.leftBrace :: (joined .semicolon tokens ++ [.rightBrace])) := by
  cases h with
  | nil => exact .punctuation rfl (.punctuation rfl .nil)
  | cons hitem hrest =>
    have hitems := prints_separated (c := ';') rfl (.cons hitem hrest)
    have hclose : Prints [' ', closeBrace] [.rightBrace] := .blank (.punctuation rfl .nil)
    exact .punctuation rfl (.blank (hitems.append (.cons (by decide) _) hclose))

theorem prints_typeParamChars {names : List String} (h : ∀ n ∈ names, IsIdent n)
    {cs : List Char} {ts : List Token} (hrest : Prints cs ts) :
    Prints (typeParamChars names ++ cs) (typeParamTokens names ++ ts) := by
  have hany : IsIdent "any" := by decide
  have hitems : List.Forall₂ Prints (names.map fun n => n.toList ++ " any".toList)
      (names.map typeParamToken) := by
    rw [List.forall₂_map_left_iff, List.forall₂_map_right_iff, List.forall₂_same]
    exact fun n hn => Prints.spaced (h n hn) (.ident hany)
  cases names with
  | nil => exact hrest
  | cons name names =>
    simp only [typeParamChars, typeParamTokens, List.cons_append, List.append_assoc]
    exact prints_list rfl rfl hitems hrest

theorem prints_namePart {name : Option String} (hname : ∀ n, name = some n → IsTypeName n)
    {cs : List Char} {ts : List Token} (h : Prints cs ts) :
    Prints (namePart name ++ cs) (nameTokens name ++ ts) := by
  cases name with
  | none => exact h
  | some n =>
    rw [namePart, List.append_assoc]
    exact .spaced (hname n rfl).1 h

theorem FuncExpr.endsName_chars (f : FuncExpr) : EndsName f.chars := by
  obtain ⟨typeParams, params, results, variadic⟩ := f
  unfold FuncExpr.chars
  cases typeParams with
  | nil => exact .cons (by decide) _
  | cons name names => exact .cons (by decide) _

/-- Only the last parameter of a variadic function is written in a way of its own. -/
theorem paramItems_cons {v : Bool} {name : Option String} {type : TypeExpr}
    {rest : List ParamExpr} (h : v = true → rest = [] → ∀ element, type ≠ .slice element) :
    paramItems v (⟨name, type⟩ :: rest) = (namePart name ++ type.chars) :: paramItems v rest ∧
      paramTokens v (⟨name, type⟩ :: rest) =
        (nameTokens name ++ type.tokens) :: paramTokens v rest := by
  cases rest with
  | nil =>
    cases type with
    | slice element =>
      cases v with
      | false => simp [paramItems, paramTokens, TypeExpr.chars, TypeExpr.tokens]
      | true => exact absurd rfl (h rfl rfl element)
    | _ => simp [paramItems, paramTokens]
  | cons next rest => cases type <;> simp [paramItems, paramTokens]

theorem prints_params_cons {v : Bool} {name : Option String} {type : TypeExpr}
    {rest : List ParamExpr} (h : v = true → rest = [] → ∀ element, type ≠ .slice element)
    (hparam : Prints (namePart name ++ type.chars) (nameTokens name ++ type.tokens))
    (hrest : List.Forall₂ Prints (paramItems v rest) (paramTokens v rest)) :
    List.Forall₂ Prints (paramItems v (⟨name, type⟩ :: rest))
      (paramTokens v (⟨name, type⟩ :: rest)) := by
  rw [(paramItems_cons h).1, (paramItems_cons h).2]
  exact .cons hparam hrest

mutual

theorem TypeExpr.prints : ∀ {e : TypeExpr}, e.WellFormed → Prints e.chars e.tokens
  | .name name [], h => by
    cases h with | name hname _ =>
    rw [TypeExpr.chars, TypeExpr.tokens]
    exact .ident hname.1
  | .name name (arg :: args), h => by
    cases h with | name hname hargs =>
    have hitems := prints_exprs hargs
    rw [exprItems, exprTokens] at hitems
    rw [TypeExpr.chars, TypeExpr.tokens, List.append_assoc]
    exact .named hname.1 (.cons (by decide) _) (prints_list rfl rfl hitems .nil)
  | .slice element, h => by
    cases h with | slice he =>
    rw [TypeExpr.chars, TypeExpr.tokens]
    exact .punctuation rfl (.punctuation rfl (TypeExpr.prints he))
  | .array length element, h => by
    cases h with | array hlength he =>
    rw [TypeExpr.chars, TypeExpr.tokens, List.cons_append]
    exact .punctuation rfl ((Prints.int hlength).closed rfl (TypeExpr.prints he))
  | .map key value, h => by
    cases h with | map hkey hvalue =>
    have hword : IsIdent "map" := by decide
    have hchars : word "map[" = "map".toList ++ ['['] := by decide
    simp only [TypeExpr.chars, TypeExpr.tokens, hchars, List.append_assoc, List.cons_append,
      List.nil_append]
    exact .named hword (.cons (by decide) _)
      (.punctuation rfl ((TypeExpr.prints hkey).closed rfl (TypeExpr.prints hvalue)))
  | .pointer element, h => by
    cases h with | pointer he =>
    rw [TypeExpr.chars, TypeExpr.tokens]
    exact .punctuation rfl (TypeExpr.prints he)
  | .func signature, h => by
    cases h with | func hf =>
    have hword : IsIdent "func" := by decide
    rw [TypeExpr.chars, TypeExpr.tokens]
    exact .named hword signature.endsName_chars (FuncExpr.prints hf)
  | .chan direction element, h => by
    cases h with | chan _ he =>
    have hword : IsIdent "chan" := by decide
    have hprints := TypeExpr.prints he
    rw [TypeExpr.chars]
    cases direction with
    | both => exact .spaced hword hprints
    | sendOnly => exact .named hword (.cons (by decide) _) hprints.blank.arrow
    | recvOnly => exact (Prints.spaced hword hprints).arrow
  | .struct fields, h => by
    cases h with | struct _ hnames htypes =>
    have hword : IsIdent "struct" := by decide
    have hchars : word "struct " = "struct".toList ++ [' '] := by decide
    simp only [TypeExpr.chars, TypeExpr.tokens, hchars, List.append_assoc, List.cons_append,
      List.nil_append]
    exact .spaced hword (prints_braced (prints_fields hnames htypes))
  | .interface methods, h => by
    cases h with | interface _ hnames _ hfuncs =>
    have hword : IsIdent "interface" := by decide
    have hchars : word "interface " = "interface".toList ++ [' '] := by decide
    simp only [TypeExpr.chars, TypeExpr.tokens, hchars, List.append_assoc, List.cons_append,
      List.nil_append]
    exact .spaced hword (prints_braced (prints_methods hnames hfuncs))

theorem prints_exprs : ∀ {es : List TypeExpr}, (∀ e ∈ es, e.WellFormed) →
    List.Forall₂ Prints (exprItems es) (exprTokens es)
  | [], _ => .nil
  | e :: es, h => by
    obtain ⟨he, hes⟩ := List.forall_mem_cons.1 h
    exact .cons (TypeExpr.prints he) (prints_exprs hes)

theorem prints_fields : ∀ {fields : List FieldExpr}, (∀ f ∈ fields, IsIdent f.name) →
    (∀ f ∈ fields, f.type.WellFormed) →
    List.Forall₂ Prints (fieldItems fields) (fieldTokens fields)
  | [], _, _ => .nil
  | ⟨name, type⟩ :: fields, hnames, htypes => by
    obtain ⟨hname, hnames⟩ := List.forall_mem_cons.1 hnames
    obtain ⟨htype, htypes⟩ := List.forall_mem_cons.1 htypes
    exact .cons (.spaced hname (TypeExpr.prints htype)) (prints_fields hnames htypes)

theorem prints_methods : ∀ {methods : List MethodExpr}, (∀ m ∈ methods, IsIdent m.name) →
    (∀ m ∈ methods, m.func.WellFormed) →
    List.Forall₂ Prints (methodItems methods) (methodTokens methods)
  | [], _, _ => .nil
  | ⟨name, func⟩ :: methods, hnames, hfuncs => by
    obtain ⟨hname, hnames⟩ := List.forall_mem_cons.1 hnames
    obtain ⟨hfunc, hfuncs⟩ := List.forall_mem_cons.1 hfuncs
    exact .cons (.named hname func.endsName_chars (FuncExpr.prints hfunc))
      (prints_methods hnames hfuncs)

theorem FuncExpr.prints : ∀ {f : FuncExpr}, f.WellFormed → Prints f.chars f.tokens
  | ⟨typeParams, params, results, variadic⟩, h => by
    cases h with | mk hnames hparams _ hresults _ _ =>
    have hparams' := prints_params (v := variadic) hparams
    have hresults' := prints_params (v := false) hresults
    unfold FuncExpr.chars FuncExpr.tokens
    rw [List.append_assoc, List.append_assoc]
    refine prints_typeParamChars hnames (prints_list rfl rfl hparams' ?_)
    split
    · exact .nil
    · have hresult := prints_separated (c := ',') rfl hresults'
      rw [(paramItems_cons (v := false) nofun).1, paramItems, separated] at hresult
      exact hresult.blank
    · rename_i hnil hsingle
      rw [resultTokens.eq_3 _ _ hnil hsingle]
      exact (prints_list rfl rfl hresults' .nil).blank

theorem prints_params : ∀ {v : Bool} {params : List ParamExpr}, (∀ p ∈ params, p.WellFormed) →
    List.Forall₂ Prints (paramItems v params) (paramTokens v params)
  | _, [], _ => .nil
  | v, ⟨name, type⟩ :: rest, h => by
    obtain ⟨hp, hrest⟩ := List.forall_mem_cons.1 h
    cases hp with | mk hname htype =>
    have hmore := prints_params (v := v) hrest
    have hparam := prints_namePart hname (TypeExpr.prints htype)
    by_cases hlast : v = true ∧ rest = []
    · obtain ⟨rfl, rfl⟩ := hlast
      cases type with
      | slice element =>
        cases htype with | slice he =>
        exact .cons (prints_namePart hname (TypeExpr.prints he).ellipsis) .nil
      | _ => exact prints_params_cons (by simp) hparam hmore
    · exact prints_params_cons (fun hv hnil => absurd ⟨hv, hnil⟩ hlast) hparam hmore

end

theorem TypeExpr.scan_render {e : TypeExpr} (h : e.WellFormed) : scan e.render = .ok e.tokens :=
  (TypeExpr.prints h).scan_ofList

theorem FuncExpr.scan_render {f : FuncExpr} (h : f.WellFormed) : scan f.render = .ok f.tokens :=
  (FuncExpr.prints h).scan_ofList

end ScriptBind
