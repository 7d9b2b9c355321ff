import ScriptBind.Proofs.TypeExpr.Tokens

/-!
# ScriptBind.Proofs.TypeExpr.Lookahead

What the reader sees of the tokens before it decides how to read them.

* `Closes` - what may follow a type without being taken for a part of it.
* `StartsType` - how the tokens of a type begin (`startsType_tokens`).
* `paramName_tokens`, `paramName_before_type`, `paramName_before_dots` - names of types and names of
  parameters are not taken for each other.
-/

namespace ScriptBind
namespace TypeReader

open Token (joined)

/-! ### Before and after a type -/

/-- Nothing that could go on with a type. -/
inductive Closes : List Token → Prop where
  | nil : Closes []
  | comma {rest : List Token} : Closes (.comma :: rest)
  | semicolon {rest : List Token} : Closes (.semicolon :: rest)
  | rightBracket {rest : List Token} : Closes (.rightBracket :: rest)
  | rightParen {rest : List Token} : Closes (.rightParen :: rest)
  | rightBrace {rest : List Token} : Closes (.rightBrace :: rest)

namespace Closes

variable {tokens : List Token}

theorem opensArgs (h : Closes tokens) : opensArgs tokens = false := by cases h <;> rfl

theorem not_startsWithParamName (h : Closes tokens) (name : String) :
    startsWithParamName (.ident name :: tokens) = false := by
  cases h <;> simp [startsWithParamName]

end Closes

/-- How a type begins, which is never with a number or with something that closes. -/
inductive StartsType : List Token → Prop where
  | ident {name : String} {rest : List Token} : StartsType (.ident name :: rest)
  | star {rest : List Token} : StartsType (.star :: rest)
  | arrow {rest : List Token} : StartsType (.arrow :: rest)
  | slice {rest : List Token} : StartsType (.leftBracket :: .rightBracket :: rest)
  | array {length : Nat} {rest : List Token} :
    StartsType (.leftBracket :: .int length :: rest)

theorem startsType_tokens (e : TypeExpr) (ts : List Token) : StartsType (e.tokens ++ ts) := by
  cases e with
  | name n args =>
    cases args with
    | nil => exact .ident
    | cons arg args =>
      rw [TypeExpr.tokens]
      exact .ident
  | chan direction element =>
    cases direction with
    | both =>
      rw [TypeExpr.tokens]
      exact .ident
    | sendOnly =>
      rw [TypeExpr.tokens]
      exact .ident
    | recvOnly =>
      rw [TypeExpr.tokens]
      exact .arrow
  | slice element =>
    rw [TypeExpr.tokens]
    exact .slice
  | array length element =>
    rw [TypeExpr.tokens]
    exact .array
  | pointer element =>
    rw [TypeExpr.tokens]
    exact .star
  | _ =>
    rw [TypeExpr.tokens]
    exact .ident

theorem arrow_of_tokens {e : TypeExpr} {ts rest : List Token}
    (h : e.tokens ++ ts = .arrow :: rest) : ∃ inner, e = .chan .recvOnly inner := by
  cases e with
  | name n args => cases args <;> simp [TypeExpr.tokens] at h
  | chan direction element =>
    cases direction with
    | recvOnly => exact ⟨element, rfl⟩
    | _ => simp [TypeExpr.tokens] at h
  | _ => simp [TypeExpr.tokens] at h

namespace StartsType

variable {tokens : List Token}

theorem opensArgs (h : StartsType tokens) : opensArgs (.leftBracket :: tokens) = true := by
  cases h <;> rfl

theorem startsWithParamName (h : StartsType tokens) {name : String} (hname : name ∉ typeKeywords) :
    startsWithParamName (.ident name :: tokens) = true := by
  cases h <;> simp [TypeReader.startsWithParamName, hname]

theorem not_startsWithParamName (h : StartsType tokens) (name : String) :
    TypeReader.startsWithParamName (.ident name :: .leftBracket :: tokens) = false := by
  cases h <;> simp [TypeReader.startsWithParamName]

end StartsType

/-! ### The name of a parameter -/

theorem paramName_named {name : String} {tokens : List Token}
    (h : startsWithParamName (.ident name :: tokens) = true) :
    paramName (.ident name :: tokens) = (some name, tokens) := by
  rw [paramName, if_pos h]

theorem paramName_unnamed {name : String} {tokens : List Token}
    (h : startsWithParamName (.ident name :: tokens) = false) :
    paramName (.ident name :: tokens) = (none, .ident name :: tokens) := by
  rw [paramName, if_neg (by simp only [h, Bool.false_eq_true, not_false_eq_true])]

theorem paramName_keyword {word : String} (h : word ∈ typeKeywords) (tokens : List Token) :
    paramName (.ident word :: tokens) = (none, .ident word :: tokens) :=
  paramName_unnamed (by simp [startsWithParamName, h])

/-- The name of a type is not taken for the name of a parameter. -/
theorem paramName_tokens (e : TypeExpr) {ts : List Token} (hts : Closes ts) :
    paramName (e.tokens ++ ts) = (none, e.tokens ++ ts) := by
  cases e with
  | name n args =>
    cases args with
    | nil =>
      rw [TypeExpr.tokens]
      exact paramName_unnamed (hts.not_startsWithParamName n)
    | cons arg args =>
      rw [TypeExpr.tokens, joined]
      simp only [List.cons_append, List.append_assoc]
      exact paramName_unnamed ((startsType_tokens arg _).not_startsWithParamName n)
  | map key value => exact paramName_keyword (by decide) _
  | func signature => exact paramName_keyword (by decide) _
  | struct fields => exact paramName_keyword (by decide) _
  | interface methods => exact paramName_keyword (by decide) _
  | chan direction element =>
    cases direction with
    | recvOnly => rfl
    | _ => exact paramName_keyword (by decide) _
  | _ => rfl

theorem paramName_before_type {name : Option String} (hname : ∀ n, name = some n → IsTypeName n)
    (type : TypeExpr) {ts : List Token} (hts : Closes ts) :
    paramName (nameTokens name ++ (type.tokens ++ ts)) = (name, type.tokens ++ ts) := by
  cases name with
  | none => exact paramName_tokens type hts
  | some n =>
    exact paramName_named ((startsType_tokens type ts).startsWithParamName (hname n rfl).2)

theorem paramName_before_dots {name : Option String} (hname : ∀ n, name = some n → IsTypeName n)
    (ts : List Token) :
    paramName (nameTokens name ++ .ellipsis :: ts) = (name, .ellipsis :: ts) := by
  cases name with
  | none => rfl
  | some n => exact paramName_named (by simp [startsWithParamName, (hname n rfl).2])

end TypeReader
end ScriptBind
