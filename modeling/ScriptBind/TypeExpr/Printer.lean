import ScriptBind.TypeExpr.Basic

/-!
# ScriptBind.TypeExpr.Printer

Writing type expressions. The written form is one that the reader accepts, and for expressions
that the reader can produce it reads back as the same expression.

* `TypeExpr.render`, `FuncExpr.render` - the written form.
-/

namespace ScriptBind

/-- The items with a separator between them. -/
def separated (separator : List Char) : List (List Char) → List Char
  | [] => []
  | [item] => item
  | item :: next :: rest => item ++ separator ++ separated separator (next :: rest)

def openBrace : Char := '\x7b'

def closeBrace : Char := '\x7d'

/-- A body in braces, with a space inside each brace unless it is empty. -/
def braced (items : List (List Char)) : List Char :=
  match items with
  | [] => [openBrace, closeBrace]
  | items => openBrace :: ' ' :: separated [';', ' '] items ++ [' ', closeBrace]

/-- `[T any, U any]`, or nothing without type parameters. -/
def typeParamChars (names : List String) : List Char :=
  match names with
  | [] => []
  | names => '[' :: separated [',', ' '] (names.map fun n => n.toList ++ " any".toList) ++ [']']

def namePart : Option String → List Char
  | none => []
  | some name => name.toList ++ [' ']

/-- The word that starts a type, with what always follows it. -/
def word (text : String) : List Char := text.toList

mutual

def TypeExpr.chars : TypeExpr → List Char
  | .name name [] => name.toList
  | .name name (arg :: args) =>
    name.toList ++ '[' :: separated [',', ' '] (arg.chars :: exprItems args) ++ [']']
  | .slice element => '[' :: ']' :: element.chars
  | .array length element => '[' :: (toString length).toList ++ ']' :: element.chars
  | .map key value => word "map[" ++ key.chars ++ ']' :: value.chars
  | .pointer element => '*' :: element.chars
  | .func signature => word "func" ++ signature.chars
  | .chan direction element => word direction.keyword ++ element.chars
  | .struct fields => word "struct " ++ braced (fieldItems fields)
  | .interface methods => word "interface " ++ braced (methodItems methods)

def exprItems : List TypeExpr → List (List Char)
  | [] => []
  | e :: rest => e.chars :: exprItems rest

def fieldItems : List FieldExpr → List (List Char)
  | [] => []
  | ⟨name, type⟩ :: rest => (name.toList ++ ' ' :: type.chars) :: fieldItems rest

def methodItems : List MethodExpr → List (List Char)
  | [] => []
  | ⟨name, func⟩ :: rest => (name.toList ++ func.chars) :: methodItems rest

/-- A single result without a name stands without parentheses. -/
def FuncExpr.chars : FuncExpr → List Char
  | ⟨typeParams, params, results, variadic⟩ =>
    typeParamChars typeParams ++ '(' :: separated [',', ' '] (paramItems variadic params) ++ ')' ::
      (match results with
        | [] => []
        | [⟨none, type⟩] => ' ' :: type.chars
        | results => ' ' :: '(' :: separated [',', ' '] (paramItems false results) ++ [')'])

/-- The last parameter of a variadic function is written `...T` when it is a slice. -/
def paramItems (variadic : Bool) : List ParamExpr → List (List Char)
  | [] => []
  | [⟨name, .slice element⟩] =>
    if variadic then [namePart name ++ '.' :: '.' :: '.' :: element.chars]
    else [namePart name ++ '[' :: ']' :: element.chars]
  | ⟨name, type⟩ :: rest => (namePart name ++ type.chars) :: paramItems variadic rest

end

def TypeExpr.render (e : TypeExpr) : String := String.ofList e.chars

def FuncExpr.render (f : FuncExpr) : String := String.ofList f.chars

end ScriptBind
