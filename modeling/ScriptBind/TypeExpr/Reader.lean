import ScriptBind.TypeExpr.Basic
import ScriptBind.TypeExpr.Token

/-!
# ScriptBind.TypeExpr.Reader

Reading type notation. Each function takes the tokens that are left and gives back those it did
not use. Their first argument bounds the depth of the recursion; the entry points give one that
the tokens cannot exhaust, since two calls inside each other use up a token.

* `TypeExpr.read` - a complete type expression.
* `FuncExpr.read` - a complete function type, with or without the word `func`.
* `ReadError` - why a text is not one.
-/

namespace ScriptBind

inductive ReadError where
  | scan (error : ScanError)
  | empty
  /-- `found` is `none` at the end of the input. -/
  | expected (what : String) (found : Option Token)
  | unterminated (what : String)
  | trailing (token : Token)
  | duplicateField (name : String)
  | duplicateMethod (name : String)
  | embeddedInterface (name : String)
  | variadicNotLast
  | variadicResult
  | mixedNames
deriving DecidableEq, Repr

def ReadError.message : ReadError → String
  | .scan error => error.message
  | .empty => "empty type expression"
  | .expected what (some token) => "expected " ++ what ++ ", found " ++ token.inQuotes
  | .expected what none => "expected " ++ what ++ ", found end of input"
  | .unterminated what => "unterminated " ++ what
  | .trailing token => "unexpected trailing " ++ token.inQuotes
  | .duplicateField name => "duplicate field '" ++ name ++ "'"
  | .duplicateMethod name => "duplicate method '" ++ name ++ "'"
  | .embeddedInterface name => "embedded interface '" ++ name ++ "' is not supported"
  | .variadicNotLast => "variadic parameter must be last"
  | .variadicResult => "'...' is only allowed on the last parameter"
  | .mixedNames => "mixed named and unnamed parameters (grouped names are not supported)"

namespace TypeReader

/-- What a step of the reader read, and the tokens after it. -/
abbrev Step (α : Type) := α × List Token

def expect (token : Token) : List Token → Except ReadError (List Token)
  | [] => .error (.expected token.inQuotes none)
  | t :: rest =>
    if t = token then .ok rest else .error (.expected token.inQuotes (some t))

def expectIdent (what : String) : List Token → Except ReadError (Step String)
  | .ident name :: rest => .ok (name, rest)
  | t :: _ => .error (.expected what (some t))
  | [] => .error (.expected what none)

/-- Whether a bracket after a name opens type arguments: an empty pair and a number do not. -/
def opensArgs : List Token → Bool
  | .leftBracket :: .rightBracket :: _ => false
  | .leftBracket :: .int _ :: _ => false
  | .leftBracket :: _ :: _ => true
  | _ => false

/-- Whether the tokens start with the name of a parameter, and not with its type. -/
def startsWithParamName : List Token → Bool
  | .ident name :: rest =>
    !typeKeywords.contains name &&
      match rest with
      | .ident _ :: _ => true
      | .star :: _ => true
      | .arrow :: _ => true
      | .ellipsis :: _ => true
      | .leftBracket :: .rightBracket :: _ => true
      | .leftBracket :: .int _ :: _ => true
      | _ => false
  | _ => false

def paramName : List Token → Option String × List Token
  | .ident name :: rest =>
    if startsWithParamName (.ident name :: rest) then (some name, rest)
    else (none, .ident name :: rest)
  | tokens => (none, tokens)

/-- Whether a single result without parentheses follows. -/
def startsResult : List Token → Bool
  | .ident _ :: _ => true
  | .leftBracket :: _ => true
  | .star :: _ => true
  | .arrow :: _ => true
  | _ => false

/-- All parameters have names, or none has. -/
def uniformNames (params : List ParamExpr) : Bool :=
  params.all (·.name.isSome) || params.all (·.name.isNone)

mutual

def readType : Nat → List Token → Except ReadError (Step TypeExpr)
  | 0, _ => .error (.expected "a type" none)
  | _ + 1, [] => .error (.expected "a type" none)
  | fuel + 1, .leftBracket :: rest =>
    match rest with
    | .rightBracket :: rest => do
      let (element, rest) ← readType fuel rest
      .ok (.slice element, rest)
    | .int length :: rest => do
      let rest ← expect .rightBracket rest
      let (element, rest) ← readType fuel rest
      .ok (.array length element, rest)
    | token :: _ => .error (.expected "']' or array length" (some token))
    | [] => .error (.unterminated "'['")
  | fuel + 1, .star :: rest => do
    let (element, rest) ← readType fuel rest
    .ok (.pointer element, rest)
  | fuel + 1, .arrow :: rest => do
    let (word, rest) ← expectIdent "'chan' after '<-'" rest
    if word = "chan" then
      let (element, rest) ← readType fuel rest
      .ok (.chan .recvOnly element, rest)
    else .error (.expected "'chan' after '<-'" (some (.ident word)))
  | fuel + 1, .ident name :: rest =>
    if name = "map" then do
      let rest ← expect .leftBracket rest
      let (key, rest) ← readType fuel rest
      let rest ← expect .rightBracket rest
      let (value, rest) ← readType fuel rest
      .ok (.map key value, rest)
    else if name = "chan" then
      match rest with
      | .arrow :: rest => do
        let (element, rest) ← readType fuel rest
        .ok (.chan .sendOnly element, rest)
      | rest => do
        let (element, rest) ← readType fuel rest
        .ok (.chan .both element, rest)
    else if name = "func" then do
      let (signature, rest) ← readFunc fuel rest
      .ok (.func signature, rest)
    else if name = "struct" then do
      let rest ← expect .leftBrace rest
      let (fields, rest) ← readFields fuel [] rest
      .ok (.struct fields, rest)
    else if name = "interface" then do
      let rest ← expect .leftBrace rest
      let (methods, rest) ← readMethods fuel [] rest
      .ok (.interface methods, rest)
    else if opensArgs rest then do
      let (args, rest) ← readArgs fuel (rest.drop 1)
      .ok (.name name args, rest)
    else .ok (.name name [], rest)
  | _ + 1, token :: _ => .error (.expected "a type" (some token))

/-- Type arguments, after the opening bracket. -/
def readArgs : Nat → List Token → Except ReadError (Step (List TypeExpr))
  | 0, _ => .error (.unterminated "type arguments")
  | fuel + 1, tokens => do
    let (arg, rest) ← readType fuel tokens
    match rest with
    | .comma :: rest =>
      let (args, rest) ← readArgs fuel rest
      .ok (arg :: args, rest)
    | .rightBracket :: rest => .ok ([arg], rest)
    | token :: _ => .error (.expected "',' or ']' in type arguments" (some token))
    | [] => .error (.unterminated "type arguments")

/-- Type parameters, after the opening bracket; each has a constraint, which is dropped. -/
def readTypeParams : Nat → List Token → Except ReadError (Step (List String))
  | 0, _ => .error (.unterminated "type parameters")
  | fuel + 1, tokens => do
    let (name, rest) ← expectIdent "type parameter name" tokens
    let (_, rest) ← readType fuel rest
    match rest with
    | .comma :: rest =>
      let (names, rest) ← readTypeParams fuel rest
      .ok (name :: names, rest)
    | .rightBracket :: rest => .ok ([name], rest)
    | token :: _ => .error (.expected "',' or ']' in type parameters" (some token))
    | [] => .error (.unterminated "type parameters")

/-- What follows the word `func` or the name of a method. -/
def readFunc : Nat → List Token → Except ReadError (Step FuncExpr)
  | 0, _ => .error (.expected Token.leftParen.inQuotes none)
  | fuel + 1, tokens => do
    let (typeParams, rest) ←
      match tokens with
      | .leftBracket :: rest => readTypeParams fuel rest
      | rest => .ok ([], rest)
    let rest ← expect .leftParen rest
    let ((params, variadic), rest) ← readParams fuel true rest
    match rest with
    | .leftParen :: rest =>
      let ((results, _), rest) ← readParams fuel false rest
      .ok (⟨typeParams, params, results, variadic⟩, rest)
    | rest =>
      if startsResult rest then
        let (result, rest) ← readType fuel rest
        .ok (⟨typeParams, params, [⟨none, result⟩], variadic⟩, rest)
      else .ok (⟨typeParams, params, [], variadic⟩, rest)

/-- A list in parentheses, after the opening one, and whether its last element is variadic. -/
def readParams : Nat → Bool → List Token → Except ReadError (Step (List ParamExpr × Bool))
  | 0, _, _ => .error (.unterminated "parameter list")
  | _ + 1, _, .rightParen :: rest => .ok (([], false), rest)
  | fuel + 1, allowVariadic, tokens => do
    let ((params, variadic), rest) ← readParamItems fuel allowVariadic tokens
    if uniformNames params then .ok ((params, variadic), rest) else .error .mixedNames

def readParamItems : Nat → Bool → List Token → Except ReadError (Step (List ParamExpr × Bool))
  | 0, _, _ => .error (.unterminated "parameter list")
  | fuel + 1, allowVariadic, tokens => do
    let (name, rest) := paramName tokens
    let (type, variadic, rest) ←
      match rest with
      | .ellipsis :: rest =>
        if allowVariadic then do
          let (element, rest) ← readType fuel rest
          .ok (TypeExpr.slice element, true, rest)
        else .error .variadicResult
      | rest => do
        let (type, rest) ← readType fuel rest
        .ok (type, false, rest)
    match rest with
    | .comma :: rest =>
      if variadic then .error .variadicNotLast
      else
        let ((params, variadic), rest) ← readParamItems fuel allowVariadic rest
        .ok ((⟨name, type⟩ :: params, variadic), rest)
    | .rightParen :: rest => .ok (([⟨name, type⟩], variadic), rest)
    | token :: _ => .error (.expected "',' or ')'" (some token))
    | [] => .error (.unterminated "parameter list")

/-- The fields of a struct, after the opening brace; `seen` are the names before them. -/
def readFields : Nat → List String → List Token → Except ReadError (Step (List FieldExpr))
  | 0, _, _ => .error (.unterminated "struct")
  | _ + 1, _, .rightBrace :: rest => .ok ([], rest)
  | fuel + 1, seen, .semicolon :: rest => readFields fuel seen rest
  | fuel + 1, seen, .ident name :: rest =>
    if seen.contains name then .error (.duplicateField name)
    else do
      let (type, rest) ← readType fuel rest
      match rest with
      | .semicolon :: _ | .rightBrace :: _ =>
        let (fields, rest) ← readFields fuel (name :: seen) rest
        .ok (⟨name, type⟩ :: fields, rest)
      | token :: _ => .error (.expected "';' or '\x7d' after field" (some token))
      | [] => .error (.unterminated "struct")
  | _ + 1, _, token :: _ => .error (.expected "field name" (some token))
  | _ + 1, _, [] => .error (.unterminated "struct")

/-- The methods of an interface, after the opening brace; `seen` are the names before them. -/
def readMethods : Nat → List String → List Token → Except ReadError (Step (List MethodExpr))
  | 0, _, _ => .error (.unterminated "interface")
  | _ + 1, _, .rightBrace :: rest => .ok ([], rest)
  | fuel + 1, seen, .semicolon :: rest => readMethods fuel seen rest
  | fuel + 1, seen, .ident name :: rest =>
    match rest with
    | .leftParen :: _ =>
      if seen.contains name then .error (.duplicateMethod name)
      else do
        let (func, rest) ← readFunc fuel rest
        let (methods, rest) ← readMethods fuel (name :: seen) rest
        .ok (⟨name, func⟩ :: methods, rest)
    | _ => .error (.embeddedInterface name)
  | _ + 1, _, token :: _ => .error (.expected "method name" (some token))
  | _ + 1, _, [] => .error (.unterminated "interface")

end

/-- More than the depth of any recursion over the tokens. -/
def depthFor (tokens : List Token) : Nat := 3 * tokens.length + 3

/-- The tokens of a text, of which there must be some. -/
def tokensOf (text : String) : Except ReadError (List Token) :=
  match Token.scan text with
  | .error e => .error (.scan e)
  | .ok [] => .error .empty
  | .ok tokens => .ok tokens

/-- What was read, if no token is left. -/
def complete {α : Type} : Except ReadError (Step α) → Except ReadError α
  | .error e => .error e
  | .ok (a, []) => .ok a
  | .ok (_, token :: _) => .error (.trailing token)

/-- The word `func` at the start may be left out. -/
def dropFunc : List Token → List Token
  | .ident "func" :: rest => rest
  | tokens => tokens

end TypeReader

open TypeReader

def TypeExpr.read (text : String) : Except ReadError TypeExpr :=
  match tokensOf text with
  | .error e => .error e
  | .ok tokens => complete (readType (depthFor tokens) tokens)

def FuncExpr.read (text : String) : Except ReadError FuncExpr :=
  match tokensOf text with
  | .error e => .error e
  | .ok tokens => complete (readFunc (depthFor tokens) (dropFunc tokens))

end ScriptBind
