import ScriptBind.Declaration.Lowering
import ScriptBind.Proofs.Canon.Trees

/-!
# ScriptBind.Proofs.Declaration.Spelling

The types of a declaration in writing, straight from their expressions.

* `TypeExpr.spell`, `FuncExpr.spell` - an expression in writing.
* `Declaration.names?` - what the declared names stand for.
* `TypePlace`, `TypePlace.spell?` - the places of a declaration where a type stands, in writing.
-/

namespace ScriptBind

/-- The predeclared types in writing; some have several names. -/
def builtIn? (name : String) : Option String :=
  match name with
  | "int" => some "int64"
  | "uint" | "uintptr" => some "uint64"
  | "byte" => some "uint8"
  | "rune" => some "int32"
  | _ => if predeclared.contains name then some name else none

/-- The declared types of a package by their full names, each as it is written. -/
structure Names where
  package : String
  declared : List (String × String)

namespace Names

def find? (names : Names) (name : String) : Option String :=
  names.declared.lookup (qualify names.package name)

/-- A type parameter in scope, else a predeclared type, else a declared one. -/
def resolve? (names : Names) (scope : List String) (name : String) : Option String :=
  if scope.contains name then some name
  else
    match builtIn? name with
    | some text => some text
    | none => names.find? name

end Names

/-- The methods, each with its signature in writing, in the order of their names. -/
def methodsText : List (String × String) → String
  | [] => "any"
  | methods => interfaceText ((methods.mergeSort fun a b => a.1 ≤ b.1).map fun m => m.1 ++ m.2)

mutual

def TypeExpr.spell (names : Names) (scope : List String) : TypeExpr → Option String
  | .name name [] => names.resolve? scope name
  | .name _ (_ :: _) => none
  | .slice element => return "[]" ++ (← element.spell names scope)
  | .array length element => return "[" ++ toString length ++ "]" ++ (← element.spell names scope)
  | .map key value =>
    return "map[" ++ (← key.spell names scope) ++ "]" ++ (← value.spell names scope)
  | .pointer element => return "*" ++ (← element.spell names scope)
  | .func signature => return "func" ++ (← signature.spell names scope)
  | .chan direction element => return direction.keyword ++ (← element.spell names scope)
  | .struct fields => return structAlias (String.join (← spellFields names scope fields))
  | .interface methods => return methodsText (← spellMethods names scope methods)

def FuncExpr.spell (names : Names) (outer : List String) : FuncExpr → Option String
  | ⟨typeParams, params, results, variadic⟩ => do
    let params ← spellParams names (outer ++ typeParams) variadic params
    let results ← spellParams names (outer ++ typeParams) false results
    return signatureText typeParams params results

/-- Names of parameters are dropped. -/
def spellParams (names : Names) (scope : List String) (variadic : Bool) :
    List ParamExpr → Option (List String)
  | [] => some []
  | [⟨_, .slice element⟩] =>
    return [(if variadic then "..." else "[]") ++ (← element.spell names scope)]
  | ⟨_, type⟩ :: rest =>
    return (← type.spell names scope) :: (← spellParams names scope variadic rest)

def spellFields (names : Names) (scope : List String) : List FieldExpr → Option (List String)
  | [] => some []
  | ⟨name, type⟩ :: rest =>
    return (name ++ " " ++ (← type.spell names scope) ++ ";") ::
      (← spellFields names scope rest)

def spellMethods (names : Names) (scope : List String) :
    List MethodExpr → Option (List (String × String))
  | [] => some []
  | ⟨name, func⟩ :: rest =>
    return (name, ← func.spell names scope) :: (← spellMethods names scope rest)

end

/-- The receiver comes first. Its type arguments are the type parameters of a function that has no
others. -/
def FuncExpr.spellMethod (names : Names) (receiver : String) (ofReceiver : List String)
    (f : FuncExpr) : Option String := do
  let params ← spellParams names (ofReceiver ++ f.typeParams) f.variadic f.params
  let results ← spellParams names (ofReceiver ++ f.typeParams) false f.results
  let typeParams := if f.typeParams.isEmpty then ofReceiver else f.typeParams
  return signatureText typeParams (receiver :: params) results

/-! ### Declarations -/

def TypeExpr.bareName? : TypeExpr → Option String
  | .name n [] => some n
  | _ => none

/-- A receiver in writing, with its type arguments. Only declared types have methods, also those
that are called as a predeclared type. -/
def TypeExpr.spellReceiver (names : Names) : TypeExpr → Option (String × List String)
  | .name n args => return (← names.find? n, ← args.mapM bareName?)
  | .pointer (.name n args) => return ("*" ++ (← names.find? n), ← args.mapM bareName?)
  | _ => none

def typeIn? (text : String) : Option TypeExpr := (TypeExpr.read text).toOption

def signatureIn? (text : String) : Option FuncExpr := (FuncExpr.read text).toOption

/-- Where a type stands in a declaration. -/
inductive TypePlace where
  | target (t : TypeDecl)
  | body (t : TypeDecl)
  | function (f : FunctionDecl)
  | receiver (m : MethodDecl)
  | method (m : MethodDecl)
  | conversion (c : ConvertDecl)
deriving DecidableEq

def TypePlace.spell? (names : Names) : TypePlace → Option String
  | .target t => do (← typeIn? t.type).spell names []
  | .body t => do (← typeIn? t.type).spell names t.typeParams
  | .function f => return "func" ++ (← (← signatureIn? f.signature).spell names [])
  | .receiver m => return (← (← typeIn? m.receiver).spellReceiver names).1
  | .method m => do
    let (first, typeParams) ← (← typeIn? m.receiver).spellReceiver names
    return "func" ++ (← (← signatureIn? m.signature).spellMethod names first typeParams)
  | .conversion c => do (← typeIn? c.type).spell names []

/-- An alias is written as what it stands for. It sees the aliases before it. -/
def Names.withAliases? (names : Names) : List TypeDecl → Option Names
  | [] => some names
  | t :: rest =>
    if t.isAlias then do
      let text ← (TypePlace.target t).spell? names
      withAliases? ⟨names.package, names.declared ++ [(qualify names.package t.name, text)]⟩ rest
    else names.withAliases? rest

namespace Declaration

def named (d : Declaration) : List TypeDecl := d.types.filter (!·.isAlias)

def aliases (d : Declaration) : List TypeDecl := d.types.filter (·.isAlias)

/-- A named type is written by its full name. -/
def names? (d : Declaration) : Option Names :=
  let named := d.named.map fun t => d.qualifiedName t.name
  Names.withAliases? ⟨d.package.name, named.map fun name => (name, name)⟩ d.types

def places (d : Declaration) : List TypePlace :=
  d.aliases.map .target ++ d.named.map .body ++ d.functions.map .function ++
    d.methods.flatMap (fun m => [.receiver m, .method m]) ++ d.convert.map .conversion

end Declaration
end ScriptBind
