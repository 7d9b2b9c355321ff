import ScriptBind.Direction

/-!
# ScriptBind.Declaration.Basic

What a native library exports, as declared for binding: its named types and aliases, its functions
and methods, and further types to convert. Types stand here as text.

* `Declaration` - the whole.
* `Declaration.check` - the first fault, if any.
* `qualify` - the full name of a declared type or function.
-/

namespace ScriptBind

structure Package where
  name : String
  /-- The full import path, for information. -/
  path : Option String
deriving DecidableEq, Repr

/-- A named type, or another name for a type. -/
structure TypeDecl where
  name : String
  type : String
  isAlias : Bool
  typeParams : List String
  request : Bool
deriving DecidableEq, Repr

structure FunctionDecl where
  name : String
  signature : String
  request : Bool
deriving DecidableEq, Repr

structure MethodDecl where
  receiver : String
  name : String
  signature : String
  request : Bool
deriving DecidableEq, Repr

/-- The directions of a further conversion. -/
inductive RequestedDirection where
  | both
  | only (direction : Direction)
deriving DecidableEq, Repr

namespace RequestedDirection

def directions : RequestedDirection → List Direction
  | .both => [.toScript, .fromScript]
  | .only d => [d]

def text : RequestedDirection → String
  | .both => "both"
  | .only d => d.text

def ofText? (text : String) : Option RequestedDirection :=
  if text = "both" then some .both else (Direction.ofText? text).map .only

end RequestedDirection

structure ConvertDecl where
  type : String
  direction : RequestedDirection
deriving DecidableEq, Repr

structure Declaration where
  package : Package
  types : List TypeDecl
  functions : List FunctionDecl
  methods : List MethodDecl
  convert : List ConvertDecl
deriving DecidableEq, Repr

inductive DeclarationFault where
  | packageUnnamed
  | packageQualified (name : String)
  | typeQualified (name : String)
  | typeTwice (name : String)
  | aliasWithTypeParams (name : String)
  | functionTwice (name : String)
deriving DecidableEq, Repr

def DeclarationFault.message : DeclarationFault → String
  | .packageUnnamed => "package.name is required"
  | .packageQualified name => "package name '" ++ name ++ "' must not contain '.'"
  | .typeQualified name => "type name '" ++ name ++ "' must be unqualified"
  | .typeTwice name => "type '" ++ name ++ "' is declared twice"
  | .aliasWithTypeParams name => "alias '" ++ name ++ "' cannot declare type parameters"
  | .functionTwice name => "function '" ++ name ++ "' is declared twice"

def hasDot (name : String) : Bool := name.toList.contains '.'

/-- A name with a dot is qualified already. -/
def qualify (package name : String) : String :=
  if hasDot name then name else package ++ "." ++ name

namespace Declaration

/-- `seen` are the names of the types before these. -/
def checkTypes (seen : List String) : List TypeDecl → Except DeclarationFault Unit
  | [] => .ok ()
  | t :: rest =>
    if hasDot t.name then .error (.typeQualified t.name)
    else if seen.contains t.name then .error (.typeTwice t.name)
    else if t.isAlias && !t.typeParams.isEmpty then .error (.aliasWithTypeParams t.name)
    else checkTypes (t.name :: seen) rest

/-- `seen` are the names of the functions before these. -/
def checkFunctions (seen : List String) : List FunctionDecl → Except DeclarationFault Unit
  | [] => .ok ()
  | f :: rest =>
    if seen.contains f.name then .error (.functionTwice f.name)
    else checkFunctions (f.name :: seen) rest

def check (d : Declaration) : Except DeclarationFault Unit :=
  if d.package.name = "" then .error .packageUnnamed
  else if hasDot d.package.name then .error (.packageQualified d.package.name)
  else
    match checkTypes [] d.types with
    | .error e => .error e
    | .ok () => checkFunctions [] d.functions

def qualifiedName (d : Declaration) (name : String) : String := qualify d.package.name name

end Declaration

end ScriptBind
