import ScriptBind.Declaration.Basic
import ScriptBind.Toml.Decode
import ScriptBind.Toml.Reader

/-!
# ScriptBind.Declaration.Reader

Declarations from TOML documents.

* `Declaration.ofToml` - the declaration in a document.
* `Declaration.read` - the declaration in a text, checked.
-/

namespace ScriptBind

inductive DeclarationError where
  /-- The text is no TOML, or a key is missing or has a value of a wrong type. -/
  | malformed
  | fault (fault : DeclarationFault)
deriving DecidableEq, Repr

namespace Declaration

open Toml (boolOf fieldsOf listOf optional required stringOf withDefault)

def packageOf (t : Toml) : Option Package :=
  match fieldsOf ["name", "path"] t with
  | some [name, path] => do
    return ⟨← required stringOf name, ← optional stringOf path⟩
  | _ => none

/-- The type parameters have two spellings, of which one may be used. -/
def eitherSpelling (t : Toml) : Option Bool :=
  match t.get? "type_params", t.get? "type-params" with
  | some _, some _ => none
  | none, some _ => some true
  | _, _ => some false

def typeDeclOf (t : Toml) : Option TypeDecl := do
  let params := if ← eitherSpelling t then "type-params" else "type_params"
  match fieldsOf ["name", "type", "alias", params, "request"] t with
  | some [name, type, isAlias, typeParams, request] =>
    return ⟨← required stringOf name, ← required stringOf type, ← withDefault false boolOf isAlias,
      ← withDefault [] (listOf stringOf) typeParams, ← withDefault true boolOf request⟩
  | _ => none

def functionDeclOf (t : Toml) : Option FunctionDecl :=
  match fieldsOf ["name", "signature", "request"] t with
  | some [name, signature, request] => do
    return ⟨← required stringOf name, ← required stringOf signature,
      ← withDefault true boolOf request⟩
  | _ => none

def methodDeclOf (t : Toml) : Option MethodDecl :=
  match fieldsOf ["receiver", "name", "signature", "request"] t with
  | some [receiver, name, signature, request] => do
    return ⟨← required stringOf receiver, ← required stringOf name,
      ← required stringOf signature, ← withDefault true boolOf request⟩
  | _ => none

/-- A direction is its word, or a table with the word as its only key and nothing under it. -/
def directionOf : Toml → Option RequestedDirection
  | .string word => RequestedDirection.ofText? word
  | .table [⟨word, .table []⟩] => RequestedDirection.ofText? word
  | .table [⟨word, .array []⟩] => RequestedDirection.ofText? word
  | _ => none

def convertDeclOf (t : Toml) : Option ConvertDecl :=
  match fieldsOf ["type", "direction"] t with
  | some [type, direction] => do
    return ⟨← required stringOf type, ← withDefault .both directionOf direction⟩
  | _ => none

def ofToml (t : Toml) : Option Declaration :=
  match fieldsOf ["package", "types", "functions", "methods", "convert"] t with
  | some [package, types, functions, methods, convert] => do
    return ⟨← required packageOf package, ← withDefault [] (listOf typeDeclOf) types,
      ← withDefault [] (listOf functionDeclOf) functions,
      ← withDefault [] (listOf methodDeclOf) methods,
      ← withDefault [] (listOf convertDeclOf) convert⟩
  | _ => none

/-- The declaration in a document, if it has no fault. -/
def checked (t : Toml) : Except DeclarationError Declaration :=
  match ofToml t with
  | none => .error .malformed
  | some d =>
    match d.check with
    | .error fault => .error (.fault fault)
    | .ok () => .ok d

def read (text : String) : Except DeclarationError Declaration :=
  match Toml.read? text with
  | none => .error .malformed
  | some t => checked t

end Declaration

end ScriptBind
