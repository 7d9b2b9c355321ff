import ScriptBind.Declaration.Basic
import ScriptBind.TypeExpr.Printer
import ScriptBind.TypeExpr.Reader
import ScriptBind.TypeGraph.Basic

/-!
# ScriptBind.Declaration.Lowering

From a declaration to a type graph and the list of converters to make. All named types are
declared before any body is read, so bodies refer to them in any order; an alias sees the aliases
before it.

* `Declaration.lower` - the whole step.
* `Lowering.type`, `Lowering.func` - a type expression becomes a node of the graph.
-/

namespace ScriptBind

inductive LowerError where
  | expression (error : ReadError)
  | graph (error : GraphError)
  | unknownType (name : String)
  | instantiated (text : String)
  | receiverUnnamed (receiver : String)
  | receiverArgument (argument : String)
deriving DecidableEq, Repr

def LowerError.message : LowerError → String
  | .expression e => "invalid type expression: " ++ e.message
  | .graph e => "type graph error: " ++ e.message
  | .unknownType name => "unknown type '" ++ name ++ "'"
  | .instantiated text =>
    "invalid declaration: instantiated generic type '" ++ text ++ "' is not supported"
  | .receiverUnnamed receiver =>
    "invalid declaration: receiver '" ++ receiver ++ "' must be a named type or a pointer to one"
  | .receiverArgument argument =>
    "invalid declaration: receiver type argument '" ++ argument ++ "' must be a bare name"

/-- A converter to make: the label it is known by, its type and its direction. -/
structure Request where
  label : String
  type : TypeId
  direction : Direction
deriving DecidableEq, Repr

structure Lowered where
  package : String
  graph : TypeGraph
  requests : List Request

namespace Lowering

/-- The graph so far, and the nodes of the predeclared types that were used. -/
structure State where
  graph : TypeGraph
  predeclared : List (String × TypeId)

abbrev LowerM := StateT State (Except LowerError)

def fail {α : Type} (e : LowerError) : LowerM α := fun _ => .error e

def add (kind : TypeKind) : LowerM TypeId := fun s =>
  let (graph, id) := s.graph.add kind
  .ok (id, { s with graph := graph })

/-- A predeclared name stands for a kind of type; names that mean the same share their first
component. -/
def predeclaredKind? : String → Option (String × TypeKind)
  | "bool" => some ("bool", .bool)
  | "int" | "int64" => some ("int64", .int 64 .signed)
  | "int8" => some ("int8", .int 8 .signed)
  | "int16" => some ("int16", .int 16 .signed)
  | "int32" | "rune" => some ("int32", .int 32 .signed)
  | "uint" | "uint64" | "uintptr" => some ("uint64", .int 64 .unsigned)
  | "uint8" | "byte" => some ("uint8", .int 8 .unsigned)
  | "uint16" => some ("uint16", .int 16 .unsigned)
  | "uint32" => some ("uint32", .int 32 .unsigned)
  | "float32" => some ("float32", .float .single)
  | "float64" => some ("float64", .float .double)
  | "complex64" => some ("complex64", .complex 64)
  | "complex128" => some ("complex128", .complex 128)
  | "string" => some ("string", .string)
  | "error" => some ("error", .error)
  | "any" => some ("any", .interface [])
  | "unsafe.Pointer" => some ("unsafe.Pointer", .unsafePointer)
  | _ => none

/-- Each predeclared type has one node, made when it is first used. -/
def predeclaredNode (key : String) (kind : TypeKind) : LowerM TypeId := fun s =>
  match s.predeclared.lookup key with
  | some id => .ok (id, s)
  | none =>
    let (graph, id) := s.graph.add kind
    .ok (id, ⟨graph, (key, id) :: s.predeclared⟩)

/-- A name in a body: a type parameter in scope, else a predeclared type, else a declared one. -/
def name (package : String) (scope : List String) (n : String) : LowerM TypeId :=
  if scope.contains n then add (.typeParam n)
  else
    match predeclaredKind? n with
    | some (key, kind) => predeclaredNode key kind
    | none => fun s =>
      match s.graph.lookup n with
      | some id => .ok (id, s)
      | none =>
        match s.graph.lookup (qualify package n) with
        | some id => .ok (id, s)
        | none => .error (.unknownType n)

mutual

def type (package : String) (scope : List String) : TypeExpr → LowerM TypeId
  | .name n [] => name package scope n
  | .name n (arg :: args) => fail (.instantiated (TypeExpr.name n (arg :: args)).render)
  | .slice element => do add (.slice (← type package scope element))
  | .array length element => do add (.array length (← type package scope element))
  | .map key value => do
    let key ← type package scope key
    let value ← type package scope value
    add (.map key value)
  | .pointer element => do add (.pointer (← type package scope element))
  | .func signature => do add (.func (← func package scope signature))
  | .chan direction element => do add (.chan direction (← type package scope element))
  | .struct fs => do add (.struct (← fields package scope fs))
  | .interface ms => do add (.interface (← methods package scope ms))

def fields (package : String) (scope : List String) : List FieldExpr → LowerM (List Field)
  | [] => pure []
  | ⟨n, t⟩ :: rest => do
    let id ← type package scope t
    let rest ← fields package scope rest
    pure (⟨n, id⟩ :: rest)

def methods (package : String) (scope : List String) : List MethodExpr → LowerM (List Method)
  | [] => pure []
  | ⟨n, f⟩ :: rest => do
    let sig ← func package scope f
    let rest ← methods package scope rest
    pure (⟨n, sig⟩ :: rest)

/-- Its own type parameters come into scope beside those around it. -/
def func (package : String) (outer : List String) : FuncExpr → LowerM FuncSig
  | ⟨typeParams, ps, rs, variadic⟩ => do
    let ps ← params package (outer ++ typeParams) ps
    let rs ← params package (outer ++ typeParams) rs
    pure ⟨ps, rs, variadic, none, typeParams⟩

def params (package : String) (scope : List String) : List ParamExpr → LowerM (List Param)
  | [] => pure []
  | ⟨n, t⟩ :: rest => do
    let id ← type package scope t
    let rest ← params package scope rest
    pure (⟨n, id⟩ :: rest)

end

def liftRead {α : Type} : Except ReadError α → LowerM α
  | .ok a => pure a
  | .error e => fail (.expression e)

/-- A step of the graph that can fail. -/
def liftGraph {α : Type} (step : TypeGraph → Except GraphError (TypeGraph × α)) : LowerM α :=
  fun s =>
    match step s.graph with
    | .ok (graph, a) => .ok (a, { s with graph := graph })
    | .error e => .error (.graph e)

def typeText (package : String) (scope : List String) (text : String) : LowerM TypeId := do
  type package scope (← liftRead (TypeExpr.read text))

/-- The bare names among type arguments, or the first that is not one. -/
def bareNames : List TypeExpr → Except LowerError (List String)
  | [] => .ok []
  | .name n [] :: rest =>
    match bareNames rest with
    | .ok names => .ok (n :: names)
    | .error e => .error e
  | other :: _ => .error (.receiverArgument other.render)

/-- A receiver is a declared type or a pointer to one; its type arguments are the type parameters
of the method. Gives also the full name of the declared type. -/
def receiver (package : String) (text : String) : LowerM (Receiver × String) := do
  let expression ← liftRead (TypeExpr.read text)
  let (isPointer, base) : Bool × TypeExpr :=
    match expression with
    | .pointer inner => (true, inner)
    | other => (false, other)
  match base with
  | .name n args =>
    match bareNames args with
    | .error e => fail e
    | .ok typeParams =>
      let fullName := qualify package n
      let s ← get
      match s.graph.lookup fullName with
      | none => fail (.unknownType n)
      | some id =>
        let id ← if isPointer then add (.pointer id) else pure id
        pure (⟨id, typeParams⟩, fullName)
  | _ => fail (.receiverUnnamed text)

def bothWays (label : String) (id : TypeId) : List Request :=
  [⟨label, id, .toScript⟩, ⟨label, id, .fromScript⟩]

def declareTypes (package : String) : List TypeDecl → LowerM Unit
  | [] => pure ()
  | t :: rest => do
    if !t.isAlias then
      let _ ← liftGraph fun g => g.declare (qualify package t.name) t.typeParams
    declareTypes package rest

def defineAliases (package : String) : List TypeDecl → LowerM Unit
  | [] => pure ()
  | t :: rest => do
    if t.isAlias then
      let target ← typeText package [] t.type
      let _ ← liftGraph fun g => g.addAlias (qualify package t.name) target
    defineAliases package rest

/-- The node that a declared type was given. -/
def declaredId (package : String) (t : TypeDecl) : LowerM TypeId := fun s =>
  match s.graph.lookup (qualify package t.name) with
  | some id => .ok (id, s)
  | none => .error (.unknownType t.name)

def defineBodies (package : String) : List TypeDecl → LowerM Unit
  | [] => pure ()
  | t :: rest => do
    if !t.isAlias then
      let body ← typeText package t.typeParams t.type
      let id ← declaredId package t
      liftGraph fun g => (g.define id body).map fun g => (g, ())
    defineBodies package rest

def requestTypes (package : String) : List TypeDecl → LowerM (List Request)
  | [] => pure []
  | t :: rest => do
    if t.request then
      let id ← declaredId package t
      return bothWays (qualify package t.name) id ++ (← requestTypes package rest)
    else requestTypes package rest

def functions (package : String) : List FunctionDecl → LowerM (List Request)
  | [] => pure []
  | f :: rest => do
    let sig ← func package [] (← liftRead (FuncExpr.read f.signature))
    let id ← add (.func sig)
    let others ← functions package rest
    return (if f.request then bothWays (qualify package f.name) id else []) ++ others

def methodDecls (package : String) : List MethodDecl → LowerM (List Request)
  | [] => pure []
  | m :: rest => do
    let (receiver, base) ← receiver package m.receiver
    let sig ← func package receiver.typeParams (← liftRead (FuncExpr.read m.signature))
    let id ← add (.func { sig with receiver := some receiver })
    let others ← methodDecls package rest
    return (if m.request then bothWays (base ++ "." ++ m.name) id else []) ++ others

def conversions (package : String) : List ConvertDecl → LowerM (List Request)
  | [] => pure []
  | c :: rest => do
    let id ← typeText package [] c.type
    let others ← conversions package rest
    return c.direction.directions.map (fun d => ⟨c.type, id, d⟩) ++ others

def declaration (d : Declaration) : LowerM (List Request) := do
  let package := d.package.name
  declareTypes package d.types
  defineAliases package d.types
  defineBodies package d.types
  let ofTypes ← requestTypes package d.types
  let ofFunctions ← functions package d.functions
  let ofMethods ← methodDecls package d.methods
  let explicit ← conversions package d.convert
  liftGraph fun g => g.validate.map fun () => (g, ())
  return ofTypes ++ ofFunctions ++ ofMethods ++ explicit

end Lowering

def Declaration.lower (d : Declaration) : Except LowerError Lowered :=
  match Lowering.declaration d ⟨.empty, []⟩ with
  | .error e => .error e
  | .ok (requests, s) => .ok ⟨d.package.name, s.graph, requests⟩

end ScriptBind
