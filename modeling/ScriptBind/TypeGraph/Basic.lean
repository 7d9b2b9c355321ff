import ScriptBind.Direction
import ScriptBind.Number.Format

/-!
# ScriptBind.TypeGraph.Basic

The types of a native library as a graph. Nodes refer to each other by position, so a type can
refer to itself: it is declared by name first, and defined when its body is there.

* `TypeGraph` - nodes, and the names that lead to them.
* `TypeGraph.add`, `declare`, `define`, `named`, `addAlias` - the ways to extend it.
* `TypeGraph.validate` - every declared name is defined.
-/

namespace ScriptBind

abbrev TypeId := Nat

structure Field where
  name : String
  type : TypeId
deriving DecidableEq, Repr

structure Param where
  name : Option String
  type : TypeId
deriving DecidableEq, Repr

/-- The receiver of a method, with the type parameters that it introduces. -/
structure Receiver where
  type : TypeId
  typeParams : List String
deriving DecidableEq, Repr

structure FuncSig where
  params : List Param
  results : List Param
  /-- The last parameter is a slice that collects the remaining arguments. -/
  variadic : Bool
  receiver : Option Receiver
  typeParams : List String
deriving DecidableEq, Repr

structure Method where
  name : String
  sig : FuncSig
deriving DecidableEq, Repr

inductive TypeKind where
  | bool
  | int (width : Nat) (signedness : Signedness)
  | float (precision : Precision)
  | complex (bits : Nat)
  | unsafePointer
  | string
  | slice (element : TypeId)
  | array (length : Nat) (element : TypeId)
  | map (key value : TypeId)
  | struct (fields : List Field)
  | pointer (element : TypeId)
  | func (sig : FuncSig)
  | chan (direction : ChanDir) (element : TypeId)
  | interface (methods : List Method)
  /-- The built-in type of errors. -/
  | error
  /-- Without an underlying type as long as it is declared only. -/
  | named (name : String) (underlying : Option TypeId) (typeParams : List String)
  | aliasOf (name : String) (target : TypeId)
  | typeParam (name : String)
deriving DecidableEq, Repr

inductive GraphError where
  | unknownType (id : TypeId)
  | duplicateName (name : String)
  | alreadyDefined (name : String)
  | undefined (name : String)
  | notNamed (id : TypeId)
deriving DecidableEq, Repr

def GraphError.message : GraphError → String
  | .unknownType id => "unknown type #" ++ toString id
  | .duplicateName name => "type name '" ++ name ++ "' is already declared"
  | .alreadyDefined name => "named type '" ++ name ++ "' is already defined"
  | .undefined name => "named type '" ++ name ++ "' was declared but never defined"
  | .notNamed id => "type #" ++ toString id ++ " is not a named type"

structure TypeGraph where
  nodes : Array TypeKind
  /-- In the order of declaration. -/
  names : List (String × TypeId)
deriving DecidableEq, Repr

namespace TypeGraph

def empty : TypeGraph := ⟨#[], []⟩

instance : Inhabited TypeGraph := ⟨empty⟩

def size (g : TypeGraph) : Nat := g.nodes.size

/-- Two calls with equal kinds make two nodes. -/
def add (g : TypeGraph) (kind : TypeKind) : TypeGraph × TypeId :=
  ({ g with nodes := g.nodes.push kind }, g.nodes.size)

def get (g : TypeGraph) (id : TypeId) : Except GraphError TypeKind :=
  match g.nodes[id]? with
  | some kind => .ok kind
  | none => .error (.unknownType id)

def lookup (g : TypeGraph) (name : String) : Option TypeId := g.names.lookup name

def addName (g : TypeGraph) (name : String) (kind : TypeKind) : TypeGraph × TypeId :=
  ({ nodes := g.nodes.push kind, names := g.names ++ [(name, g.nodes.size)] }, g.nodes.size)

def declare (g : TypeGraph) (name : String) (typeParams : List String) :
    Except GraphError (TypeGraph × TypeId) :=
  match g.lookup name with
  | some _ => .error (.duplicateName name)
  | none => .ok (g.addName name (.named name none typeParams))

def define (g : TypeGraph) (id underlying : TypeId) : Except GraphError TypeGraph :=
  match g.get underlying with
  | .error e => .error e
  | .ok _ =>
    match g.nodes[id]? with
    | some (.named name none typeParams) =>
      .ok { g with nodes := g.nodes.setIfInBounds id (.named name (some underlying) typeParams) }
    | some (.named name (some _) _) => .error (.alreadyDefined name)
    | some _ => .error (.notNamed id)
    | none => .error (.unknownType id)

/-- Declare and define in one step. When only the first half succeeds, the declaration stays: the
graph comes back with the error. -/
def named (g : TypeGraph) (name : String) (underlying : TypeId) :
    TypeGraph × Except GraphError TypeId :=
  match g.declare name [] with
  | .error e => (g, .error e)
  | .ok (g, id) =>
    match g.define id underlying with
    | .error e => (g, .error e)
    | .ok g => (g, .ok id)

def addAlias (g : TypeGraph) (name : String) (target : TypeId) :
    Except GraphError (TypeGraph × TypeId) :=
  match g.get target with
  | .error e => .error e
  | .ok _ =>
    match g.lookup name with
    | some _ => .error (.duplicateName name)
    | none => .ok (g.addName name (.aliasOf name target))

/-- The name of the first node that is declared only. -/
def firstUndefined : List TypeKind → Option String
  | [] => none
  | .named name none _ :: _ => some name
  | _ :: rest => firstUndefined rest

def validate (g : TypeGraph) : Except GraphError Unit :=
  match firstUndefined g.nodes.toList with
  | some name => .error (.undefined name)
  | none => .ok ()

def sortedNames (g : TypeGraph) : List (String × TypeId) :=
  g.names.mergeSort fun a b => a.1 ≤ b.1

end TypeGraph

end ScriptBind
