import ScriptBind.Digest.Sha256
import ScriptBind.TypeGraph.Basic

/-!
# ScriptBind.Canon.Basic

Canonical types. The nodes of a type graph that mean the same have one canonical type: aliases
are resolved, names of parameters are dropped, a receiver is the first parameter, the methods of
an interface stand in the order of their names, and an interface without methods is `any`.

* `CanonKind` - a canonical type over the positions of others.
* `Session` - the table of all canonical types so far.
* `Session.intern` - the position of a kind, a new one only if there is none.
-/

namespace ScriptBind

abbrev CanonId := Nat

/-- A receiver, if any, is the first parameter. -/
structure CanonFunc where
  params : List CanonId
  results : List CanonId
  variadic : Bool
  typeParams : List String
deriving DecidableEq, Repr

structure CanonMethod where
  name : String
  func : CanonFunc
deriving DecidableEq, Repr

inductive CanonKind where
  | bool
  | int (width : Nat) (signedness : Signedness)
  | float (precision : Precision)
  | complex (bits : Nat)
  | unsafePointer
  | string
  | slice (element : CanonId)
  | array (length : Nat) (element : CanonId)
  | map (key value : CanonId)
  | pointer (element : CanonId)
  | func (func : CanonFunc)
  | chan (direction : ChanDir) (element : CanonId)
  /-- In the order of the names of the methods. -/
  | interface (methods : List CanonMethod)
  | any
  | error
  /-- A struct without a name of its own is known by a name made from its fields. -/
  | struct (aliasName : String) (fields : List (String × CanonId))
  /-- Without an underlying type while that is being resolved. -/
  | named (name : String) (underlying : Option CanonId)
  | typeParam (name : String)
deriving DecidableEq, Repr

inductive CanonError where
  | graph (error : GraphError)
  | undefinedNamed (name : String)
  | unresolvedNamed (name other : String)
  | conflictingTypeParams (receiver : String) (ofReceiver own : List String)
  /-- The type refers to itself other than through a named type. -/
  | endless (id : TypeId)
deriving DecidableEq, Repr

def CanonError.message : CanonError → String
  | .graph e => "type graph error: " ++ e.message
  | .undefinedNamed name =>
    "invalid declaration: named type '" ++ name ++ "' has no definition"
  | .unresolvedNamed name other =>
    "invalid declaration: named type '" ++ name ++ "' is defined in terms of '" ++ other ++
      "', which is still unresolved"
  | .conflictingTypeParams receiver ofReceiver own =>
    "method on '" ++ receiver ++ "' declares type parameters on both the receiver [" ++
      ", ".intercalate ofReceiver ++ "] and the signature [" ++ ", ".intercalate own ++ "]"
  | .endless id => "invalid declaration: type #" ++ toString id ++ " contains itself"

structure Session where
  kinds : Array CanonKind
  /-- The canonical types of the graph nodes seen so far. -/
  memo : List (TypeId × CanonId)
  /-- The structs known by names made from their fields, each with its fields in writing. -/
  aliases : List (String × String)
deriving DecidableEq, Repr

namespace Session

def empty : Session := ⟨#[], [], []⟩

instance : Inhabited Session := ⟨empty⟩

def size (s : Session) : Nat := s.kinds.size

def kind? (s : Session) (id : CanonId) : Option CanonKind := s.kinds[id]?

/-- The position of a kind. Two positions never hold the same kind. -/
def intern (s : Session) (kind : CanonKind) : Session × CanonId :=
  match s.kinds.findIdx? (· = kind) with
  | some id => (s, id)
  | none => ({ s with kinds := s.kinds.push kind }, s.kinds.size)

def isNamed (name : String) : CanonKind → Bool
  | .named n _ => n = name
  | _ => false

/-- The position of the named type of this name. -/
def findNamed (s : Session) (name : String) : Option CanonId :=
  s.kinds.findIdx? (isNamed name)

/-- The underlying type of a named type, and any other type itself. -/
def structural (s : Session) (id : CanonId) : CanonId :=
  match s.kind? id with
  | some (.named _ (some underlying)) => underlying
  | _ => id

def remember (s : Session) (type : TypeId) (id : CanonId) : Session :=
  { s with memo := (type, id) :: s.memo }

/-- Aliases in the order of their names. -/
def sortedAliases (s : Session) : List (String × String) :=
  s.aliases.mergeSort fun a b => a.1 ≤ b.1

end Session

end ScriptBind
