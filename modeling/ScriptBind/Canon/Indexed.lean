import ScriptBind.Canon.Normalize

/-!
# ScriptBind.Canon.Indexed

A session with indices. What `Session` finds by going through its table is looked up here: where a
kind stands, and where a name was entered. A named type is not among the indexed kinds, because its
entry changes when its underlying type is found.

* `Indexed` - a session with its indices.
* `Indexed.intern`, `Indexed.reserve` - the two ways in which they grow.
* `Indexed.normalize` - the canonical type of a node.
-/

namespace ScriptBind

structure Indexed where
  session : Session
  /-- The kinds that were interned, each with its position. -/
  interned : List (CanonKind × CanonId)
  /-- The names that were entered, each with its position. -/
  names : List (String × CanonId)
deriving DecidableEq, Repr

abbrev IndexedM := ExceptT CanonError (StateM Indexed)

namespace Indexed

def empty : Indexed := ⟨.empty, [], []⟩

instance : Inhabited Indexed := ⟨empty⟩

/-- A step that the indices take no notice of. -/
def lift {α : Type} (m : CanonM α) : IndexedM α := fun x =>
  ((m x.session).1, { x with session := (m x.session).2 })

def intern (x : Indexed) (kind : CanonKind) : Indexed × CanonId :=
  match x.interned.lookup kind with
  | some id => (x, id)
  | none =>
    let id := x.session.size
    ({ x with
        session := { x.session with kinds := x.session.kinds.push kind }
        interned := (kind, id) :: x.interned }, id)

def internM (kind : CanonKind) : IndexedM CanonId := do
  let (x, id) := (← get).intern kind
  set x
  return id

def reserve (type : TypeId) (name : String) (x : Indexed) : Indexed × CanonId :=
  let (s, id) := x.session.reserve type name
  ({ x with session := s, names := (name, id) :: x.names }, id)

def funcWith (normal : TypeId → IndexedM CanonId) (sig : FuncSig) : IndexedM CanonFunc := do
  match sig.receiver with
  | none =>
    let params ← sig.params.mapM fun p => normal p.type
    let results ← sig.results.mapM fun r => normal r.type
    return ⟨params, results, sig.variadic, sig.typeParams⟩
  | some receiver =>
    let first ← normal receiver.type
    if !receiver.typeParams.isEmpty && !sig.typeParams.isEmpty then
      throw (.conflictingTypeParams ((← get).session.typeString first) receiver.typeParams
        sig.typeParams)
    let params ← sig.params.mapM fun p => normal p.type
    let results ← sig.results.mapM fun r => normal r.type
    let typeParams := if sig.typeParams.isEmpty then receiver.typeParams else sig.typeParams
    return ⟨first :: params, results, sig.variadic, typeParams⟩

def methodsWith (normal : TypeId → IndexedM CanonId) (methods : List Method) :
    IndexedM (List CanonMethod) := do
  let found ← methods.mapM fun m => return ⟨m.name, ← funcWith normal m.sig⟩
  return found.mergeSort fun a b => a.name ≤ b.name

/-- `register` says whether a struct found here is known by the name made from its fields. The
number bounds the depth of the recursion. -/
def normalizeIn (g : TypeGraph) : Nat → Bool → TypeId → IndexedM CanonId
  | 0, _, type => throw (.endless type)
  | fuel + 1, register, type => do
    match (← get).session.memo.lookup type with
    | some id =>
      if register then lift (modify (Session.registerAlias id))
      return id
    | none =>
      let normal := normalizeIn g fuel true
      let id ←
        match ← lift (Session.node g type) with
        | .bool => internM .bool
        | .int width signedness => internM (.int width signedness)
        | .float precision => internM (.float precision)
        | .complex bits => internM (.complex bits)
        | .unsafePointer => internM .unsafePointer
        | .string => internM .string
        | .error => internM .error
        | .typeParam name => internM (.typeParam name)
        | .slice element => internM (.slice (← normal element))
        | .array length element => internM (.array length (← normal element))
        | .map key value => do
          let key ← normal key
          let value ← normal value
          internM (.map key value)
        | .pointer element => internM (.pointer (← normal element))
        | .chan direction element => internM (.chan direction (← normal element))
        | .func sig => internM (.func (← funcWith normal sig))
        | .interface [] => internM .any
        | .interface methods => internM (.interface (← methodsWith normal methods))
        | .struct fields => do
          let found ← fields.mapM fun f => return (f.name, ← normal f.type)
          let aliasName := structAlias ((← get).session.fieldListing found)
          let id ← internM (.struct aliasName found)
          if register then lift (modify (Session.registerAlias id))
          pure id
        | .aliasOf _ target => normalizeIn g fuel register target
        | .named name body _ => do
          match (← get).names.lookup name with
          | some id => pure id
          | none =>
            let (x, id) := (← get).reserve type name
            set x
            match body with
            | none => throw (.undefinedNamed name)
            | some body =>
              let direct := Session.isStruct (← lift (Session.node g body))
              let found ← normalizeIn g fuel (!direct) body
              let underlying ← lift (Session.underlyingOf name found)
              lift (modify (Session.setUnderlying id name underlying))
              pure id
      lift (modify fun s => s.remember type id)
      return id

def normalize (g : TypeGraph) (type : TypeId) : IndexedM CanonId :=
  normalizeIn g ((g.size + 1) * (g.size + 1)) true type

/-- The nodes asked for, in their order, each with its answer. -/
def answers (g : TypeGraph) : List TypeId → Indexed → List (TypeId × Except CanonError CanonId)
  | [], _ => []
  | type :: rest, x => (type, (normalize g type x).1) :: answers g rest (normalize g type x).2

def after (g : TypeGraph) : List TypeId → Indexed → Indexed
  | [], x => x
  | type :: rest, x => after g rest (normalize g type x).2

end Indexed
end ScriptBind
