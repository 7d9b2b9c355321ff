import ScriptBind.Canon.Notation

/-!
# ScriptBind.Canon.Normalize

The canonical type of a graph node. A session keeps what it has found out, also when a step fails:
the name of a named type is entered before its body is looked at, so that a type which refers to
itself comes to an end.

* `CanonM` - steps that change a session and can fail.
* `Session.normalize` - the canonical type of a node.
-/

namespace ScriptBind

abbrev CanonM := ExceptT CanonError (StateM Session)

namespace Session

def internM (kind : CanonKind) : CanonM CanonId := do
  let (s, id) := (← get).intern kind
  set s
  return id

/-- Enter a struct among the aliases, with its fields in writing; other types have none. -/
def registerAlias (id : CanonId) (s : Session) : Session :=
  match s.kind? id with
  | some (.struct aliasName fields) =>
    match s.aliases.lookup aliasName with
    | some _ => s
    | none => { s with aliases := s.aliases ++ [(aliasName, s.fieldListing fields)] }
  | _ => s

def node (g : TypeGraph) (type : TypeId) : CanonM TypeKind :=
  match g.get type with
  | .ok kind => pure kind
  | .error e => throw (.graph e)

/-- The type parameters of a method come from the receiver or from the signature, not from both. -/
def funcWith (normal : TypeId → CanonM CanonId) (sig : FuncSig) : CanonM CanonFunc := do
  match sig.receiver with
  | none =>
    let params ← sig.params.mapM fun p => normal p.type
    let results ← sig.results.mapM fun r => normal r.type
    return ⟨params, results, sig.variadic, sig.typeParams⟩
  | some receiver =>
    let first ← normal receiver.type
    if !receiver.typeParams.isEmpty && !sig.typeParams.isEmpty then
      throw (.conflictingTypeParams ((← get).typeString first) receiver.typeParams sig.typeParams)
    let params ← sig.params.mapM fun p => normal p.type
    let results ← sig.results.mapM fun r => normal r.type
    let typeParams := if sig.typeParams.isEmpty then receiver.typeParams else sig.typeParams
    return ⟨first :: params, results, sig.variadic, typeParams⟩

def methodsWith (normal : TypeId → CanonM CanonId) (methods : List Method) :
    CanonM (List CanonMethod) := do
  let found ← methods.mapM fun m => return ⟨m.name, ← funcWith normal m.sig⟩
  return found.mergeSort fun a b => a.name ≤ b.name

def isStruct : TypeKind → Bool
  | .struct _ => true
  | _ => false

/-- The underlying type of a named type whose body has the canonical type `body`. -/
def underlyingOf (name : String) (body : CanonId) : CanonM CanonId := do
  match (← get).kind? body with
  | some (.named _ (some underlying)) => return underlying
  | some (.named other none) => throw (.unresolvedNamed name other)
  | _ => return body

def setUnderlying (id : CanonId) (name : String) (underlying : CanonId) (s : Session) : Session :=
  { s with kinds := s.kinds.setIfInBounds id (.named name (some underlying)) }

def reserve (type : TypeId) (name : String) (s : Session) : Session × CanonId :=
  let id := s.kinds.size
  ({ s with kinds := s.kinds.push (.named name none) }.remember type id, id)

/-- `register` says whether a struct found here is known by the name made from its fields; the
body of a named type is not. The number bounds the depth of the recursion. -/
def normalizeIn (g : TypeGraph) : Nat → Bool → TypeId → CanonM CanonId
  | 0, _, type => throw (.endless type)
  | fuel + 1, register, type => do
    match (← get).memo.lookup type with
    | some id =>
      if register then modify (registerAlias id)
      return id
    | none =>
      let normal := normalizeIn g fuel true
      let id ←
        match ← node g type with
        | .bool => internM .bool
        | .int width signedness => internM (.int width signedness)
        | .float precision => internM (.float precision)
        | .complex bits => internM (.complex bits)
        | .unsafePointer => internM .unsafePointer
        | .string => internM .string
        | .error => internM .error
        | .typeParam name => internM (.typeParam name)
        | .slice element => internM (.slice (← normal element))
        | .array length element => internM (.array length (← normal element))
        | .map key value => do
          let key ← normal key
          let value ← normal value
          internM (.map key value)
        | .pointer element => internM (.pointer (← normal element))
        | .chan direction element => internM (.chan direction (← normal element))
        | .func sig => internM (.func (← funcWith normal sig))
        | .interface [] => internM .any
        | .interface methods => internM (.interface (← methodsWith normal methods))
        | .struct fields => do
          let found ← fields.mapM fun f => return (f.name, ← normal f.type)
          let aliasName := structAlias ((← get).fieldListing found)
          let id ← internM (.struct aliasName found)
          if register then modify (registerAlias id)
          pure id
        | .aliasOf _ target => normalizeIn g fuel register target
        | .named name body _ => do
          match (← get).findNamed name with
          | some id => pure id
          | none =>
            let (s, id) := (← get).reserve type name
            set s
            match body with
            | none => throw (.undefinedNamed name)
            | some body =>
              let direct := isStruct (← node g body)
              let found ← normalizeIn g fuel (!direct) body
              let underlying ← underlyingOf name found
              modify (setUnderlying id name underlying)
              pure id
      modify fun s => s.remember type id
      return id

/-- Along a chain of nodes inside each other each named type stands once before the chain ends, and
between two of them no node stands twice. -/
def normalize (g : TypeGraph) (type : TypeId) : CanonM CanonId :=
  normalizeIn g ((g.size + 1) * (g.size + 1)) true type

end Session
end ScriptBind
