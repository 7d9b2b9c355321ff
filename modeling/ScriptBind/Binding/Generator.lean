import ScriptBind.Binding.Basic
import ScriptBind.Canon.Normalize
import ScriptBind.Declaration.Lowering
import ScriptBind.Text.Slug

/-!
# ScriptBind.Binding.Generator

Generating bindings. A type that is asked for gets a shape, and its converter gets an entry, and
so does everything these refer to. A place is reserved for a shape before the shapes inside it are
made, and for an entry before the entries that it calls, so recursive types come to an end. A type
that cannot be converted becomes boxed and is noted as a limitation.

* `Generator` - the state of a run.
* `Generator.add`, `Generator.request`, `Generator.shape` - what can be asked for.
* `Generator.finish` - the bindings.
* `Lowered.generate` - the bindings of a declaration.
-/

namespace ScriptBind

/-- A shape that is still without its rule is being made. -/
structure ShapeRow where
  name : String
  kind : Option ShapeKind
deriving DecidableEq, Repr

/-- What a run reports on its way. -/
inductive GeneratorEvent where
  | degraded (typeName reason : String)
  | bridge (ident element : String)
  | converter (ident typeName : String) (direction : Direction)
deriving DecidableEq, Repr

def GeneratorEvent.message : GeneratorEvent → String
  | .degraded typeName reason => typeName ++ ": degraded to opaque pass-through: " ++ reason
  | .bridge ident element => "registered bridge support " ++ ident ++ " for " ++ element
  | .converter ident typeName direction =>
    "registered converter " ++ ident ++ " for " ++ typeName ++ " (" ++ direction.text ++ ")"

structure Generator where
  canon : Session
  rows : Array ShapeRow
  shapeOf : List (CanonId × ShapeId)
  entries : Array ConverterEntry
  bridges : Array BridgeSupport
  limitations : Array Limitation
  exports : Array Export
  events : Array GeneratorEvent
deriving DecidableEq, Repr

abbrev GenM := StateM Generator

namespace Generator

def empty : Generator := ⟨.empty, #[], [], #[], #[], #[], #[], #[]⟩

instance : Inhabited Generator := ⟨empty⟩

/-! ### Identifiers -/

def identsUsed (g : Generator) : List String :=
  g.entries.toList.map (·.ident) ++ g.bridges.toList.map (·.ident)

/-- The first of `base_n`, `base_(n+1)`, … that is not used. The number is at least the count of
used identifiers. -/
def freshFrom (used : List String) (base : String) (n : Nat) : Nat → String
  | 0 => base ++ "_" ++ toString n
  | fuel + 1 =>
    let ident := base ++ "_" ++ toString n
    if used.contains ident then freshFrom used base (n + 1) fuel else ident

def freshIdent (used : List String) (base : String) : String :=
  if used.contains base then freshFrom used base 2 used.length else base

/-! ### Shapes -/

def degrade (name reason : String) : GenM ShapeKind := do
  modify fun g =>
    { g with
      limitations := g.limitations.push ⟨name, reason⟩
      events := g.events.push (.degraded name reason) }
  return .boxed reason

def shapeName (g : Generator) (id : ShapeId) : String :=
  match g.rows[id]? with
  | some row => row.name
  | none => ""

/-- Each pair of an element shape and a direction has one bridge support. -/
def registerBridge (element : ShapeId) (direction : ChanDir) : GenM Unit :=
  modify fun g =>
    if g.bridges.any fun b => b.element = element && b.direction = direction then g
    else
      let name := g.shapeName element
      let ident :=
        freshIdent g.identsUsed ("bridge_" ++ Text.slug name ++ "_" ++ direction.label)
      { g with
        bridges := g.bridges.push ⟨ident, element, direction⟩
        events := g.events.push (.bridge ident name) }

/-- A shape that is being made counts as convertible. -/
def isUnconvertible (g : Generator) (id : ShapeId) : Bool :=
  match g.rows[id]? with
  | some ⟨_, some kind⟩ => kind.isBoxed
  | _ => false

def isSlice : Option CanonKind → Bool
  | some (.slice _) => true
  | _ => false

def endsInSlice (canon : Session) (params : List CanonId) : Bool :=
  match params.getLast? with
  | some last => isSlice (canon.kind? (canon.structural last))
  | none => false

/-- The shape of a function, or why it has none. -/
def funcShape (shape : CanonId → GenM ShapeId) (f : CanonFunc) :
    GenM (Except String FuncShape) := do
  if !f.typeParams.isEmpty then
    return .error ("generic function [" ++ ", ".intercalate f.typeParams ++ "] is not instantiated")
  else if f.variadic && !endsInSlice (← get).canon f.params then
    return .error "variadic parameter is not a slice"
  else
    let params ← f.params.mapM shape
    let results ← f.results.mapM shape
    return .ok ⟨params, results, f.variadic⟩

/-- The shapes of methods, or the first that has none and why. -/
def methodShapes (shape : CanonId → GenM ShapeId) :
    List CanonMethod → GenM (Except String (List MethodShape))
  | [] => return .ok []
  | ⟨name, f⟩ :: rest => do
    match ← funcShape shape f with
    | .error reason => return .error ("method " ++ name ++ ": " ++ reason)
    | .ok func =>
      match ← methodShapes shape rest with
      | .error reason => return .error reason
      | .ok methods => return .ok (⟨name, func⟩ :: methods)

/-- The shapes of fields, or the first that cannot be converted. -/
def fieldShapes (shape : CanonId → GenM ShapeId) :
    List (String × CanonId) → GenM (Except String (List FieldShape))
  | [] => return .ok []
  | (name, type) :: rest => do
    let id ← shape type
    let g ← get
    if g.isUnconvertible id then
      return .error ("field " ++ name ++ " has unconvertible type " ++ g.canon.typeString type)
    else
      match ← fieldShapes shape rest with
      | .error reason => return .error reason
      | .ok fields => return .ok (⟨name, id⟩ :: fields)

/-- The rule of a type whose structure is `kind`. -/
def kindFor (shape : CanonId → GenM ShapeId) (name : String) (kind : Option CanonKind) :
    GenM ShapeKind := do
  match kind with
  | some .bool => return .scalar .bool
  | some (.int width signedness) => return .scalar (.int width signedness)
  | some (.float precision) => return .scalar (.float precision)
  | some .string => return .scalar .string
  | some .any => return .scalar .any
  | some .error => return .scalar .error
  | some (.complex bits) =>
    degrade name ("complex" ++ toString bits ++ " values have no script representation")
  | some .unsafePointer => degrade name "unsafe.Pointer has no script representation"
  | some (.slice element) => return .slice (← shape element)
  | some (.array length element) => return .array length (← shape element)
  | some (.map key value) =>
    let canon := (← get).canon
    if canon.kind? (canon.structural key) = some .string then return .map (← shape value)
    else degrade name ("map key type " ++ canon.typeString key ++ " is not a string")
  | some (.pointer element) => return .pointer (← shape element)
  | some (.func f) =>
    match ← funcShape shape f with
    | .ok func => return .func func
    | .error reason => degrade name reason
  | some (.chan direction element) =>
    let element ← shape element
    registerBridge element direction
    return .chan direction element
  | some (.interface methods) =>
    match ← methodShapes shape methods with
    | .ok methods => return .interface methods
    | .error reason => degrade name reason
  | some (.struct _ fields) =>
    match ← fieldShapes shape fields with
    | .ok fields => return .record fields
    | .error reason => degrade name reason
  | some (.typeParam param) =>
    degrade name ("type parameter " ++ param ++ " is not instantiated")
  | some (.named _ _) => degrade name "named type has no resolved definition"
  | none => degrade name "named type has no resolved definition"

def reserveShape (canon : CanonId) (name : String) : GenM ShapeId := do
  let g ← get
  let id := g.rows.size
  set { g with rows := g.rows.push ⟨name, none⟩, shapeOf := (canon, id) :: g.shapeOf }
  return id

def setKind (id : ShapeId) (name : String) (kind : ShapeKind) (g : Generator) : Generator :=
  { g with rows := g.rows.setIfInBounds id ⟨name, some kind⟩ }

/-- The number bounds the depth of the recursion. -/
def shapeIn : Nat → CanonId → GenM ShapeId
  | 0, _ => return 0
  | fuel + 1, canon => do
    let g ← get
    match g.shapeOf.lookup canon with
    | some id => return id
    | none =>
      let name := g.canon.typeString canon
      let id ← reserveShape canon name
      let kind ← kindFor (shapeIn fuel) name (g.canon.kind? (g.canon.structural canon))
      modify (setKind id name kind)
      return id

/-- Shapes inside each other belong to different canonical types. -/
def shapeFor (canon : CanonId) : GenM ShapeId := do
  shapeIn ((← get).canon.size + 1) canon

/-! ### Converters -/

/-- Arguments cross a function against its own direction. -/
def funcDeps (f : FuncShape) (direction : Direction) : List (ShapeId × Direction) :=
  f.params.map (·, direction.reverse) ++ f.results.map (·, direction)

/-- The shapes that a converter needs, each with the direction in which it is crossed. -/
def dependencies (kind : ShapeKind) (direction : Direction) : List (ShapeId × Direction) :=
  match kind with
  | .slice element => [(element, direction)]
  | .array _ element => [(element, direction)]
  | .pointer element => [(element, direction)]
  | .map value => [(value, direction)]
  | .record fields => fields.map fun f => (f.shape, direction)
  | .func f => funcDeps f direction
  | .interface methods => methods.flatMap fun m => funcDeps m.func direction
  | .chan chanDir element =>
    (if chanDir.forwardsToScript then [(element, .toScript)] else []) ++
      (if chanDir.forwardsToNative then [(element, .fromScript)] else [])
  | .scalar _ => []
  | .boxed _ => []

def kindOf? (g : Generator) (id : ShapeId) : Option ShapeKind :=
  match g.rows[id]? with
  | some row => row.kind
  | none => none

def isInlineShape (g : Generator) (id : ShapeId) : Bool :=
  match g.kindOf? id with
  | some kind => kind.isInline
  | none => false

def findEntry (g : Generator) (shape : ShapeId) (direction : Direction) : Option ConverterId :=
  g.entries.findIdx? fun e => e.shape = shape && e.direction = direction

def insertSorted (n : Nat) : List Nat → List Nat
  | [] => [n]
  | m :: rest =>
    if n < m then n :: m :: rest
    else if n = m then m :: rest
    else m :: insertSorted n rest

def reserveEntry (shape : ShapeId) (direction : Direction) : GenM ConverterId := do
  let g ← get
  let name := g.shapeName shape
  let ident := freshIdent g.identsUsed (direction.stem ++ "_" ++ Text.slug name)
  let id := g.entries.size
  set
    { g with
      entries := g.entries.push ⟨id, shape, direction, ident, none, []⟩
      events := g.events.push (.converter ident name direction) }
  return id

def setDeps (id : ConverterId) (deps : List ConverterId) (g : Generator) : Generator :=
  { g with entries := g.entries.modify id fun e => { e with deps := deps } }

/-- The entries of those dependencies that are not converted in place. -/
def entriesFor (entry : ShapeId → Direction → GenM ConverterId) :
    List (ShapeId × Direction) → List ConverterId → GenM (List ConverterId)
  | [], found => return found
  | (shape, direction) :: rest, found => do
    if (← get).isInlineShape shape then entriesFor entry rest found
    else
      let id ← entry shape direction
      entriesFor entry rest (insertSorted id found)

/-- The number bounds the depth of the recursion. -/
def entryIn : Nat → ShapeId → Direction → GenM ConverterId
  | 0, _, _ => return 0
  | fuel + 1, shape, direction => do
    let g ← get
    match g.findEntry shape direction with
    | some id => return id
    | none =>
      let id ← reserveEntry shape direction
      let needed :=
        match g.kindOf? shape with
        | some kind => dependencies kind direction
        | none => []
      let deps ← entriesFor (entryIn fuel) needed []
      modify (setDeps id deps)
      return id

/-- Entries inside each other differ in their shape or their direction. -/
def entryFor (shape : ShapeId) (direction : Direction) : GenM ConverterId := do
  entryIn (2 * (← get).rows.size + 1) shape direction

/-! ### Requests -/

/-- The canonical type of a graph node. -/
def canonical (graph : TypeGraph) (type : TypeId) : GenM (Except CanonError CanonId) := do
  let g ← get
  let (result, canon) := (Session.normalize graph type).run g.canon
  set { g with canon := canon }
  return result

/-- The shape of a type, without a converter. -/
def shape (graph : TypeGraph) (type : TypeId) : GenM (Except CanonError ShapeId) := do
  match ← canonical graph type with
  | .error e => return .error e
  | .ok canon => return .ok (← shapeFor canon)

/-- A converter for a type, with everything it depends on. -/
def add (graph : TypeGraph) (type : TypeId) (direction : Direction) :
    GenM (Except CanonError ConverterId) := do
  match ← shape graph type with
  | .error e => return .error e
  | .ok id => return .ok (← entryFor id direction)

def addExport (e : Export) (g : Generator) : Generator :=
  if g.exports.contains e then g else { g with exports := g.exports.push e }

def entryShape (g : Generator) (id : ConverterId) : ShapeId :=
  match g.entries[id]? with
  | some e => e.shape
  | none => 0

/-- A converter that is exported under a label. -/
def request (graph : TypeGraph) (r : Request) : GenM (Except CanonError ConverterId) := do
  match ← add graph r.type r.direction with
  | .error e => return .error e
  | .ok id =>
    modify fun g => g.addExport ⟨r.label, g.entryShape id, r.direction, id⟩
    return .ok id

def shapeTable (g : Generator) : ShapeTable :=
  ShapeTable.ofList (g.rows.toList.map fun row => (row.name, row.kind.getD (.boxed "unresolved")))

/-- The converter of a shape in a direction; of several the last counts. -/
def identsOf (entries : List ConverterEntry) : Converter.Idents := fun shape direction =>
  match entries.reverse.find? fun e => e.shape = shape && e.direction = direction with
  | some e => some e.ident
  | none => none

/-- The converter that an entry stands for, if its shape exists. -/
def definitionOf (shapes : ShapeTable) (entries : List ConverterEntry) (e : ConverterEntry) :
    Option Converter :=
  (shapes.get? e.shape).map (Converter.ofShape shapes (identsOf entries) e.ident e.direction)

def finish (g : Generator) : Bindings :=
  let shapes := g.shapeTable
  let entries := g.entries.toList
  { shapes := shapes
    converters := entries.map fun e => { e with definition := definitionOf shapes entries e }
    bridges := g.bridges.toList
    aliases := g.canon.sortedAliases
    limitations := g.limitations.toList
    exports := g.exports.toList }

/-- The first request that fails ends the run. -/
def requests (graph : TypeGraph) : List Request → GenM (Except (String × CanonError) Unit)
  | [] => return .ok ()
  | r :: rest => do
    match ← request graph r with
    | .error e => return .error (r.label, e)
    | .ok _ => requests graph rest

end Generator

/-- A request with this label failed. -/
structure GenerateError where
  label : String
  cause : CanonError
deriving DecidableEq, Repr

/-- Only a conflict between type parameters names its place itself. -/
def GenerateError.message (e : GenerateError) : String :=
  match e.cause with
  | .conflictingTypeParams _ _ _ => e.cause.message
  | _ => "invalid declaration: " ++ e.label ++ ": " ++ e.cause.message

/-- The bindings of a lowered declaration, and what the run reported. -/
def Lowered.generate (l : Lowered) : Except GenerateError Bindings × List GeneratorEvent :=
  let (result, g) := (Generator.requests l.graph l.requests).run .empty
  match result with
  | .error (label, cause) => (.error ⟨label, cause⟩, g.events.toList)
  | .ok () => (.ok g.finish, g.events.toList)

end ScriptBind
