import ScriptBind.Crossing.Interpreter

/-!
# ScriptBind.Library.Call

Calls across the boundary. What functions do is up to the host: the interpreter of the scripts and
the native library.

* `Host` - what functions and objects do.
* `Library.invoke` - a call from a script: arguments and results are converted around it.
* `Library.callWrapped` - a call of a script function from native code.
* `Library.callFunc`, `Library.callObject` - calls of native functions and methods.
* `Library.callBuiltin`, `Library.callMethod` - the same as a script makes them.
-/

namespace ScriptBind

/-- A call can change the state of the host beside what conversions share. -/
abbrev CallM (σ α : Type) := ExceptT Stop (StateM (Boundary × σ)) α

namespace CallM

variable {σ α : Type}

def fail (e : ConversionError) : CallM σ α := fun s => (.error (.failed e), s)

def endless : CallM σ α := fun s => (.error .endless, s)

/-- Conversions leave the state of the host alone. -/
def convert (m : CrossM α) : CallM σ α := fun s =>
  let (result, boundary) := m s.1
  (result, (boundary, s.2))

end CallM

/-- How native code calls a native function. -/
abbrev Caller (σ : Type) := NativeFunc → List NativeValue → CallM σ (List NativeValue)

structure Host (σ : Type) where
  /-- Run a function of a script. It fails with a message. -/
  script : ScriptFn → List Value → StateM (Boundary × σ) (Except String Value)
  /-- Run a function of the native library, which may call the functions that it is given. -/
  native : Caller σ → NativeFunc → List NativeValue → CallM σ (List NativeValue)
  /-- Run a method of an object of the native library. -/
  method : Caller σ → Object → String → List NativeValue → CallM σ (List NativeValue)

namespace Host

/-- The error of a call into a script that nobody can run. -/
def noInterpreter (f : ScriptFn) : String := "no interpreter attached to call " ++ f.name

end Host

namespace Library

variable {σ : Type}

/-! ### Arguments and results -/

/-- Convert arguments, starting to count at `position`. -/
def convertArguments {α β : Type} (convert : ShapeId → α → CrossM β) (callee : String)
    (position : Nat) : List α → List ShapeId → CrossM (List β)
  | arg :: args, shape :: shapes => do
    let converted ← (convert shape arg).mapError (.argument callee position)
    return converted :: (← convertArguments convert callee (position + 1) args shapes)
  | _, _ => return []

def convertResults {α β : Type} (convert : ShapeId → α → CrossM β) :
    List α → List ShapeId → CrossM (List β)
  | result :: results, shape :: shapes => do
    let converted ← convert shape result
    return converted :: (← convertResults convert results shapes)
  | _, _ => return []

/-- No results are none, one is itself, and more are a list. -/
def packResults : List Value → Value
  | [] => .none
  | [v] => v
  | vs => .list vs

def isErrorShape (lib : Library) (id : ShapeId) : CrossM Bool :=
  match lib.shapes.get? id with
  | none => CrossM.fail (.unknownShape id)
  | some shape => return shape.kind = .scalar .error

/-- The message of an error among the results of a function. -/
def errorMessage? : NativeValue → Option String
  | .error message => message
  | _ => none

/-- Results of native code for a script. An error in the last place is raised, and otherwise left
out. -/
def resultsToScript (lib : Library) (callee : String) (shapes : List ShapeId)
    (results : List NativeValue) : CrossM Value :=
  if results.length ≠ shapes.length then
    CrossM.fail (.failure (callee ++ " returned " ++ toString results.length ++
      " results, declared " ++ toString shapes.length))
  else
    match shapes.getLast? with
    | none => return packResults (← convertResults lib.toScript results shapes)
    | some last => do
      if ← lib.isErrorShape last then
        match results.getLast?.bind errorMessage? with
        | some message => CrossM.fail (.script (callee ++ ": " ++ message))
        | none =>
          return packResults (← convertResults lib.toScript results.dropLast shapes.dropLast)
      else
        return packResults (← convertResults lib.toScript results shapes)

/-- The result of a script function for native code. Several results come in a list. -/
def resultsFromScript (lib : Library) (callee : String) (shapes : List ShapeId) (result : Value) :
    CrossM (List NativeValue) :=
  match shapes with
  | [] => return []
  | [shape] => return [← lib.fromScript shape result]
  | shapes =>
    match result with
    | .list items =>
      if items.length = shapes.length then convertResults lib.fromScript items shapes
      else CrossM.fail (.arityMismatch callee shapes.length items.length)
    | _ => CrossM.fail (.arityMismatch callee shapes.length 1)

/-! ### Calls -/

/-- Call native code from a script. The number of arguments is checked before any of them is
converted. -/
def invoke (lib : Library) (callee : String) (signature : FuncShape) (args : List Value)
    (call : List NativeValue → CallM σ (List NativeValue)) : CallM σ Value :=
  if args.length ≠ signature.params.length then
    CallM.fail (.arityMismatch callee signature.params.length args.length)
  else do
    let natives ← CallM.convert (convertArguments lib.fromScript callee 0 args signature.params)
    let results ← call natives
    CallM.convert (lib.resultsToScript callee signature.results results)

/-- The results of a script function that failed: the failure is reported, and native code gets
zero values. -/
def zeroResults (lib : Library) (f : ScriptFn) (shapes : List ShapeId) (problem : String) :
    CrossM (List NativeValue) := do
  CrossM.update fun b => ((), b.report (.script (f.name ++ ": " ++ problem)))
  match shapes.mapM lib.zeroValue? with
  | some values => return values
  | none => CrossM.endless

def runScript (host : Host σ) (f : ScriptFn) (args : List Value) : CallM σ (Except String Value) :=
  fun s =>
    let (result, s) := host.script f args s
    (.ok result, s)

def callWrapped (lib : Library) (host : Host σ) (signature : FuncShape) (f : ScriptFn)
    (args : List NativeValue) : CallM σ (List NativeValue) :=
  if args.length ≠ signature.params.length then
    CallM.fail (.arityMismatch f.name signature.params.length args.length)
  else do
    let values ← CallM.convert (convertArguments lib.toScript f.name 0 args signature.params)
    match ← runScript host f values with
    | .ok result => CallM.convert (lib.resultsFromScript f.name signature.results result)
    | .error problem => CallM.convert (lib.zeroResults f signature.results problem)

/-- Call a native function, with a bound on how deep native functions call each other. -/
def callFunc (lib : Library) (host : Host σ) : Nat → Caller σ
  | 0, _, _ => CallM.endless
  | bound + 1, f, args =>
    match f.code with
    | .library => host.native (lib.callFunc host bound) f args
    | .wrapper signature target => lib.callWrapped host signature target args

def callObject (lib : Library) (host : Host σ) (bound : Nat) (object : Object) (method : String)
    (args : List NativeValue) : CallM σ (List NativeValue) :=
  match object with
  | .library _ _ => host.method (lib.callFunc host bound) object method args
  | .synthesized _ interface _ methods =>
    match methods.lookup method with
    | some f => lib.callFunc host bound f args
    | none => CallM.fail (.failure (interface ++ " has no method " ++ method))

def callBuiltin (lib : Library) (host : Host σ) (bound : Nat) (b : Builtin) (args : List Value) :
    CallM σ Value :=
  lib.invoke b.name b.signature args (lib.callFunc host bound b.func)

/-- What a handle lets a script call: an object and the methods of its interface. -/
def callTarget (lib : Library) (target : Value) :
    Except ConversionError (Handle × Object × List MethodShape) :=
  match target with
  | .native h =>
    match h.value with
    | .interface (some object) =>
      match lib.shapes.find? h.typeName with
      | none => .error (.failure (h.typeName ++ " is not a known interface"))
      | some named =>
        match lib.shapes.get? named.id with
        | none => .error (.unknownShape named.id)
        | some ⟨_, _, .interface methods⟩ => .ok (h, object, methods)
        | some _ => .error (.failure (h.typeName ++ " is not a known interface"))
    | _ => .error (.typeMismatch "native interface value" target.describe)
  | _ => .error (.typeMismatch "native interface value" target.describe)

def callMethod (lib : Library) (host : Host σ) (bound : Nat) (target : Value) (method : String)
    (args : List Value) : CallM σ Value :=
  match lib.callTarget target with
  | .error e => CallM.fail e
  | .ok (h, object, methods) =>
    match methods.find? (·.name = method) with
    | none => CallM.fail (.failure (h.typeName ++ " has no method " ++ method))
    | some found =>
      lib.invoke (h.typeName ++ "." ++ method) found.func args
        (lib.callObject host bound object method)

end Library

end ScriptBind
