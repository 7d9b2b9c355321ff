import ScriptBind.Crossing.Compound
import ScriptBind.Text.SnakeCase

/-!
# ScriptBind.Crossing.Func

How functions and what is made of functions cross. A function that crosses back is the function
that it was.

* `wrap` - a function of a script, for native code.
* `funcToScript`, `funcFromScript` - functions.
* `synthesize` - an object that implements an interface with the functions of a context.
* `interfaceToScript`, `interfaceFromScript` - objects.
-/

namespace ScriptBind

open CrossM (fail freshId)

/-- Each wrapper is a new function of native code. -/
def wrap (signature : FuncShape) (f : ScriptFn) : CrossM NativeFunc := do
  return ⟨← freshId, f.name, .wrapper signature f⟩

def funcToScript (typeName : String) (signature : FuncShape) : ToScript
  | .func none => return .none
  | .func (some f) =>
    match f.origin with
    | some origin => return .function origin
    | none => return .builtin ⟨f.name, f, signature⟩
  | v => fail (nativeMismatch typeName v)

def funcFromScript (typeName : String) (signature : FuncShape) : FromScript
  | .none => return .func none
  | .int n => if n = 0 then return .func none else fail (.invalidNil typeName n)
  | .builtin b => return .func (some b.func)
  | .function f => return .func (some (← wrap signature f))
  | .native h =>
    if h.typeName = typeName then return h.value else fail (scriptMismatch typeName (.native h))
  | v => fail (scriptMismatch typeName v)

/-! ### Interfaces -/

/-- The function of a context that implements a method, or what is wrong with it. A slot may be
called like the method or by its snake case name. -/
def methodFunction (context : Context) (m : MethodShape) : Except String ScriptFn :=
  let snake := Text.snakeCase m.name
  let slot :=
    match context.get? m.name with
    | some v => some v
    | none => context.get? snake
  match slot with
  | some (.function f) =>
    if f.arity = m.func.arity then .ok f
    else .error ("slot function takes " ++ toString f.arity ++ " arguments")
  | some other => .error ("slot holds " ++ other.describe ++ ", not a function")
  | none => .error ("no slot named " ++ m.name ++ " or " ++ snake)

/-- A later method takes the place of an earlier one of the same name. -/
def insertMethod (name : String) (f : NativeFunc) :
    List (String × NativeFunc) → List (String × NativeFunc)
  | [] => [(name, f)]
  | (n, g) :: rest =>
    if name < n then (name, f) :: (n, g) :: rest
    else if name = n then (name, f) :: rest
    else (n, g) :: insertMethod name f rest

def bindMethods (interface : String) (context : Context) (bound : List (String × NativeFunc)) :
    List MethodShape → CrossM (List (String × NativeFunc))
  | [] => return bound
  | m :: rest =>
    match methodFunction context m with
    | .error problem => fail (.synthesis interface m.name m.func.arity problem)
    | .ok f => do
      let f ← wrap m.func f
      bindMethods interface context (insertMethod m.name f bound) rest

def synthesize (interface : String) (methods : List MethodShape) (context : Context) :
    CrossM Object := do
  let bound ← bindMethods interface context [] methods
  return .synthesized (← freshId) interface context bound

def interfaceToScript (typeName : String) : ToScript
  | .interface none => return .none
  | .interface (some object) => objectToScript typeName object
  | .boxed h => return .native h
  | v => fail (nativeMismatch typeName v)

/-- A handle of another interface is refused, whatever it holds. -/
def interfaceFromScript (typeName : String) (methods : List MethodShape) : FromScript
  | .none => return .interface none
  | .native h =>
    if h.typeName = typeName then return h.value else fail (scriptMismatch typeName (.native h))
  | .context c => return .interface (some (← synthesize typeName methods c))
  | v => fail (scriptMismatch typeName v)

end ScriptBind
