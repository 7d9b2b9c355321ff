import ScriptBind.Binding.Basic
import ScriptBind.Crossing.Interpreter

/-!
# ScriptBind.Crossing.Emitted

What generated converters do, read off their bodies. A converter goes through the parts of a value
as the interpreter of shapes does, but each part has its own way: in place, through another
converter, or through the interpreter.

* `Converter.toScript`, `Converter.fromScript` - one converter, given how to call the others.
* `Bindings.callTo`, `Bindings.callFrom` - a converter by its name, with a bound on nested calls.
-/

namespace ScriptBind

open CrossM (fail endless)

def Part.toScript (lib : Library) (call : String → ToScript) : Part → ToScript
  | .scalar s => s.toScript
  | .call ident => call ident
  | .interpret id => lib.toScript id

def Part.fromScript (lib : Library) (call : String → FromScript) : Part → FromScript
  | .scalar s => s.fromScript
  | .call ident => call ident
  | .interpret id => lib.fromScript id

def Body.toScript (typeName : String) (part : Part → ToScript) : Body → ToScript
  | .whole p => part p
  | .slice element => sliceToScript typeName (part element)
  | .array length element => arrayToScript typeName length (part element)
  | .map value => mapToScript typeName (part value)
  | .pointer element => pointerToScript typeName (part element)
  | .record fields => recordToScript typeName (fields.map fun f => (f.1, part f.2))
  | .boxed => boxedToScript typeName

def Body.fromScript (typeName : String) (part : Part → FromScript) : Body → FromScript
  | .whole p => part p
  | .slice element => sliceFromScript typeName (part element)
  | .array length element => arrayFromScript typeName length (part element)
  | .map value => mapFromScript typeName (part value)
  | .pointer element => pointerFromScript typeName (part element)
  | .record fields => recordFromScript typeName (fields.map fun f => (f.1, part f.2))
  | .boxed => boxedFromScript typeName

namespace Converter

/-- Only the converters of structs without a name of their own explain errors themselves. -/
def explained {α : Type} (c : Converter) (lib : Library) (m : CrossM α) : CrossM α :=
  if c.explains then m.mapError lib.names.explain else m

def toScript (c : Converter) (lib : Library) (call : String → ToScript) : ToScript := fun v =>
  c.explained lib (c.body.toScript c.typeName (Part.toScript lib call) v)

def fromScript (c : Converter) (lib : Library) (call : String → FromScript) : FromScript := fun v =>
  c.explained lib (c.body.fromScript c.typeName (Part.fromScript lib call) v)

end Converter

namespace Bindings

/-- The generated function of this name. -/
def function? (b : Bindings) (ident : String) : Option Converter :=
  match b.converters.find? (·.ident = ident) with
  | some entry => entry.definition
  | none => none

def callTo (b : Bindings) (lib : Library) : Nat → String → ToScript
  | 0, _, _ => endless
  | bound + 1, ident, v =>
    match b.function? ident with
    | some c => c.toScript lib (b.callTo lib bound) v
    | none => fail (.failure ("no converter " ++ ident))

def callFrom (b : Bindings) (lib : Library) : Nat → String → FromScript
  | 0, _, _ => endless
  | bound + 1, ident, v =>
    match b.function? ident with
    | some c => c.fromScript lib (b.callFrom lib bound) v
    | none => fail (.failure ("no converter " ++ ident))

end Bindings

end ScriptBind
