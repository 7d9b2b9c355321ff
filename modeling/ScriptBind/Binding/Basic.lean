import ScriptBind.Binding.Converter
import ScriptBind.Shape.Basic

/-!
# ScriptBind.Binding.Basic

What a run of the generator produces: shapes, converters, support for channels, names of structs,
and a note for each type that could not be converted.

* `ConverterEntry` - one converter.
* `Bindings` - everything.
* `Bindings.export?` - the converter known by a label.
-/

namespace ScriptBind

abbrev ConverterId := Nat

structure ConverterEntry where
  id : ConverterId
  shape : ShapeId
  direction : Direction
  /-- The name of the generated function. -/
  ident : String
  /-- Missing in bindings that were read from a manifest. -/
  definition : Option Converter
  /-- The converters that this one calls, ascending. -/
  deps : List ConverterId
deriving DecidableEq, Repr

/-- Support for channels with these elements and this direction. -/
structure BridgeSupport where
  ident : String
  element : ShapeId
  direction : ChanDir
deriving DecidableEq, Repr

/-- A type that scripts only see boxed, and why. -/
structure Limitation where
  typeName : String
  reason : String
deriving DecidableEq, Repr

def Limitation.text (l : Limitation) : String := l.typeName ++ ": " ++ l.reason

structure Export where
  label : String
  shape : ShapeId
  direction : Direction
  converter : ConverterId
deriving DecidableEq, Repr

structure Bindings where
  shapes : ShapeTable
  converters : List ConverterEntry
  bridges : List BridgeSupport
  /-- Names of structs with their fields in writing, in the order of the names. -/
  aliases : List (String × String)
  limitations : List Limitation
  exports : List Export
deriving DecidableEq, Repr

namespace Bindings

def converter? (b : Bindings) (id : ConverterId) : Option ConverterEntry := b.converters[id]?

def export? (b : Bindings) (label : String) (direction : Direction) : Option Export :=
  b.exports.find? fun e => e.label = label && e.direction = direction

end Bindings

end ScriptBind
