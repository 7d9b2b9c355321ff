import ScriptBind.Binding.Basic
import ScriptBind.Binding.Order

/-!
# ScriptBind.Binding.Module

The generated module: a head that lists what could not be converted, the names of structs, support
for channels, and the converters, each after those it calls.

* `Bindings.order` - the order of the converters.
* `Bindings.moduleText` - the text of the module.
-/

namespace ScriptBind
namespace Bindings

def order (b : Bindings) : List Nat := dependencyOrder (b.converters.map (·.deps))

def chanDirWord : ChanDir → String
  | .both => "Both"
  | .sendOnly => "SendOnly"
  | .recvOnly => "RecvOnly"

def head (b : Bindings) (moduleName : String) : String :=
  "// Code generated by tether. DO NOT EDIT.\n//\n// Module \x60" ++ moduleName ++ "\x60: " ++
    toString b.shapes.size ++ " shapes, " ++ toString b.converters.length ++ " converters, " ++
    toString b.bridges.length ++ " bridges.\n// Load the shape table from \x60" ++ moduleName ++
    ".json\x60 into the runtime before calling.\n" ++
    String.join (b.limitations.map fun l => "// limitation: " ++ l.text ++ "\n")

def uses : String :=
  "\n#![allow(unused_imports, unused_variables, dead_code)]\n\n" ++
    "use std::sync::Arc;\n\nuse tether_runtime::convert;\n" ++
    "use tether_runtime::\x7b\n    BridgeTable, ChanDir, ConversionError, FloatPrecision, " ++
    "NativeValue, Runtime, ShapeId,\n    Signedness, Value,\n\x7d;\n\n"

def aliasText (b : Bindings) : String :=
  "/// Registers struct alias names with the runtime.\n" ++
    "pub fn register_type_names(rt: &Runtime) \x7b\n" ++
    String.join (b.aliases.map fun (name, listing) =>
      "    rt.type_names().register_alias(" ++ Text.quoted name ++ ", " ++ Text.quoted listing ++
        ");\n") ++
    "\x7d\n"

def bridgeText (s : BridgeSupport) : String :=
  "\npub fn " ++ s.ident ++ "(rt: &Runtime) -> Arc<BridgeTable> \x7b\n" ++
    "    rt.bridge_table(ShapeId(" ++ toString s.element ++ "), ChanDir::" ++
    chanDirWord s.direction ++ ")\n\x7d\n"

/-- A converter without a definition leaves an empty line. -/
def converterText (b : Bindings) (i : Nat) : String :=
  match b.converters[i]? with
  | some ⟨_, _, _, _, some definition, _⟩ => "\n" ++ definition.render
  | _ => "\n"

def moduleText (b : Bindings) (moduleName : String) : String :=
  b.head moduleName ++ uses ++ b.aliasText ++ String.join (b.bridges.map bridgeText) ++
    String.join (b.order.map b.converterText)

end Bindings
end ScriptBind
