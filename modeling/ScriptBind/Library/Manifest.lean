import ScriptBind.Binding.Manifest
import ScriptBind.Crossing.Interpreter

/-!
# ScriptBind.Library.Manifest

Loading a library from what the generator made: from its bindings, or from a manifest, of which
the shapes and the names of structs are enough.

* `Library.ofBindings`, `Library.ofManifest?`, `Library.read?`.
-/

namespace ScriptBind
namespace Library

def ofBindings (b : Bindings) : Library := ⟨b.shapes, .ofList b.aliases⟩

/-- The shapes, and the names of structs if there are any. -/
def manifestParts? : Json → Option (Json × Option Json)
  | .object members =>
    match Json.once? "shapes" members, members.filter (·.key = "aliases") with
    | some shapes, [] => some (shapes, none)
    | some shapes, [aliases] => some (shapes, some aliases.value)
    | _, _ => none
  | .array [shapes] => some (shapes, none)
  | .array [shapes, aliases] => some (shapes, some aliases)
  | _ => none

def ofManifest? (j : Json) : Option Library := do
  let (shapes, aliases) ← manifestParts? j
  let table ← Manifest.table? shapes
  match aliases with
  | none => return ⟨table, .empty⟩
  | some aliases => return ⟨table, .ofList (← aliases.textMap?)⟩

def read? (text : String) : Option Library := do ofManifest? (← Json.read? text)

end Library
end ScriptBind
