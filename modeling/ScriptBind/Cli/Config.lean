import ScriptBind.Toml.Decode
import ScriptBind.Toml.Reader

/-!
# ScriptBind.Cli.Config

The configuration of a project, a TOML document in which every section may be missing.

* `Config` - what it says; `Config.read?` - read it.
-/

namespace ScriptBind

structure Config where
  /-- The declaration, relative to the directory of the project. -/
  input : Option String
  outputDir : String
  moduleName : String
  emitManifest : Bool
  logLevel : Option String
deriving DecidableEq, Repr

namespace Config

open Toml (boolOf fieldsOf optional required stringOf withDefault)

def fileName : String := "tether.toml"

def default : Config := ⟨none, "generated", "bindings", true, none⟩

/-- The name and the description of a project are checked and not used. -/
def checkProject (t : Toml) : Option Unit :=
  match fieldsOf ["name", "description"] t with
  | some [name, description] => do
    let _ ← required stringOf name
    let _ ← optional stringOf description
    return ()
  | _ => none

def withGenerate (c : Config) (t : Toml) : Option Config :=
  match fieldsOf ["input", "output_dir", "module_name", "emit_manifest"] t with
  | some [input, outputDir, moduleName, emitManifest] => do
    return { c with
      input := ← optional stringOf input
      outputDir := ← withDefault c.outputDir stringOf outputDir
      moduleName := ← withDefault c.moduleName stringOf moduleName
      emitManifest := ← withDefault c.emitManifest boolOf emitManifest }
  | _ => none

def withLogging (c : Config) (t : Toml) : Option Config :=
  match fieldsOf ["level"] t with
  | some [level] => do return { c with logLevel := ← optional stringOf level }
  | _ => none

def ofToml? (t : Toml) : Option Config :=
  match fieldsOf ["project", "generate", "logging"] t with
  | some [project, generate, logging] => do
    let _ ← optional checkProject project
    let c ← withDefault default default.withGenerate generate
    withDefault c c.withLogging logging
  | _ => none

def read? (text : String) : Option Config := do ofToml? (← Toml.read? text)

end Config

end ScriptBind
