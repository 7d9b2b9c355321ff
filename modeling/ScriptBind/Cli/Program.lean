import ScriptBind.Binding.Generator
import ScriptBind.Binding.Listing
import ScriptBind.Binding.Manifest
import ScriptBind.Binding.Module
import ScriptBind.Cli.Config
import ScriptBind.Cli.Files
import ScriptBind.Cli.LogFilter
import ScriptBind.Cli.Path
import ScriptBind.Cli.Usage
import ScriptBind.Declaration.Reader

/-!
# ScriptBind.Cli.Program

The commands, on any file system.

* `Program.execute` - run the program with its arguments.
* `Outcome` - what it printed, and how it ended.
-/

namespace ScriptBind

/-- Where the program runs: its working directory, and the log filter of the environment. -/
structure Surroundings where
  workingDir : String
  logFilter : Option String
deriving DecidableEq, Repr

/-- What was printed so far. -/
structure Printed where
  output : String
  /-- All log lines, whether or not they are shown. -/
  log : List LogLine
  filter : LogFilter
deriving DecidableEq, Repr

inductive Ending where
  | done
  | failed (message : String)
  /-- The arguments make no sense. -/
  | misuse
deriving DecidableEq, Repr

structure Outcome where
  ending : Ending
  output : String
  /-- The lines that are shown. -/
  log : List LogLine
deriving DecidableEq, Repr

def Ending.exitCode : Ending → UInt32
  | .done => 0
  | .failed _ => 1
  | .misuse => 2

namespace Program

abbrev RunM (m : Type → Type) := ExceptT String (StateT Printed m)

variable {m : Type → Type} [Monad m] [FileStore m]

/-- An operation on files. -/
def onFiles {α : Type} (operation : m α) : RunM m α := ExceptT.lift (StateT.lift operation)

def say (text : String) : RunM m Unit :=
  modify fun p => { p with output := p.output ++ text ++ "\n" }

def log (level : LogLevel) (target message : String) : RunM m Unit :=
  modify fun p => { p with log := p.log ++ [⟨level, target, message⟩] }

/-- A failure says what was being done. -/
def orFail {α : Type} (doing : String) : Except FileError α → RunM m α
  | .ok a => return a
  | .error e => throw (doing ++ ": " ++ e.message)

/-! ### Configuration -/

def loadConfig (path : String) : RunM m Config := do
  let text ← orFail ("reading " ++ path) (← onFiles (FileStore.read path))
  match Config.read? text with
  | some c => return c
  | none => throw ("parsing " ++ path)

/-- The first of these directories that has a configuration. -/
def findConfig : List String → RunM m (Option (Config × String))
  | [] => return none
  | dir :: rest => do
    let path := Path.join dir Config.fileName
    if ← onFiles (FileStore.isFile path) then
      return some (← loadConfig path, dir)
    else findConfig rest

/-- The configuration and the directory of the project. One that is asked for has to be there; it
is else searched for upward from the working directory, which is the project when there is none. -/
def projectOf (workingDir : String) (asked : Option String) : RunM m (Option Config × String) := do
  match asked with
  | some path =>
    let path := Path.join workingDir path
    let c ← loadConfig path
    return (some c, (Path.parent? path).getD workingDir)
  | none =>
    match ← findConfig (Path.upward workingDir.length workingDir) with
    | some (c, dir) => return (some c, dir)
    | none => return (none, workingDir)

/-- The flags come before the configuration, and that before the environment. -/
def filterOf (verbose : Nat) (config : Option Config) (environment : Option String) : LogFilter :=
  let level :=
    match verbose with
    | 0 => config.bind (·.logLevel)
    | 1 => some "debug"
    | _ => some "trace"
  let f := LogFilter.empty.parse (environment.getD "warn")
  match level with
  | some level => f.parse level
  | none => f

/-! ### Commands -/

def inputOf (projectDir : String) (config : Option Config) (asked : Option String) :
    RunM m String := do
  match asked.or (config.bind (·.input)) with
  | none => throw "no declaration file: pass --input or set [generate] input in tether.toml"
  | some path =>
    let path := Path.join projectDir path
    if ← onFiles (FileStore.isFile path) then return path
    else throw ("declaration file not found: " ++ path)

def generatorTarget : String := "tether_gen::generator"

def eventLevel : GeneratorEvent → LogLevel
  | .degraded _ _ => .warn
  | _ => .debug

def declarationMessage : DeclarationError → String
  | .malformed => ""
  | .fault f => ": invalid declaration: " ++ f.message

def build (input : String) : RunM m Bindings := do
  let loading := "loading " ++ input
  let text ← orFail loading (← onFiles (FileStore.read input))
  match Declaration.read text with
  | .error e => throw (loading ++ declarationMessage e)
  | .ok declaration =>
    let package := declaration.package.name
    match declaration.lower with
    | .error e => throw ("lowering package '" ++ package ++ "': " ++ e.message)
    | .ok lowered =>
      let (result, events) := lowered.generate
      events.forM fun e => log (eventLevel e) generatorTarget e.message
      match result with
      | .error e => throw ("generating bindings for '" ++ package ++ "': " ++ e.message)
      | .ok b =>
        log .debug "tether::commands::generate"
          ("package " ++ package ++ ": " ++ toString lowered.requests.length ++ " requests, " ++
            toString b.shapes.size ++ " shapes")
        return b

/-- A module name is letters, digits and underscores of ASCII. -/
def isModuleName (name : String) : Bool :=
  !name.isEmpty && name.toList.all fun c => c.isAlphanum || c = '_'

/-- The manifest, if it is wanted, and its path. -/
def writeManifest (dir name : String) (wanted : Bool) (b : Bindings) :
    RunM m (Option String) := do
  if wanted then
    let path := Path.join dir (name ++ ".json")
    orFail ("writing " ++ path) (← onFiles (FileStore.write path b.manifestText))
    return some path
  else return none

def generate (projectDir : String) (config : Option Config) (options : GenerateOptions) :
    RunM m Unit := do
  let settings := config.getD Config.default
  let input ← inputOf projectDir config options.input
  let dir := Path.join projectDir (options.outputDir.getD settings.outputDir)
  let name := options.moduleName.getD settings.moduleName
  if !isModuleName name then
    throw ("invalid module name '" ++ name ++ "': use letters, digits and '_'")
  let b ← build input
  orFail ("creating " ++ dir) (← onFiles (FileStore.makeDirectory dir))
  let modulePath := Path.join dir (name ++ ".rs")
  orFail ("writing " ++ modulePath) (← onFiles (FileStore.write modulePath (b.moduleText name)))
  let manifest ← writeManifest dir name (settings.emitManifest && !options.noManifest) b
  say ("Generated " ++ toString b.converters.length ++ " converters, " ++
    toString b.bridges.length ++ " bridges for " ++ input ++ " -> " ++ modulePath)
  b.limitations.forM fun l => say ("  limitation: " ++ l.text)
  if let some path := manifest then
    log .info "tether" ("manifest with " ++ toString b.shapes.size ++ " shapes written to " ++ path)
  log .debug "tether" ("source written to " ++ modulePath)
  say ("  fingerprint: " ++ b.fingerprint)

def inspect (projectDir : String) (config : Option Config) (asked : Option String) (json : Bool) :
    RunM m Unit := do
  let b ← build (← inputOf projectDir config asked)
  if json then say b.manifestText
  else modify fun p => { p with output := p.output ++ b.listing }

def run (around : Surroundings) (invocation : Invocation) : RunM m Unit := do
  let (config, projectDir) ← projectOf around.workingDir invocation.config
  modify fun p => { p with filter := filterOf invocation.verbose config around.logFilter }
  match invocation.command with
  | .generate options => generate projectDir config options
  | .inspect input json => inspect projectDir config input json

def execute (around : Surroundings) (args : List String) : m Outcome := do
  match Arguments.read args with
  | .misuse => return ⟨.misuse, "", []⟩
  | .version => return ⟨.done, versionText, []⟩
  | .help topic => return ⟨.done, topic.text, []⟩
  | .run invocation =>
    let (result, p) ← (run around invocation).run.run ⟨"", [], .empty⟩
    let ending :=
      match result with
      | .ok () => .done
      | .error message => .failed message
    return ⟨ending, p.output, p.log.filter p.filter.shows⟩

end Program

end ScriptBind
