/-!
# ScriptBind.Cli.Arguments

The command line. Options for all commands can stand before the command or after it; those after
it count.

* `Invocation` - a command with its options.
* `Arguments.read` - what the arguments ask for.
-/

namespace ScriptBind

structure GenerateOptions where
  input : Option String
  outputDir : Option String
  moduleName : Option String
  noManifest : Bool
deriving DecidableEq, Repr

inductive Command where
  | generate (options : GenerateOptions)
  | inspect (input : Option String) (json : Bool)
deriving DecidableEq, Repr

structure Invocation where
  verbose : Nat
  config : Option String
  command : Command
deriving DecidableEq, Repr

inductive HelpTopic where
  | program
  | generate
  | inspect
  | help
deriving DecidableEq, Repr

inductive Asked where
  | run (invocation : Invocation)
  | version
  | help (topic : HelpTopic)
  | misuse
deriving DecidableEq, Repr

namespace Arguments

/-- The options that are known at one place of the command line. -/
structure Known where
  topic : HelpTopic
  /-- Options with a value, and whether the value may be empty. -/
  valued : List (String × Bool)
  flags : List String

def Known.program : Known := ⟨.program, [("config", false)], []⟩

def Known.generate : Known :=
  ⟨.generate, [("config", false), ("input", false), ("output-dir", false), ("module-name", true)],
    ["no-manifest"]⟩

def Known.inspect : Known := ⟨.inspect, [("config", false), ("input", false)], ["json"]⟩

/-- The options that were given. -/
structure Given where
  values : List (String × String)
  flags : List String
  verbose : Nat

def Given.none : Given := ⟨[], [], 0⟩

/-- Only the program itself has a version. -/
def Known.hasVersion (k : Known) : Bool := k.topic = .program

/-- A value is given once. -/
def addValue (k : Known) (g : Given) (name value : String) : Except Asked Given :=
  match k.valued.lookup name, g.values.lookup name with
  | some mayBeEmpty, Option.none =>
    if value.isEmpty && !mayBeEmpty then .error .misuse
    else .ok { g with values := (name, value) :: g.values }
  | _, _ => .error .misuse

/-- An option without a value. A flag is given once. -/
def addFlag (k : Known) (g : Given) (name : String) : Except Asked Given :=
  if name = "help" then .error (.help k.topic)
  else if name = "version" && k.hasVersion then .error .version
  else if name = "verbose" then .ok { g with verbose := g.verbose + 1 }
  else if k.flags.contains name && !g.flags.contains name then
    .ok { g with flags := name :: g.flags }
  else .error .misuse

/-- Letters after one dash. -/
def addLetters (k : Known) (g : Given) : List Char → Except Asked Given
  | [] => .ok g
  | 'v' :: rest => addLetters k { g with verbose := g.verbose + 1 } rest
  | 'h' :: _ => .error (.help k.topic)
  | 'V' :: _ => .error (if k.hasVersion then .version else .misuse)
  | _ :: _ => .error .misuse

/-- What an argument is by its first characters. -/
inductive Kind where
  | word
  | letters (letters : List Char)
  | long (name : String) (value : Option String)
  | separator

def longOf (text : List Char) : Kind :=
  let name := String.ofList (text.takeWhile (· ≠ '='))
  match text.dropWhile (· ≠ '=') with
  | [] => .long name none
  | _ :: value => .long name (some (String.ofList value))

def kindOf (arg : String) : Kind :=
  match arg.toList with
  | ['-', '-'] => .separator
  | '-' :: '-' :: text => longOf text
  | '-' :: c :: text => .letters (c :: text)
  | _ => .word

def isWord (arg : String) : Bool :=
  match kindOf arg with
  | .word => true
  | _ => false

/-- Read options up to the first word. The word is given back with what follows it. -/
def readOptions (k : Known) (g : Given) : List String → Except Asked (Given × List String)
  | [] => .ok (g, [])
  | arg :: rest =>
    match kindOf arg with
    | .word => .ok (g, arg :: rest)
    | .separator => if rest.isEmpty then .ok (g, []) else .error .misuse
    | .letters letters => do readOptions k (← addLetters k g letters) rest
    | .long name (some value) => do readOptions k (← addValue k g name value) rest
    | .long name none =>
      if (k.valued.lookup name).isSome then
        match rest with
        | value :: rest =>
          if isWord value then do readOptions k (← addValue k g name value) rest
          else .error .misuse
        | [] => .error .misuse
      else do readOptions k (← addFlag k g name) rest

/-- Read the options of a command, after which no word may stand. -/
def readCommand (k : Known) (args : List String) : Except Asked Given := do
  let (g, rest) ← readOptions k .none args
  if rest.isEmpty then return g else .error .misuse

def invocation (before after : Given) (command : Command) : Invocation :=
  { verbose := if after.verbose = 0 then before.verbose else after.verbose
    config := (after.values.lookup "config").or (before.values.lookup "config")
    command := command }

def generateCommand (g : Given) : Command :=
  .generate ⟨g.values.lookup "input", g.values.lookup "output-dir", g.values.lookup "module-name",
    g.flags.contains "no-manifest"⟩

def inspectCommand (g : Given) : Command :=
  .inspect (g.values.lookup "input") (g.flags.contains "json")

def readHelp : List String → Asked
  | [] => .help .program
  | ["generate"] => .help .generate
  | ["inspect"] => .help .inspect
  | ["help"] => .help .help
  | _ => .misuse

def readWords (before : Given) : List String → Except Asked Invocation
  | "generate" :: args => do
    let g ← readCommand .generate args
    return invocation before g (generateCommand g)
  | "inspect" :: args => do
    let g ← readCommand .inspect args
    return invocation before g (inspectCommand g)
  | "help" :: args => .error (readHelp args)
  | _ => .error .misuse

def read (args : List String) : Asked :=
  match readOptions .program .none args with
  | .error asked => asked
  | .ok (before, words) =>
    match readWords before words with
    | .error asked => asked
    | .ok invocation => .run invocation

end Arguments

end ScriptBind
