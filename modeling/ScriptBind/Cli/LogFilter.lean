import ScriptBind.Pattern.Reader
import ScriptBind.Pattern.Search
import ScriptBind.Text.Split

/-!
# ScriptBind.Cli.LogFilter

Which log messages are shown. A filter is a list of directives: a level for everything, or a level
for all targets that begin with a name.

* `LogLine` - a message with its level and its target.
* `LogFilter.parse` - add what a text says, such as `warn` or `info,parser=debug`.
* `LogFilter.shows` - whether a message is shown.
-/

namespace ScriptBind

inductive LogLevel where
  | error
  | warn
  | info
  | debug
  | trace
deriving DecidableEq, Repr

namespace LogLevel

def name : LogLevel → String
  | .error => "ERROR"
  | .warn => "WARN"
  | .info => "INFO"
  | .debug => "DEBUG"
  | .trace => "TRACE"

/-- How much is shown when everything up to this level is. -/
def rank : LogLevel → Nat
  | .error => 1
  | .warn => 2
  | .info => 3
  | .debug => 4
  | .trace => 5

/-- The rank that a word allows, in letters of either case. Nothing is shown at `off`. -/
def allowed? (word : List Char) : Option Nat :=
  match String.ofList (word.map Char.toUpper) with
  | "OFF" => some 0
  | "ERROR" => some 1
  | "WARN" => some 2
  | "INFO" => some 3
  | "DEBUG" => some 4
  | "TRACE" => some 5
  | _ => none

end LogLevel

structure LogLine where
  level : LogLevel
  target : String
  message : String
deriving DecidableEq, Repr

def LogLine.text (l : LogLine) : String :=
  "[" ++ String.ofList (l.level.name.toList.rightpad 5 ' ') ++ " " ++ l.target ++ "] " ++ l.message

/-- A directive without a name is for all targets. -/
structure LogDirective where
  name : Option (List Char)
  allowed : Nat
deriving DecidableEq, Repr

structure LogFilter where
  /-- Each name stands once. -/
  directives : List LogDirective
  /-- What has to occur in a message. -/
  pattern : Option Pattern
deriving DecidableEq, Repr

namespace LogFilter

def empty : LogFilter := ⟨[], none⟩

/-- A later directive takes the place of an earlier one of the same name. -/
def insert (d : LogDirective) : List LogDirective → List LogDirective
  | [] => [d]
  | e :: rest => if e.name = d.name then d :: rest else e :: insert d rest

/-- A lone word is a level if it is one, and otherwise a name of which everything is shown. A part
that makes no sense is skipped. -/
def directive? (part : List Char) : Option LogDirective :=
  match Text.splitOn '=' part with
  | [word] =>
    match LogLevel.allowed? word with
    | some n => some ⟨none, n⟩
    | none => some ⟨some word, LogLevel.trace.rank⟩
  | [name, level] =>
    match Text.trim level with
    | [] => some ⟨some name, LogLevel.trace.rank⟩
    | level => (LogLevel.allowed? level).map fun n => ⟨some name, n⟩
  | _ => none

def directivesOf (text : List Char) : List LogDirective :=
  ((Text.splitOn ',' text).map Text.trim).filterMap fun part =>
    if part.isEmpty then none else directive? part

/-- After a slash stands the pattern that has to occur in messages; one that makes no sense is
skipped. -/
def parse (f : LogFilter) (text : String) : LogFilter :=
  match Text.splitOn '/' text.toList with
  | [directives] => ⟨(directivesOf directives).foldl (fun ds d => insert d ds) f.directives, none⟩
  | [directives, pattern] =>
    ⟨(directivesOf directives).foldl (fun ds d => insert d ds) f.directives,
      Pattern.read? (String.ofList pattern)⟩
  | _ => { f with pattern := none }

def nameLength (d : LogDirective) : Nat :=
  match d.name with
  | some name => (String.ofList name).utf8ByteSize
  | none => 0

def concerns (d : LogDirective) (target : String) : Bool :=
  match d.name with
  | some name => name.isPrefixOf target.toList
  | none => true

/-- The directive with the longest name that the target begins with. -/
def best? (target : String) : List LogDirective → Option LogDirective
  | [] => none
  | d :: rest =>
    match best? target rest with
    | none => if concerns d target then some d else none
    | some e =>
      if concerns d target && nameLength e < nameLength d then some d else some e

/-- Without any directive, errors are shown. -/
def allowedFor (f : LogFilter) (target : String) : Nat :=
  if f.directives.isEmpty then LogLevel.error.rank
  else
    match best? target f.directives with
    | some d => d.allowed
    | none => 0

def shows (f : LogFilter) (l : LogLine) : Bool :=
  l.level.rank ≤ f.allowedFor l.target &&
    (f.pattern.map fun p => p.occursIn l.message).getD true

end LogFilter

end ScriptBind
