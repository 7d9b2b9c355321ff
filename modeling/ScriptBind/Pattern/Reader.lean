import ScriptBind.Pattern.Bracket
import ScriptBind.Text.Letter

/-!
# ScriptBind.Pattern.Reader

Reading patterns. Outside of brackets a backslash, a dot, parentheses, a bar, brackets and the signs
of repetitions and of line ends have meanings, and all other characters stand for themselves. A
group can begin with a name or with letters that change how it is read.

* `Pattern.read?` - the pattern that a text describes.
* `Pattern.Part` - a part of a pattern with its measures.
-/

namespace ScriptBind
namespace Pattern

structure Part where
  pattern : Pattern
  /-- How deep it nests. -/
  depth : Nat
  /-- How many steps it has when repetitions are written out. -/
  steps : Nat
  /-- The names of its groups. -/
  names : List (List Char)
  /-- It asks for words of all scripts, which are not known. -/
  needsWords : Bool
deriving DecidableEq, Repr

namespace Part

def single (pattern : Pattern) (steps : Nat) : Part := ⟨pattern, 0, steps, [], false⟩

/-- A set that reaches beyond ASCII is written out by the bytes of its characters. -/
def ofSet (set : CharSet) : Part :=
  single (.char set) (if set.has (Char.ofNat 0x10FFFF) then 31 else 2)

/-- In either case, an ASCII letter stands for two characters. -/
def ofChar? (mode : Mode) (c : Char) : Option Part :=
  if mode.anyCase then
    if mode.allScripts then none
    else if c.isAlpha then some (ofSet (.anyCase (.single c)))
    else some (single (.char (.single c)) c.utf8Size)
  else some (single (.char (.single c)) c.utf8Size)

/-- Any character, where bytes that are no characters are out of question. -/
def dot? (mode : Mode) : Option Part :=
  if !mode.allScripts then none
  else if mode.dotAll then some (ofSet .any)
  else if mode.pairs then some (ofSet (.complement (.ofRanges [('\n', '\n'), ('\r', '\r')])))
  else some (ofSet (.complement (.single '\n')))

def ofLook (mode : Mode) (place : Look) : Part :=
  match place with
  | .word _ => { single (.look place) 1 with needsWords := mode.allScripts }
  | _ => single (.look place) 1

def ofEscape? (mode : Mode) : Escape → Option Part
  | .char c => ofChar? mode c
  | .set set => some (ofSet set)
  | .look place => some (ofLook mode place)

def deepest (parts : List Part) : Nat := (parts.map (·.depth)).foldl max 0

/-- Several of something nest one level deeper than one. -/
def levelOf (count : Nat) : Nat := if count > 1 then 1 else 0

def all (parts : List Part) (pattern : Pattern) (depth extra : Nat) : Part :=
  ⟨pattern, deepest parts + depth, parts.foldl (fun n p => n + p.steps) extra, parts.flatMap (·.names),
    parts.any (·.needsWords)⟩

/-- Parts in their order; a change of the mode counts as one and matches nothing. -/
def sequence (items : List (Option Part)) : Part :=
  let parts := items.filterMap id
  all parts (parts.foldr (fun p rest => .append p.pattern rest) .empty) (levelOf items.length)
    (if parts.isEmpty then 1 else 0)

def choice : List Part → Part
  | [] => single .empty 1
  | [part] => part
  | part :: rest =>
    all (part :: rest) (rest.foldl (fun p q => .either p q.pattern) part.pattern) 1 2

/-- A part that stands no time is no part of the pattern any more. -/
def repeated (part : Part) (least : Nat) (most : Option Nat) : Part :=
  if most = some 0 then { part with
      pattern := .empty, depth := part.depth + 1, steps := 1, needsWords := false }
  else
    let extra := match most with
      | some most => (most - least) * (part.steps + 1)
      | none => if least = 0 then part.steps + 1 else 1
    { part with
      pattern := .repeated part.pattern least most
      depth := part.depth + 1
      steps := least * part.steps + extra }

end Part

/-- What an opening parenthesis starts. -/
inductive Opening where
  /-- A change of the mode, which is complete. -/
  | change (mode : Mode)
  | group (mode : Mode) (isKept : Bool) (name : Option (List Char))
deriving DecidableEq, Repr

/-- The letters of a change, up to a colon or a parenthesis: what they make of the mode, and whether
there are none. No letter and no minus sign stands twice, and a letter follows the minus sign. -/
def readChange? (mode : Mode) (on afterMinus : Bool) (seen : List Char) :
    List Char → Option (Mode × Bool × List Char)
  | [] => none
  | c :: rest =>
    if c = ':' ∨ c = ')' then if afterMinus then none else some (mode, seen.isEmpty, c :: rest)
    else if c = '-' then if on then readChange? mode false true seen rest else none
    else if seen.contains c then none
    else
      match mode.change? on c with
      | none => none
      | some mode => readChange? mode on false (c :: seen) rest

def startsName (c : Char) : Bool := c = '_' || Text.isLetter c

def continuesName (c : Char) : Bool :=
  c = '_' || c = '.' || c = '[' || c = ']' || Text.isLetterOrNumber c

/-- A name up to its closing sign. -/
def readName? (cs : List Char) : Option (List Char × List Char) :=
  match cs.takeWhile (· ≠ '>'), cs.dropWhile (· ≠ '>') with
  | c :: name, _ :: rest =>
    if startsName c && name.all continuesName then some (c :: name, rest) else none
  | _, _ => none

def readOpening? (mode : Mode) (cs : List Char) : Option (Opening × List Char) :=
  match mode.skip cs with
  | '?' :: 'P' :: '<' :: rest => named rest
  | '?' :: '<' :: rest => named rest
  | '?' :: rest =>
    match readChange? mode true false [] rest with
    | some (mode, _, ':' :: rest) => some (.group mode false none, rest)
    | some (mode, false, _ :: rest) => some (.change mode, rest)
    | _ => none
  | rest => some (.group mode true none, rest)
where
  named (rest : List Char) : Option (Opening × List Char) :=
    match readName? rest with
    | none => none
    | some (name, rest) => some (.group mode true (some name), rest)

def closeGroup (isKept : Bool) (name : Option (List Char)) (part : Part) : Part :=
  { part with
    depth := part.depth + 1
    steps := part.steps + if isKept then 2 else 0
    names := name.toList ++ part.names }

/-- A number of 32 bits, with blanks around it. -/
def readCount? (mode : Mode) (cs : List Char) : Option (Nat × List Char) :=
  match mode.run Char.isDigit (cs.dropWhile Text.isBlank) with
  | ([], _) => none
  | (ds, rest) =>
    let n := ds.foldl (fun n c => 10 * n + (c.toNat - '0'.toNat)) 0
    if n < 1 <<< 32 then some (n, rest.dropWhile Text.isBlank) else none

/-- The bounds of a repetition, after the opening brace. -/
def readBounds? (mode : Mode) (cs : List Char) : Option (Nat × Option Nat × List Char) :=
  match readCount? mode (mode.skip cs) with
  | none => none
  | some (least, '\x7d' :: rest) => some (least, some least, rest)
  | some (least, ',' :: rest) =>
    match mode.skip rest with
    | '\x7d' :: rest => some (least, none, rest)
    | rest =>
      match readCount? mode rest with
      | some (most, '\x7d' :: rest) => if least ≤ most then some (least, some most, rest) else none
      | _ => none
  | _ => none

/-- Which of several matches is preferred makes no difference, so the sign for it is dropped. -/
def dropPreference : List Char → List Char
  | '?' :: rest => rest
  | rest => rest

/-- The repetition of the last part. -/
def repeatLast? (items : List (Option Part)) (least : Nat) (most : Option Nat) :
    Option (List (Option Part)) :=
  match items with
  | some part :: before => some (some (part.repeated least most) :: before)
  | _ => none

def startPlace (mode : Mode) : Look := if mode.lines then .lineStart mode.pairs else .textStart

def endPlace (mode : Mode) : Look := if mode.lines then .lineEnd mode.pairs else .textEnd

/-- A part that is neither a group nor a repetition. -/
def readSingle? (mode : Mode) : List Char → Option (Part × List Char)
  | [] => none
  | '\\' :: rest =>
    match readEscape? mode rest with
    | none => none
    | some (escape, rest) => (Part.ofEscape? mode escape).map fun part => (part, rest)
  | '.' :: rest => (Part.dot? mode).map fun part => (part, rest)
  | '^' :: rest => some (.ofLook mode (startPlace mode), rest)
  | '$' :: rest => some (.ofLook mode (endPlace mode), rest)
  | '[' :: rest =>
    match readBracket? mode (2 * rest.length + 2) rest with
    | none => none
    | some (set, depth, rest) => some ({ Part.ofSet set with depth := depth }, rest)
  | c :: rest => (Part.ofChar? mode c).map fun part => (part, rest)

/-- Alternatives up to a closing parenthesis or the end. The alternatives before and the items
before are given with the last one first. A change of the mode holds to the end of its group. -/
def readParts? : Nat → Mode → List Part → List (Option Part) → List Char →
    Option (Part × List Char)
  | 0, _, _, _, _ => none
  | fuel + 1, mode, before, items, cs =>
    let alternatives := Part.sequence items.reverse :: before
    let repeating (least : Nat) (most : Option Nat) (rest : List Char) :=
      match repeatLast? items least most with
      | none => none
      | some items => readParts? fuel mode before items (dropPreference rest)
    match mode.skip cs with
    | [] => some (.choice alternatives.reverse, [])
    | ')' :: rest => some (.choice alternatives.reverse, ')' :: rest)
    | '|' :: rest => readParts? fuel mode alternatives [] rest
    | '(' :: rest =>
      match readOpening? mode rest with
      | none => none
      | some (.change mode, rest) => readParts? fuel mode before (none :: items) rest
      | some (.group inner isKept name, rest) =>
        match readParts? fuel inner [] [] rest with
        | some (part, ')' :: rest) =>
          readParts? fuel mode before (some (closeGroup isKept name part) :: items) rest
        | _ => none
    | '?' :: rest => repeating 0 (some 1) rest
    | '*' :: rest => repeating 0 none rest
    | '+' :: rest => repeating 1 none rest
    | '\x7b' :: rest =>
      match readBounds? mode rest with
      | none => none
      | some (least, most, rest) => repeating least most (mode.skip rest)
    | rest =>
      match readSingle? mode rest with
      | none => none
      | some (part, rest) => readParts? fuel mode before (some part :: items) rest

/-- Patterns do not nest deeper than this. -/
def maxDepth : Nat := 250

/-- Patterns have no more steps than fit into ten mebibytes at 32 bytes a step. -/
def maxSteps : Nat := (10 <<< 20) / 32

/-- No pattern if the text makes no sense or too much of it. -/
def read? (text : String) : Option Pattern :=
  let cs := text.toList
  match readParts? (cs.length + 1) .start [] [] cs with
  | some (part, []) =>
    if part.depth ≤ maxDepth ∧ part.steps ≤ maxSteps ∧ part.names.Nodup ∧ !part.needsWords then
      some part.pattern
    else none
  | _ => none

end Pattern
end ScriptBind
