import ScriptBind.Pattern.Basic
import ScriptBind.Pattern.Mode
import ScriptBind.Text.Hex

/-!
# ScriptBind.Pattern.Escape

What stands after a backslash in a pattern: a character that would mean something else, a character
by its number, a class of characters, or a kind of place. The classes are known in ASCII only, so
they are refused where those of all scripts are asked for.

* `Pattern.Escape` - what an escape stands for.
* `Pattern.readEscape?` - read one.
-/

namespace ScriptBind
namespace Pattern

inductive Escape where
  | char (c : Char)
  | set (set : CharSet)
  | look (place : Look)
deriving DecidableEq, Repr

def charOf? (n : Nat) : Option Char := if n.isValidChar then some (Char.ofNat n) else none

def hexNumber? (ds : List Char) : Option Nat :=
  ds.foldlM (fun n c => (Text.hexValue? c).map (16 * n + ·)) 0

def isHexDigit (c : Char) : Bool := (Text.hexValue? c).isSome

/-- A fixed count of digits, or digits in braces. A number of two digits is that of a byte where
classes are in ASCII, and only those of ASCII characters are characters by themselves. -/
def readNumber? (mode : Mode) (count : Nat) (cs : List Char) : Option (Escape × List Char) :=
  match mode.skip cs with
  | '\x7b' :: rest =>
    match mode.run isHexDigit (mode.skip rest) with
    | (d :: ds, '\x7d' :: rest) =>
      ((hexNumber? (d :: ds)).bind charOf?).map fun c => (.char c, mode.skip rest)
    | _ => none
  | cs =>
    match mode.runUpTo isHexDigit count cs with
    | (ds, rest) =>
      if ds.length < count then none
      else
        match (hexNumber? ds).bind charOf? with
        | none => none
        | some c =>
          if count = 2 ∧ !mode.allScripts ∧ c.toNat ≥ 128 then none else some (.char c, rest)

def edgeNamed? : String → Option WordEdge
  | "start" => some .start
  | "end" => some .finish
  | "start-half" => some .halfStart
  | "end-half" => some .halfFinish
  | _ => none

/-- After the letter for the boundary of a word, a name in braces can stand. Braces that hold no
name belong to a repetition. -/
def readBoundary? (mode : Mode) (cs : List Char) : Option (Escape × List Char) :=
  match cs with
  | '\x7b' :: rest =>
    match mode.run (fun c => c.isAlpha || c = '-') (mode.skip rest) with
    | ([], []) => none
    | ([], _) => some (.look (.word .boundary), cs)
    | (name, '\x7d' :: rest) =>
      (edgeNamed? (String.ofList name)).map fun edge => (.look (.word edge), rest)
    | _ => none
  | _ => some (.look (.word .boundary), cs)

/-- Every ASCII character that is neither a letter nor a digit stands for itself. -/
def readEscape? (mode : Mode) : List Char → Option (Escape × List Char)
  | 'x' :: rest => readNumber? mode 2 rest
  | 'u' :: rest => readNumber? mode 4 rest
  | 'U' :: rest => readNumber? mode 8 rest
  | 'd' :: rest => classUnless mode.allScripts .digit rest
  | 's' :: rest => classUnless mode.allScripts .space rest
  | 'w' :: rest => classUnless mode.allScripts .word rest
  | 'a' :: rest => some (.char '\x07', rest)
  | 'f' :: rest => some (.char '\x0c', rest)
  | 'n' :: rest => some (.char '\n', rest)
  | 'r' :: rest => some (.char '\r', rest)
  | 't' :: rest => some (.char '\t', rest)
  | 'v' :: rest => some (.char '\x0b', rest)
  | 'A' :: rest => some (.look .textStart, rest)
  | 'z' :: rest => some (.look .textEnd, rest)
  | 'b' :: rest => readBoundary? mode rest
  | 'B' :: rest => some (.look (.word .noBoundary), rest)
  | '<' :: rest => some (.look (.word .start), rest)
  | '>' :: rest => some (.look (.word .finish), rest)
  | c :: rest => if c.toNat < 128 ∧ !c.isAlphanum then some (.char c, rest) else none
  | [] => none
where
  classUnless (refused : Bool) (set : CharSet) (rest : List Char) : Option (Escape × List Char) :=
    if refused then none else some (.set set, rest)

end Pattern
end ScriptBind
