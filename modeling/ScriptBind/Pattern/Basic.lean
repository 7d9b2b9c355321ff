import ScriptBind.Pattern.CharSet

/-!
# ScriptBind.Pattern.Basic

Patterns of texts: characters from sets, one part after another, choices, repetitions, and places
that are told apart by the characters on their two sides.

* `Pattern` - a pattern.
* `Look.holds` - whether a place is of a kind.
-/

namespace ScriptBind

/-- Places at words, which are made of ASCII letters, digits and underscores. -/
inductive WordEdge where
  | boundary
  | noBoundary
  | start
  | finish
  /-- No word stands before. -/
  | halfStart
  /-- No word stands after. -/
  | halfFinish
deriving DecidableEq, Repr

/-- Kinds of places in a text. Where `pairs` is set, a carriage return ends a line too, and with a
line feed behind it the two end one line. -/
inductive Look where
  | textStart
  | textEnd
  | lineStart (pairs : Bool)
  | lineEnd (pairs : Bool)
  | word (edge : WordEdge)
deriving DecidableEq, Repr

namespace Look

def inWord (c : Option Char) : Bool := (c.map CharSet.word.has).getD false

/-- The place between the two characters; one is missing at an end of the text. -/
def holds (before after : Option Char) : Look → Bool
  | .textStart => before = none
  | .textEnd => after = none
  | .lineStart false => before = none || before = some '\n'
  | .lineStart true =>
    before = none || before = some '\n' || (before = some '\r' && after ≠ some '\n')
  | .lineEnd false => after = none || after = some '\n'
  | .lineEnd true =>
    after = none || after = some '\r' || (after = some '\n' && before ≠ some '\r')
  | .word .boundary => inWord before != inWord after
  | .word .noBoundary => inWord before == inWord after
  | .word .start => !inWord before && inWord after
  | .word .finish => inWord before && !inWord after
  | .word .halfStart => !inWord before
  | .word .halfFinish => !inWord after

end Look

inductive Pattern where
  | empty
  | char (set : CharSet)
  | look (place : Look)
  | append (first second : Pattern)
  | either (first second : Pattern)
  /-- At least `least` times, and at most `most` times if that is given. -/
  | repeated (part : Pattern) (least : Nat) (most : Option Nat)
deriving DecidableEq, Repr

end ScriptBind
