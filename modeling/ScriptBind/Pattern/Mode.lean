import ScriptBind.Text.Blank

/-!
# ScriptBind.Pattern.Mode

How the text of a pattern is read from some place on. Letters inside the pattern change it.

* `Mode.change?` - the change that a letter makes.
* `Mode.skip` - leave out blanks and comments where the mode has them.
* `Mode.run` - the characters of a kind that come next.
-/

namespace ScriptBind
namespace Pattern

structure Mode where
  /-- Letters match in either case. -/
  anyCase : Bool
  /-- The signs for start and end are for lines, not for the text. -/
  lines : Bool
  /-- A dot matches the end of a line too. -/
  dotAll : Bool
  /-- A carriage return belongs to the end of a line. -/
  pairs : Bool
  /-- Classes and cases are those of all scripts. -/
  allScripts : Bool
  /-- Blanks and comments in the pattern do not count. -/
  spaced : Bool
deriving DecidableEq, Repr

namespace Mode

def start : Mode := ⟨false, false, false, false, true, false⟩

/-- Which match of several is preferred makes no difference to whether there is one, so one of the
letters changes nothing. -/
def change? (mode : Mode) (on : Bool) : Char → Option Mode
  | 'i' => some { mode with anyCase := on }
  | 'm' => some { mode with lines := on }
  | 's' => some { mode with dotAll := on }
  | 'R' => some { mode with pairs := on }
  | 'u' => some { mode with allScripts := on }
  | 'x' => some { mode with spaced := on }
  | 'U' => some mode
  | _ => none

/-- Drop blanks and comments, which reach from a number sign to the end of the line. -/
def dropGap (inComment : Bool) : List Char → List Char
  | [] => []
  | c :: rest =>
    if inComment then dropGap (c ≠ '\n') rest
    else if Text.isBlank c then dropGap false rest
    else if c = '#' then dropGap true rest
    else c :: rest

def skip (mode : Mode) (cs : List Char) : List Char :=
  if mode.spaced then dropGap false cs else cs

/-- The next character, which can be the first of a comment. -/
def peek? (mode : Mode) (cs : List Char) : Option Char :=
  if mode.spaced then
    match cs.dropWhile Text.isBlank with
    | '#' :: rest => (rest.dropWhile Text.isBlank).head?
    | rest => rest.head?
  else cs.head?

def runUpTo (mode : Mode) (isMember : Char → Bool) : Nat → List Char → List Char × List Char
  | 0, cs => ([], cs)
  | _, [] => ([], [])
  | n + 1, c :: rest =>
    if isMember c then
      let (found, rest) := runUpTo mode isMember n (mode.skip rest)
      (c :: found, rest)
    else ([], c :: rest)

/-- The characters of a kind that come next, each with the gap behind it, and what follows. -/
def run (mode : Mode) (isMember : Char → Bool) (cs : List Char) : List Char × List Char :=
  runUpTo mode isMember cs.length cs

end Mode

end Pattern
end ScriptBind
