/-!
# ScriptBind.Pattern.CharSet

Sets of characters as patterns describe them.

* `CharSet.has` - membership.
* `CharSet.named?` - the sets that have a name; they hold ASCII characters only.
-/

namespace ScriptBind

inductive CharSet where
  | none
  | range (first last : Char)
  | union (a b : CharSet)
  | intersection (a b : CharSet)
  | difference (a b : CharSet)
  /-- What one of the two sets holds and the other does not. -/
  | exclusive (a b : CharSet)
  | complement (a : CharSet)
  /-- The set and the ASCII letters that are in it in their other case. -/
  | anyCase (a : CharSet)
deriving DecidableEq, Repr

namespace CharSet

/-- The other case of an ASCII letter; every other character stays. -/
def otherCase (c : Char) : Char := if c.isUpper then c.toLower else c.toUpper

def has : CharSet → Char → Bool
  | .none, _ => false
  | .range first last, c => first ≤ c && c ≤ last
  | .union a b, c => a.has c || b.has c
  | .intersection a b, c => a.has c && b.has c
  | .difference a b, c => a.has c && !b.has c
  | .exclusive a b, c => a.has c != b.has c
  | .complement a, c => !a.has c
  | .anyCase a, c => a.has c || a.has (otherCase c)

def single (c : Char) : CharSet := .range c c

def any : CharSet := .complement .none

/-- The union of ranges. -/
def ofRanges : List (Char × Char) → CharSet
  | [] => .none
  | (first, last) :: rest => .union (.range first last) (ofRanges rest)

def digit : CharSet := .range '0' '9'

/-- Letters, digits and the underscore. -/
def word : CharSet := ofRanges [('0', '9'), ('A', 'Z'), ('_', '_'), ('a', 'z')]

def space : CharSet := ofRanges [('\t', '\r'), (' ', ' ')]

def named? : String → Option CharSet
  | "alnum" => some (ofRanges [('0', '9'), ('A', 'Z'), ('a', 'z')])
  | "alpha" => some (ofRanges [('A', 'Z'), ('a', 'z')])
  | "ascii" => some (.range '\x00' '\x7f')
  | "blank" => some (ofRanges [('\t', '\t'), (' ', ' ')])
  | "cntrl" => some (ofRanges [('\x00', '\x1f'), ('\x7f', '\x7f')])
  | "digit" => some digit
  | "graph" => some (.range '!' '~')
  | "lower" => some (.range 'a' 'z')
  | "print" => some (.range ' ' '~')
  | "punct" => some (ofRanges [('!', '/'), (':', '@'), ('[', '\x60'), ('\x7b', '~')])
  | "space" => some space
  | "upper" => some (.range 'A' 'Z')
  | "word" => some word
  | "xdigit" => some (ofRanges [('0', '9'), ('A', 'F'), ('a', 'f')])
  | _ => Option.none

end CharSet

end ScriptBind
