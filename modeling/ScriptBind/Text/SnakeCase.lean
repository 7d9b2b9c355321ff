import ScriptBind.Text.LetterCase

/-!
# ScriptBind.Text.SnakeCase

The usual spelling of a method name on the script side: words in lower case with underscores
between them. A word starts at an upper case letter that follows a lower case letter or a digit,
and at the last letter of a run of upper case letters when a lower case letter comes next.
-/

namespace ScriptBind
namespace Text

def nextIsLower : List Char → Bool
  | [] => false
  | c :: _ => isLower c

/-- Whether an underscore stands between `before` and `c`. -/
def startsWord (before c : Char) (rest : List Char) : Bool :=
  isUpper c && (isLower before || before.isDigit || (isUpper before && nextIsLower rest))

def snakeAfter (before : Char) : List Char → List Char
  | [] => []
  | c :: rest =>
    (if startsWord before c rest then ['_'] else []) ++ lower c ++ snakeAfter c rest

def snakeChars : List Char → List Char
  | [] => []
  | c :: rest => lower c ++ snakeAfter c rest

def snakeCase (name : String) : String := String.ofList (snakeChars name.toList)

end Text
end ScriptBind
