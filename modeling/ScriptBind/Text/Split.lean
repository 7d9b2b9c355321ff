import ScriptBind.Text.Blank

/-!
# ScriptBind.Text.Split

Texts that list parts between separators.

* `splitOn` - the parts, one more than there are separators.
* `trim` - without white space at both ends.
-/

namespace ScriptBind
namespace Text

def consFirst (c : Char) : List (List Char) → List (List Char)
  | [] => [[c]]
  | part :: rest => (c :: part) :: rest

def splitOn (separator : Char) : List Char → List (List Char)
  | [] => [[]]
  | c :: rest =>
    if c = separator then [] :: splitOn separator rest
    else consFirst c (splitOn separator rest)

def trim (text : List Char) : List Char :=
  ((text.dropWhile isBlank).reverse.dropWhile isBlank).reverse

end Text
end ScriptBind
