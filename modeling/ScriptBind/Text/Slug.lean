/-!
# ScriptBind.Text.Slug

A slug is an identifier made from a type's written name: the letters and digits of the name in
lower case, with one underscore wherever other characters stood between them. Brackets, stars and
arrows are spelled out first, so that types which differ in them alone keep different slugs.

* `slug` - the identifier for a name.
* `slugLimit` - its greatest length.
-/

namespace ScriptBind
namespace Text

/-- Scan from left to right and write `new` for `old` at every place that starts with `old`; the
number counts characters of a place already replaced. -/
def replaceFrom (old new : List Char) : Nat → List Char → List Char
  | _, [] => []
  | skip + 1, _ :: rest => replaceFrom old new skip rest
  | 0, c :: rest =>
    if old.isPrefixOf (c :: rest) then new ++ replaceFrom old new (old.length - 1) rest
    else c :: replaceFrom old new 0 rest

def replace (old new : String) (text : List Char) : List Char :=
  replaceFrom old.toList new.toList 0 text

/-- The parts of type notation that are not letters, in words. -/
def spellOut (text : List Char) : List Char :=
  text
    |> replace "<-chan" " recv chan "
    |> replace "chan<-" " chan send "
    |> replace "[]" " slice "
    |> replace "..." " variadic "
    |> replace "*" " ptr "

def isSlugChar (c : Char) : Bool := c.isAlpha || c.isDigit

/-- The runs of letters and digits; `run` holds the current one, last character first. -/
def wordsFrom (run : List Char) : List Char → List (List Char)
  | [] => if run.isEmpty then [] else [run.reverse]
  | c :: rest =>
    if isSlugChar c then wordsFrom (c.toLower :: run) rest
    else if run.isEmpty then wordsFrom [] rest
    else run.reverse :: wordsFrom [] rest

def joinWords : List (List Char) → List Char
  | [] => []
  | [word] => word
  | word :: next :: rest => word ++ '_' :: joinWords (next :: rest)

def slugLimit : Nat := 64

def startsWithDigit : List Char → Bool
  | [] => false
  | c :: _ => c.isDigit

/-- Cut at the limit, and drop an underscore that the cut left at the end. -/
def shorten (text : List Char) : List Char :=
  if text.length > slugLimit then
    ((text.take slugLimit).reverse.dropWhile (· == '_')).reverse
  else text

def slugChars (text : List Char) : List Char :=
  let joined := joinWords (wordsFrom [] (spellOut text))
  let lettered := if startsWithDigit joined then "array_".toList ++ joined else joined
  let short := shorten lettered
  if short.isEmpty then "anon".toList else short

def slug (name : String) : String := String.ofList (slugChars name.toList)

end Text
end ScriptBind
