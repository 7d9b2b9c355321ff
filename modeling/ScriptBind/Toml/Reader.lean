import ScriptBind.Toml.Document
import ScriptBind.Toml.Quoted
import ScriptBind.Toml.Scalar

/-!
# ScriptBind.Toml.Reader

Reading a TOML document.

* `Toml.read?` - the table that a text describes.
-/

namespace ScriptBind
namespace Toml

/-- How deep arrays and inline tables nest, and how many parts a dotted key has, at most. -/
def depthLimit : Nat := 79

/-- What follows a comment: the end of its line or of the text. -/
def skipComment? : List Char → Option (List Char)
  | [] => some []
  | c :: rest =>
    if isPrintable c then skipComment? rest
    else
      match newline? (c :: rest) with
      | some _ => some (c :: rest)
      | none => none

/-- The start of the next line, when only a blank or a comment is left on this one. -/
def lineEnd? (cs : List Char) : Option (List Char) :=
  let rest? :=
    match skipWs cs with
    | '#' :: rest => skipComment? rest
    | rest => some rest
  match rest? with
  | none => none
  | some [] => some []
  | some rest => newline? rest

/-- Skip blanks, comments and line breaks inside an array. The number is at least the count of
characters. -/
def skipBlank? : Nat → List Char → Option (List Char)
  | 0, _ => none
  | fuel + 1, cs =>
    match skipWs cs with
    | '#' :: rest =>
      match skipComment? rest with
      | none => none
      | some rest => skipBlank? fuel rest
    | rest =>
      match newline? rest with
      | some rest => skipBlank? fuel rest
      | none => some rest

def isBareKeyChar (c : Char) : Bool := c.isAlphanum || c = '_' || c = '-'

def spanWhile (p : Char → Bool) : List Char → List Char × List Char
  | [] => ([], [])
  | c :: rest => if p c then (c :: (spanWhile p rest).1, (spanWhile p rest).2) else ([], c :: rest)

/-- One part of a dotted key. -/
def simpleKey? : List Char → Option (String × List Char)
  | '"' :: rest =>
    match basic? (rest.length + 1) rest with
    | none => none
    | some (text, rest) => some (String.ofList text, rest)
  | '\'' :: rest =>
    match literal? rest with
    | none => none
    | some (text, rest) => some (String.ofList text, rest)
  | cs =>
    match spanWhile isBareKeyChar cs with
    | ([], _) => none
    | (text, rest) => some (String.ofList text, rest)

/-- A dotted key: the parts before the last, and the last. Blanks may stand around the dots. The
number bounds the count of parts. -/
def key? : Nat → List Char → Option ((List String × String) × List Char)
  | 0, _ => none
  | fuel + 1, cs =>
    match simpleKey? (skipWs cs) with
    | none => none
    | some (first, rest) =>
      match skipWs rest with
      | '.' :: rest =>
        match key? fuel rest with
        | none => none
        | some ((path, last), rest) => some ((first :: path, last), rest)
      | rest => some (([], first), rest)

def isWordChar (c : Char) : Bool :=
  c.isAlphanum || c = '_' || c = '-' || c = '+' || c = '.' || c = ':'

/-- A value without quotes or brackets. One space may stand between a date and a time. -/
def word? (cs : List Char) : Option (Toml × List Char) :=
  let (word, rest) := spanWhile isWordChar cs
  match scalar? word with
  | none => none
  | some value =>
    if isDate word then
      match rest with
      | ' ' :: more =>
        let (time, more) := spanWhile isWordChar more
        if isTimeOfDate time then some (.date, more) else some (value, rest)
      | _ => some (value, rest)
    else some (value, rest)

mutual

/-- A value. `depth` counts the brackets that may still be opened, and `fuel` is at least the
count of characters. -/
def value? (depth : Nat) : Nat → List Char → Option (Toml × List Char)
  | 0, _ => none
  | fuel + 1, cs =>
    match cs with
    | '"' :: _ =>
      match string? cs with
      | none => none
      | some (text, rest) => some (.string text, rest)
    | '\'' :: _ =>
      match string? cs with
      | none => none
      | some (text, rest) => some (.string text, rest)
    | '[' :: rest =>
      match depth with
      | 0 => none
      | depth + 1 =>
        match items? depth fuel rest with
        | none => none
        | some (items, rest) => some (.array items, rest)
    | '\x7b' :: rest =>
      match depth with
      | 0 => none
      | depth + 1 =>
        match skipWs rest with
        | '\x7d' :: rest => some (.table [], rest)
        | rest =>
          match pairs? depth fuel Table.empty rest with
          | none => none
          | some (pairs, rest) => some (pairs.value, rest)
    | _ => word? cs

/-- The items of an array up to its closing bracket. -/
def items? (depth : Nat) : Nat → List Char → Option (List Toml × List Char)
  | 0, _ => none
  | fuel + 1, cs =>
    match skipBlank? (cs.length + 1) cs with
    | none => none
    | some (']' :: rest) => some ([], rest)
    | some cs =>
      match value? depth fuel cs with
      | none => none
      | some (item, rest) =>
        match skipBlank? (rest.length + 1) rest with
        | some (',' :: rest) =>
          match items? depth fuel rest with
          | none => none
          | some (items, rest) => some (item :: items, rest)
        | some (']' :: rest) => some ([item], rest)
        | _ => none

/-- The pairs of an inline table up to its closing brace, added to those before them. -/
def pairs? (depth : Nat) : Nat → Table → List Char → Option (Table × List Char)
  | 0, _, _ => none
  | fuel + 1, pairs, cs =>
    match key? depthLimit cs with
    | some ((path, key), '=' :: rest) =>
      match value? depth fuel (skipWs rest) with
      | none => none
      | some (value, rest) =>
        match pairs.insert? path key value with
        | none => none
        | some pairs =>
          match skipWs rest with
          | ',' :: rest => pairs? depth fuel pairs rest
          | '\x7d' :: rest => some (pairs, rest)
          | _ => none
    | _ => none

end

/-- The document so far: its root table and the path that the last header opened. -/
structure Progress where
  root : Table
  header : List String

/-- A line with a header or a key and its value; the value may reach over more lines. -/
def statement? (p : Progress) (cs : List Char) : Option (Progress × List Char) :=
  match cs with
  | '[' :: '[' :: rest =>
    match key? depthLimit rest with
    | some ((path, key), ']' :: ']' :: rest) =>
      match p.root.openElement? path key with
      | none => none
      | some root => some (⟨root, path ++ [key]⟩, rest)
    | _ => none
  | '[' :: rest =>
    match key? depthLimit rest with
    | some ((path, key), ']' :: rest) =>
      match p.root.openTable? path key with
      | none => none
      | some root => some (⟨root, path ++ [key]⟩, rest)
    | _ => none
  | _ =>
    match key? depthLimit cs with
    | some ((path, key), '=' :: rest) =>
      match value? depthLimit (2 * cs.length + 2) (skipWs rest) with
      | none => none
      | some (value, rest) =>
        match p.root.insertUnder? p.header path key value with
        | none => none
        | some root => some ({ p with root := root }, rest)
    | _ => none

def startsLine : List Char → Bool
  | [] => false
  | '\n' :: _ => false
  | '\r' :: _ => false
  | '#' :: _ => false
  | _ => true

/-- The statements of a document, one on a line. The number is more than the count of lines. -/
def statements? : Nat → Progress → List Char → Option Progress
  | 0, _, _ => none
  | fuel + 1, p, cs =>
    match skipWs cs with
    | [] => some p
    | cs =>
      let next? := if startsLine cs then statement? p cs else some (p, cs)
      match next? with
      | none => none
      | some (p, rest) =>
        match lineEnd? rest with
        | none => none
        | some rest => statements? fuel p rest

/-- A byte order mark may stand in front. -/
def read? (text : String) : Option Toml :=
  let cs := text.toList
  let cs :=
    match cs with
    | c :: rest => if c.toNat = 0xFEFF then rest else cs
    | [] => []
  match statements? (cs.length + 2) ⟨Table.empty, []⟩ cs with
  | none => none
  | some p => some p.root.value

end Toml
end ScriptBind
