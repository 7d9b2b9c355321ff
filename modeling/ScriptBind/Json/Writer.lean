import ScriptBind.Json.Basic
import ScriptBind.Number.Shortest
import ScriptBind.Text.Hex

/-!
# ScriptBind.Json.Writer

Writing JSON, either without any blank or with one item on a line, indented by two spaces.

* `Json.compact`, `Json.pretty` - the two forms.
-/

namespace ScriptBind
namespace Json

/-- The escapes that a string needs: quotes, backslashes and control characters. -/
def escapedChar (c : Char) : List Char :=
  if c = '"' then ['\\', '"']
  else if c = '\\' then ['\\', '\\']
  else if c.toNat = 8 then ['\\', 'b']
  else if c.toNat = 12 then ['\\', 'f']
  else if c = '\n' then ['\\', 'n']
  else if c = '\r' then ['\\', 'r']
  else if c = '\t' then ['\\', 't']
  else if c.toNat < 32 then ['\\', 'u', '0', '0'] ++ (Text.hexPadded 2 c.toNat).toList
  else [c]

def stringChars (s : String) : List Char := '"' :: s.toList.flatMap escapedChar ++ ['"']

/-- The start of a new line at an indentation level; nothing in the form without blanks. -/
def lineStart : Option Nat → List Char
  | none => []
  | some level => '\n' :: List.replicate (2 * level) ' '

def deeper : Option Nat → Option Nat
  | none => none
  | some level => some (level + 1)

def colon : Option Nat → List Char
  | none => [':']
  | some _ => [':', ' ']

mutual

/-- The level is that of the line on which the value starts. -/
def chars (level : Option Nat) : Json → List Char
  | .null | .broken => "null".toList
  | .bool true => "true".toList
  | .bool false => "false".toList
  | .int n => (toString n).toList
  | .float x => if x.isFinite then x.decimalText.toList else "null".toList
  | .string s => stringChars s
  | .array [] => ['[', ']']
  | .array (item :: rest) =>
    '[' :: lineStart (deeper level) ++ item.chars (deeper level) ++
      itemsChars (deeper level) rest ++ lineStart level ++ [']']
  | .object [] => ['\x7b', '\x7d']
  | .object (⟨key, value⟩ :: rest) =>
    '\x7b' :: lineStart (deeper level) ++ stringChars key ++ colon level ++
      value.chars (deeper level) ++ membersChars (deeper level) rest ++ lineStart level ++ ['\x7d']

/-- The items after the first. -/
def itemsChars (level : Option Nat) : List Json → List Char
  | [] => []
  | item :: rest => ',' :: lineStart level ++ item.chars level ++ itemsChars level rest

/-- The members after the first. -/
def membersChars (level : Option Nat) : List Member → List Char
  | [] => []
  | ⟨key, value⟩ :: rest =>
    ',' :: lineStart level ++ stringChars key ++ colon level ++ value.chars level ++
      membersChars level rest

end

def compact (j : Json) : String := String.ofList (j.chars none)

def pretty (j : Json) : String := String.ofList (j.chars (some 0))

end Json
end ScriptBind
