import ScriptBind.Text.Hex
import ScriptBind.Text.Printable

/-!
# ScriptBind.Text.Quoted

Text between double quotes as it stands in a program: quotes and backslashes are escaped, the
usual control characters have short escapes, and a character that cannot be shown is written by
its code point.
-/

namespace ScriptBind
namespace Text

def codePointEscape (c : Char) : String := "\\u\x7b" ++ hex c.toNat ++ "\x7d"

def escapeChar (c : Char) : String :=
  if c = '"' then "\\\""
  else if c = '\\' then "\\\\"
  else if c = '\n' then "\\n"
  else if c = '\r' then "\\r"
  else if c = '\t' then "\\t"
  else if c.toNat = 0 then "\\0"
  else if isPlain c then c.toString
  else codePointEscape c

def escape : List Char → String
  | [] => ""
  | c :: rest => escapeChar c ++ escape rest

def quoted (text : String) : String := "\"" ++ escape text.toList ++ "\""

end Text
end ScriptBind
