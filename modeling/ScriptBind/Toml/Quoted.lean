import ScriptBind.Text.Hex

/-!
# ScriptBind.Toml.Quoted

The four kinds of strings of TOML: with escapes between double quotes, literal between single
quotes, and each of them over several lines between three quotes. A line break inside a string is
one line feed, however the text writes it.

* `Toml.basic?`, `Toml.literal?` - strings on one line, after their opening quote.
* `Toml.basicLines?`, `Toml.literalLines?` - strings over several lines, after their three quotes.
-/

namespace ScriptBind
namespace Toml

/-- Whether a character may stand in a string or a comment: no control character but the tab. -/
def isPrintable (c : Char) : Bool := c = '\t' || (32 ≤ c.toNat && c.toNat ≠ 127)

def isWs (c : Char) : Bool := c = ' ' || c = '\t'

def skipWs : List Char → List Char
  | [] => []
  | c :: rest => if isWs c then skipWs rest else c :: rest

/-- What follows a line break. -/
def newline? : List Char → Option (List Char)
  | '\n' :: rest => some rest
  | '\r' :: '\n' :: rest => some rest
  | _ => none

/-- The character whose number stands in the first `count` hexadecimal digits. -/
def charByNumber? : Nat → Nat → List Char → Option (Char × List Char)
  | 0, n, rest => if Nat.isValidChar n then some (Char.ofNat n, rest) else none
  | count + 1, n, c :: rest =>
    match Text.hexValue? c with
    | some d => charByNumber? count (16 * n + d) rest
    | none => none
  | _ + 1, _, [] => none

/-- The character of an escape, after the backslash. -/
def escapeIn? : List Char → Option (Char × List Char)
  | 'b' :: rest => some ('\x08', rest)
  | 't' :: rest => some ('\t', rest)
  | 'n' :: rest => some ('\n', rest)
  | 'f' :: rest => some ('\x0c', rest)
  | 'r' :: rest => some ('\r', rest)
  | '"' :: rest => some ('"', rest)
  | '\\' :: rest => some ('\\', rest)
  | 'u' :: rest => charByNumber? 4 0 rest
  | 'U' :: rest => charByNumber? 8 0 rest
  | _ => none

/-- Put a character in front of a string that was read. -/
def addChar (c : Char) : Option (List Char × List Char) → Option (List Char × List Char)
  | none => none
  | some (text, rest) => some (c :: text, rest)

/-- The number is at least the count of characters. -/
def basic? : Nat → List Char → Option (List Char × List Char)
  | 0, _ => none
  | _ + 1, [] => none
  | _ + 1, '"' :: rest => some ([], rest)
  | fuel + 1, '\\' :: rest =>
    match escapeIn? rest with
    | none => none
    | some (c, rest) => addChar c (basic? fuel rest)
  | fuel + 1, c :: rest => if isPrintable c then addChar c (basic? fuel rest) else none

def literal? : List Char → Option (List Char × List Char)
  | [] => none
  | '\'' :: rest => some ([], rest)
  | c :: rest => if isPrintable c then addChar c (literal? rest) else none

/-- The count of quotes at the start. -/
def quoteRun (quote : Char) : List Char → Nat
  | [] => 0
  | c :: rest => if c = quote then quoteRun quote rest + 1 else 0

/-- Three quotes close a string over several lines. Up to two more in front of them belong to the
string. -/
def closing? (quote : Char) (cs : List Char) : Option (List Char × List Char) :=
  let n := min (quoteRun quote cs) 5
  if 3 ≤ n then some (List.replicate (n - 3) quote, cs.drop n) else none

def skipLines : List Char → List Char
  | [] => []
  | '\r' :: '\n' :: rest => skipLines rest
  | c :: rest => if isWs c || c = '\n' then skipLines rest else c :: rest

/-- A backslash at the end of a line: what follows the blanks and line breaks after it. -/
def continuation? (cs : List Char) : Option (List Char) :=
  match newline? (skipWs cs) with
  | none => none
  | some rest => some (skipLines rest)

def dropFirstNewline (cs : List Char) : List Char :=
  match newline? cs with
  | some rest => rest
  | none => cs

def basicBody? : Nat → List Char → Option (List Char × List Char)
  | 0, _ => none
  | _ + 1, [] => none
  | fuel + 1, c :: rest =>
    if c = '"' then
      match closing? '"' (c :: rest) with
      | some done => some done
      | none => addChar c (basicBody? fuel rest)
    else if c = '\\' then
      match continuation? rest with
      | some rest => basicBody? fuel rest
      | none =>
        match escapeIn? rest with
        | none => none
        | some (e, rest) => addChar e (basicBody? fuel rest)
    else
      match newline? (c :: rest) with
      | some rest => addChar '\n' (basicBody? fuel rest)
      | none => if isPrintable c then addChar c (basicBody? fuel rest) else none

def basicLines? (cs : List Char) : Option (List Char × List Char) :=
  basicBody? (cs.length + 1) (dropFirstNewline cs)

def literalBody? : Nat → List Char → Option (List Char × List Char)
  | 0, _ => none
  | _ + 1, [] => none
  | fuel + 1, c :: rest =>
    if c = '\'' then
      match closing? '\'' (c :: rest) with
      | some done => some done
      | none => addChar c (literalBody? fuel rest)
    else
      match newline? (c :: rest) with
      | some rest => addChar '\n' (literalBody? fuel rest)
      | none => if isPrintable c then addChar c (literalBody? fuel rest) else none

def literalLines? (cs : List Char) : Option (List Char × List Char) :=
  literalBody? (cs.length + 1) (dropFirstNewline cs)

/-- A string of any kind, at its opening quote. -/
def string? : List Char → Option (String × List Char)
  | '"' :: '"' :: '"' :: rest => finish (basicLines? rest)
  | '"' :: rest => finish (basic? (rest.length + 1) rest)
  | '\'' :: '\'' :: '\'' :: rest => finish (literalLines? rest)
  | '\'' :: rest => finish (literal? rest)
  | _ => none
where
  finish : Option (List Char × List Char) → Option (String × List Char)
    | none => none
    | some (text, rest) => some (String.ofList text, rest)

end Toml
end ScriptBind
