import ScriptBind.Text.Blank
import ScriptBind.Text.Letter

/-!
# ScriptBind.TypeExpr.Token

The tokens of type notation. A name may be qualified: a dot belongs to it when a letter or an
underscore follows.

* `Token.scan` - the tokens of a text, or the first character that starts none.
-/

namespace ScriptBind

inductive Token where
  | ident (name : String)
  | int (value : Nat)
  | leftBracket
  | rightBracket
  | leftParen
  | rightParen
  | leftBrace
  | rightBrace
  | star
  | comma
  | semicolon
  | ellipsis
  | arrow
deriving DecidableEq, Repr

inductive ScanError where
  | strayDot (offset : Nat)
  | strayAngle (offset : Nat)
  | lengthOutOfRange (digits : String)
  | unexpectedChar (c : Char)
deriving DecidableEq, Repr

def ScanError.message : ScanError → String
  | .strayDot offset => "unexpected '.' at offset " ++ toString offset
  | .strayAngle offset => "unexpected '<' at offset " ++ toString offset
  | .lengthOutOfRange digits => "array length '" ++ digits ++ "' out of range"
  | .unexpectedChar c => "unexpected character '" ++ c.toString ++ "'"

namespace Token

open Text

def text : Token → String
  | ident name => name
  | int value => toString value
  | leftBracket => "["
  | rightBracket => "]"
  | leftParen => "("
  | rightParen => ")"
  | leftBrace => "\x7b"
  | rightBrace => "\x7d"
  | star => "*"
  | comma => ","
  | semicolon => ";"
  | ellipsis => "..."
  | arrow => "<-"

/-- The token between quotes, for messages. -/
def inQuotes (t : Token) : String := "'" ++ t.text ++ "'"

def ofPunctuation? : Char → Option Token
  | '[' => some leftBracket
  | ']' => some rightBracket
  | '(' => some leftParen
  | ')' => some rightParen
  | '\x7b' => some leftBrace
  | '\x7d' => some rightBrace
  | '*' => some star
  | ',' => some comma
  | ';' => some semicolon
  | _ => none

def startsIdent (c : Char) : Bool := isLetter c || c = '_'

/-- Whether `c`, with `rest` after it, continues a name. -/
def continuesIdent (c : Char) (rest : List Char) : Bool :=
  isLetterOrNumber c || c = '_' ||
    (c = '.' && match rest with
      | next :: _ => startsIdent next
      | [] => false)

/-- Split off the characters that continue a name. -/
def spanIdent : List Char → List Char × List Char
  | [] => ([], [])
  | c :: rest =>
    if continuesIdent c rest then (c :: (spanIdent rest).1, (spanIdent rest).2)
    else ([], c :: rest)

def spanDigits : List Char → List Char × List Char
  | [] => ([], [])
  | c :: rest =>
    if c.isDigit then (c :: (spanDigits rest).1, (spanDigits rest).2) else ([], c :: rest)

theorem length_spanIdent (cs : List Char) : (spanIdent cs).2.length ≤ cs.length := by
  induction cs with
  | nil => simp [spanIdent]
  | cons c rest ih =>
    unfold spanIdent
    split
    · exact Nat.le_succ_of_le ih
    · simp

theorem length_spanDigits (cs : List Char) : (spanDigits cs).2.length ≤ cs.length := by
  induction cs with
  | nil => simp [spanDigits]
  | cons c rest ih =>
    unfold spanDigits
    split
    · exact Nat.le_succ_of_le ih
    · simp

def digitsValue (digits : List Char) : Nat :=
  digits.foldl (fun n c => 10 * n + (c.toNat - '0'.toNat)) 0

/-- One more than the greatest length of an array. -/
def lengthBound : Nat := 1 <<< 64

/-- The tokens of what follows the first `offset` characters of a text. -/
def scanFrom (offset : Nat) : List Char → Except ScanError (List Token)
  | [] => .ok []
  | c :: rest =>
    if isBlank c then scanFrom (offset + 1) rest
    else
      match ofPunctuation? c with
      | some token =>
        match scanFrom (offset + 1) rest with
        | .error e => .error e
        | .ok tokens => .ok (token :: tokens)
      | none =>
        if c = '.' then
          match rest with
          | '.' :: '.' :: rest' =>
            match scanFrom (offset + 3) rest' with
            | .error e => .error e
            | .ok tokens => .ok (ellipsis :: tokens)
          | _ => .error (.strayDot offset)
        else if c = '<' then
          match rest with
          | '-' :: rest' =>
            match scanFrom (offset + 2) rest' with
            | .error e => .error e
            | .ok tokens => .ok (arrow :: tokens)
          | _ => .error (.strayAngle offset)
        else if c.isDigit then
          let digits := c :: (spanDigits rest).1
          if digitsValue digits < lengthBound then
            match scanFrom (offset + digits.length) (spanDigits rest).2 with
            | .error e => .error e
            | .ok tokens => .ok (int (digitsValue digits) :: tokens)
          else .error (.lengthOutOfRange (String.ofList digits))
        else if startsIdent c then
          let name := c :: (spanIdent rest).1
          match scanFrom (offset + name.length) (spanIdent rest).2 with
          | .error e => .error e
          | .ok tokens => .ok (ident (String.ofList name) :: tokens)
        else .error (.unexpectedChar c)
termination_by cs => cs.length
decreasing_by
  all_goals simp only [List.length_cons]
  all_goals first
    | omega
    | exact Nat.lt_succ_of_le (length_spanDigits rest)
    | exact Nat.lt_succ_of_le (length_spanIdent rest)

def scan (text : String) : Except ScanError (List Token) := scanFrom 0 text.toList

end Token

end ScriptBind
