import ScriptBind.Text.Hex
import ScriptBind.Toml.Basic

/-!
# ScriptBind.Toml.Scalar

The values of TOML that are written without quotes or brackets: booleans, integers, floating point
numbers and dates. None of them contains a blank, except a date and a time with one space between
them, so each function here decides about a complete word.

* `Toml.scalar?` - the value of a word.
* `Toml.isDate`, `Toml.isTime` - the halves of a date with a time.
-/

namespace ScriptBind
namespace Toml

/-- Digits with single underscores between them; the underscores are dropped. -/
def grouped? (isDigit : Char → Bool) : List Char → Option (List Char)
  | [] => none
  | [c] => if isDigit c then some [c] else none
  | c :: '_' :: rest =>
    if isDigit c then (grouped? isDigit rest).map (c :: ·) else none
  | c :: rest => if isDigit c then (grouped? isDigit rest).map (c :: ·) else none

def natIn (base : Nat) (digits : List Char) : Nat :=
  digits.foldl (fun n c => base * n + (Text.hexValue? c).getD 0) 0

/-- Whether a sign is minus, and what follows it. -/
def splitSign : List Char → Bool × List Char
  | '-' :: rest => (true, rest)
  | '+' :: rest => (false, rest)
  | rest => (false, rest)

/-- The digits of a decimal integer without its sign: no zero stands in front. -/
def wholeDigits? (cs : List Char) : Option (List Char) :=
  match grouped? Char.isDigit cs with
  | some ('0' :: _ :: _) => none
  | other => other

def inRange? (n : Int) : Option Toml :=
  let bound : Nat := 1 <<< 63
  if -bound ≤ n ∧ n < bound then some (.int n) else none

def isHexDigit (c : Char) : Bool := (Text.hexValue? c).isSome

def isOctalDigit (c : Char) : Bool := '0' ≤ c && c ≤ '7'

def isBinaryDigit (c : Char) : Bool := c = '0' || c = '1'

def integer? : List Char → Option Toml
  | '0' :: 'x' :: rest =>
    match grouped? isHexDigit rest with
    | some ds => inRange? (natIn 16 ds)
    | none => none
  | '0' :: 'o' :: rest =>
    match grouped? isOctalDigit rest with
    | some ds => inRange? (natIn 8 ds)
    | none => none
  | '0' :: 'b' :: rest =>
    match grouped? isBinaryDigit rest with
    | some ds => inRange? (natIn 2 ds)
    | none => none
  | cs =>
    let (isNegative, digits) := splitSign cs
    match wholeDigits? digits with
    | some ds => inRange? (if isNegative then -(natIn 10 ds : Int) else natIn 10 ds)
    | none => none

/-- The part before the first character of a kind, and the part after it if there is one. -/
def splitOnFirst (p : Char → Bool) : List Char → List Char × Option (List Char)
  | [] => ([], none)
  | c :: rest =>
    if p c then ([], some rest) else (c :: (splitOnFirst p rest).1, (splitOnFirst p rest).2)

/-- The value of an exponent, or zero when there is none. -/
def exponent? : Option (List Char) → Option Int
  | none => some 0
  | some cs =>
    let (isNegative, digits) := splitSign cs
    match grouped? Char.isDigit digits with
    | some ds => some (if isNegative then -(natIn 10 ds : Int) else natIn 10 ds)
    | none => none

/-- Whether the number `digits * 10 ^ e` is too large for the 64 bit format. -/
def overflows (digits : Nat) (e : Int) : Bool :=
  if digits = 0 then false
  else
    let size := (Nat.toDigits 10 digits).length + e
    if size > 400 then true
    else if size < 0 then false
    else
      digits * Nat.pow 10 e.toNat ≥ ((1 <<< 1024) - (1 <<< 970)) * Nat.pow 10 (-e).toNat

/-- A number with a point or an exponent, or one of the special words. A positive number must not
be too large. -/
def isFloat (cs : List Char) : Bool :=
  let (isNegative, word) := splitSign cs
  if word = "inf".toList || word = "nan".toList then true
  else
    let (mantissa, exponent) := splitOnFirst (fun c => c = 'e' || c = 'E') word
    let (whole, fraction) := splitOnFirst (· = '.') mantissa
    match wholeDigits? whole, exponent? exponent with
    | some ds, some e =>
      match fraction with
      | none => exponent.isSome && (isNegative || !overflows (natIn 10 ds) e)
      | some fs =>
        match grouped? Char.isDigit fs with
        | none => false
        | some fs => isNegative || !overflows (natIn 10 (ds ++ fs)) (e - fs.length)
    | _, _ => false

def twoDigits? : List Char → Option Nat
  | [a, b] => if a.isDigit && b.isDigit then some (natIn 10 [a, b]) else none
  | _ => none

def isLeapYear (year : Nat) : Bool := year % 4 = 0 && (year % 100 ≠ 0 || year % 400 = 0)

def daysIn (year month : Nat) : Nat :=
  if month = 2 then (if isLeapYear year then 29 else 28)
  else if month = 4 || month = 6 || month = 9 || month = 11 then 30
  else 31

/-- A calendar date `yyyy-mm-dd`. -/
def isDate : List Char → Bool
  | [y1, y2, y3, y4, '-', m1, m2, '-', d1, d2] =>
    match twoDigits? [y1, y2], twoDigits? [y3, y4], twoDigits? [m1, m2], twoDigits? [d1, d2] with
    | some century, some year, some month, some day =>
      1 ≤ month && month ≤ 12 && 1 ≤ day && day ≤ daysIn (100 * century + year) month
    | _, _, _, _ => false
  | _ => false

/-- The distance from universal time, if any: a letter `Z`, or a sign, hours and minutes. -/
def isOffset : List Char → Bool
  | [] => true
  | ['Z'] => true
  | ['z'] => true
  | [sign, h1, h2, ':', m1, m2] =>
    (sign = '+' || sign = '-') &&
      match twoDigits? [h1, h2], twoDigits? [m1, m2] with
      | some hour, some minute => hour < 24 && minute < 60
      | _, _ => false
  | _ => false

def dropDigits : List Char → List Char
  | [] => []
  | c :: rest => if c.isDigit then dropDigits rest else c :: rest

/-- What stands after the seconds: a fraction of at least one digit, which may be missing. -/
def afterFraction? : List Char → Option (List Char)
  | '.' :: c :: rest => if c.isDigit then some (dropDigits rest) else none
  | '.' :: [] => none
  | rest => some rest

/-- A time of day `hh:mm:ss`, with a fraction of a second or without, and what follows it. -/
def time? : List Char → Option (List Char)
  | h1 :: h2 :: ':' :: m1 :: m2 :: ':' :: s1 :: s2 :: rest =>
    match twoDigits? [h1, h2], twoDigits? [m1, m2], twoDigits? [s1, s2] with
    | some hour, some minute, some second =>
      if hour < 24 ∧ minute < 60 ∧ second ≤ 60 then afterFraction? rest else none
    | _, _, _ => none
  | _ => none

def isTime (cs : List Char) : Bool := time? cs = some []

/-- A time of day that belongs to a date, so that an offset may follow. -/
def isTimeOfDate (cs : List Char) : Bool :=
  match time? cs with
  | some rest => isOffset rest
  | none => false

def isDateTime (cs : List Char) : Bool :=
  isDate (cs.take 10) &&
    match cs.drop 10 with
    | [] => true
    | 'T' :: rest => isTimeOfDate rest
    | 't' :: rest => isTimeOfDate rest
    | _ => false

def scalar? (word : List Char) : Option Toml :=
  if word = "true".toList then some (.bool true)
  else if word = "false".toList then some (.bool false)
  else
    match integer? word with
    | some value => some value
    | none =>
      if isFloat word then some .float
      else if isDateTime word || isTime word then some .date
      else none

end Toml
end ScriptBind
