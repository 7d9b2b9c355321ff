import ScriptBind.Json.Basic
import ScriptBind.Text.Hex

/-!
# ScriptBind.Json.Reader

Reading JSON. A number that is written as an integer and fits 64 bits, signed or unsigned, is an
integer, and every other number is a floating point number; negative zero is one of these. One
that is too large is read as an infinity, and a string whose escapes are not all characters as a
broken value: whether these are faults is for the decoder to say.

* `Json.read?` - the value of a complete text.
-/

namespace ScriptBind
namespace Json

def isSpace (c : Char) : Bool := c = ' ' || c = '\n' || c = '\t' || c = '\r'

def skipSpace : List Char → List Char
  | [] => []
  | c :: rest => if isSpace c then skipSpace rest else c :: rest

/-- The value of four hexadecimal digits. -/
def hex4? : List Char → Option (Nat × List Char)
  | a :: b :: c :: d :: rest =>
    match Text.hexValue? a, Text.hexValue? b, Text.hexValue? c, Text.hexValue? d with
    | some a, some b, some c, some d => some (((a * 16 + b) * 16 + c) * 16 + d, rest)
    | _, _, _, _ => none
  | _ => none

def isHighSurrogate (n : Nat) : Bool := 0xD800 ≤ n && n < 0xDC00

def isLowSurrogate (n : Nat) : Bool := 0xDC00 ≤ n && n < 0xE000

/-- The character of an escape by number, after the letter `u`. One of the upper half of the code
points is written as a pair of surrogates, and a surrogate alone is no character. -/
def unicodeEscape? (cs : List Char) : Option (Option Char × List Char) :=
  match hex4? cs with
  | none => none
  | some (n, rest) =>
    if isLowSurrogate n then some (none, rest)
    else if isHighSurrogate n then
      match rest with
      | '\\' :: 'u' :: second =>
        match hex4? second with
        | none => none
        | some (low, afterPair) =>
          if isLowSurrogate low then
            some (some (Char.ofNat (0x10000 + (n - 0xD800) * 0x400 + (low - 0xDC00))), afterPair)
          else some (none, rest)
      | _ => some (none, rest)
    else some (some (Char.ofNat n), rest)

/-- A text is missing if one of its characters is. -/
def consChar : Option Char → Option (List Char) → Option (List Char)
  | some c, some text => some (c :: text)
  | _, _ => none

def simpleEscape? : Char → Option Char
  | '"' => some '"'
  | '\\' => some '\\'
  | '/' => some '/'
  | 'b' => some '\x08'
  | 'f' => some '\x0c'
  | 'n' => some '\n'
  | 'r' => some '\r'
  | 't' => some '\t'
  | _ => none

/-- The rest of a string, after its opening quote. The number is at least the count of
characters. -/
def readString? : Nat → List Char → Option (Option (List Char) × List Char)
  | 0, _ => none
  | _, [] => none
  | _ + 1, '"' :: rest => some (some [], rest)
  | fuel + 1, '\\' :: 'u' :: rest =>
    match unicodeEscape? rest with
    | none => none
    | some (c, rest) =>
      match readString? fuel rest with
      | none => none
      | some (text, rest) => some (consChar c text, rest)
  | fuel + 1, '\\' :: letter :: rest =>
    match simpleEscape? letter with
    | none => none
    | some c =>
      match readString? fuel rest with
      | none => none
      | some (text, rest) => some (consChar c text, rest)
  | fuel + 1, c :: rest =>
    if c = '\\' ∨ c.toNat < 32 then none
    else
      match readString? fuel rest with
      | none => none
      | some (text, rest) => some (consChar c text, rest)

def stringOrBroken : Option (List Char) → Json
  | some text => .string (String.ofList text)
  | none => .broken

def objectOrBroken : Option (List Member) → Json
  | some members => .object members
  | none => .broken

/-- Members are missing if one of their keys is. -/
def consMember : Option (List Char) → Json → Option (List Member) → Option (List Member)
  | some key, value, some members => some (⟨String.ofList key, value⟩ :: members)
  | _, _, _ => none

def digits : List Char → List Char × List Char
  | [] => ([], [])
  | c :: rest => if c.isDigit then (c :: (digits rest).1, (digits rest).2) else ([], c :: rest)

def digitValue (c : Char) : Nat := c.toNat - '0'.toNat

def natOf (ds : List Char) : Nat := ds.foldl (fun n c => 10 * n + digitValue c) 0

/-- Take digits into a significand of 64 bits while they fit; the first that does not fit and all
after it are dropped. Gives the significand and the count of digits taken. -/
def takeDigits (significand : Nat) : List Char → Nat × Nat
  | [] => (significand, 0)
  | c :: rest =>
    let next := 10 * significand + digitValue c
    if next < 1 <<< 64 then
      let (s, n) := takeDigits next rest
      (s, n + 1)
    else (significand, 0)

/-- Multiply by a power of ten, which is exact only up to the rounding of one step. -/
def scaleByTen : Nat → Float → Int → Float
  | 0, x, _ => x
  | fuel + 1, x, e =>
    if e.natAbs ≤ 308 then
      let power := Float.ofScientific 1 false e.natAbs
      if e ≥ 0 then x * power else x / power
    else if x == 0.0 then x
    else if e > 0 then x / 0.0
    else scaleByTen fuel (x / Float.ofScientific 1 false 308) (e + 308)

/-- The number with these digits before and after the point and this exponent. -/
def floatOf (isNegative : Bool) (whole fraction : List Char) (exponent : Int) : Double :=
  let (significand, taken) := takeDigits 0 whole
  let (significand, places) := takeDigits significand fraction
  let e := exponent + (whole.length - taken : Int) - places
  let x := scaleByTen 5 (Float.ofNat significand) e
  ⟨(if isNegative then -x else x).toBits⟩

/-- The part after the letter of an exponent. -/
def readExponent? : List Char → Option (Int × List Char)
  | '+' :: rest => ofDigits 1 (digits rest)
  | '-' :: rest => ofDigits (-1) (digits rest)
  | rest => ofDigits 1 (digits rest)
where
  ofDigits (sign : Int) : List Char × List Char → Option (Int × List Char)
    | ([], _) => none
    | (ds, rest) => some (sign * natOf ds, rest)

def isExponentLetter (c : Char) : Bool := c = 'e' || c = 'E'

/-- A number without its sign. -/
def readUnsigned? (isNegative : Bool) (cs : List Char) : Option (Json × List Char) :=
  match digits cs with
  | ([], _) => none
  | ('0' :: _ :: _, _) => none
  | (whole, rest) =>
    match rest with
    | '.' :: rest =>
      match digits rest with
      | ([], _) => none
      | (fraction, c :: rest) =>
        if isExponentLetter c then
          match readExponent? rest with
          | none => none
          | some (e, rest) => some (.float (floatOf isNegative whole fraction e), rest)
        else some (.float (floatOf isNegative whole fraction 0), c :: rest)
      | (fraction, []) => some (.float (floatOf isNegative whole fraction 0), [])
    | c :: rest =>
      if isExponentLetter c then
        match readExponent? rest with
        | none => none
        | some (e, rest) => some (.float (floatOf isNegative whole [] e), rest)
      else some (integer whole, c :: rest)
    | [] => some (integer whole, [])
where
  integer (whole : List Char) : Json :=
    let n := natOf whole
    if isNegative then
      if n = 0 ∨ n > 1 <<< 63 then .float (floatOf true whole [] 0) else .int (-(n : Int))
    else if n < 1 <<< 64 then .int n
    else .float (floatOf false whole [] 0)

mutual

/-- A value, after any blanks. The number bounds the depth of the recursion. -/
def readValue? : Nat → List Char → Option (Json × List Char)
  | 0, _ => none
  | fuel + 1, cs =>
    match skipSpace cs with
    | 'n' :: 'u' :: 'l' :: 'l' :: rest => some (.null, rest)
    | 't' :: 'r' :: 'u' :: 'e' :: rest => some (.bool true, rest)
    | 'f' :: 'a' :: 'l' :: 's' :: 'e' :: rest => some (.bool false, rest)
    | '"' :: rest =>
      match readString? (rest.length + 1) rest with
      | none => none
      | some (text, rest) => some (stringOrBroken text, rest)
    | '-' :: rest => readUnsigned? true rest
    | '[' :: rest =>
      match skipSpace rest with
      | ']' :: rest => some (.array [], rest)
      | rest =>
        match readItems? fuel rest with
        | none => none
        | some (items, rest) => some (.array items, rest)
    | '\x7b' :: rest =>
      match skipSpace rest with
      | '\x7d' :: rest => some (.object [], rest)
      | rest =>
        match readMembers? fuel rest with
        | none => none
        | some (members, rest) => some (objectOrBroken members, rest)
    | rest => readUnsigned? false rest

/-- The items of an array up to its closing bracket. -/
def readItems? : Nat → List Char → Option (List Json × List Char)
  | 0, _ => none
  | fuel + 1, cs =>
    match readValue? fuel cs with
    | none => none
    | some (item, rest) =>
      match skipSpace rest with
      | ']' :: rest => some ([item], rest)
      | ',' :: rest =>
        match readItems? fuel rest with
        | none => none
        | some (items, rest) => some (item :: items, rest)
      | _ => none

/-- The members of an object up to its closing brace. -/
def readMembers? : Nat → List Char → Option (Option (List Member) × List Char)
  | 0, _ => none
  | fuel + 1, cs =>
    match skipSpace cs with
    | '"' :: rest =>
      match readString? (rest.length + 1) rest with
      | none => none
      | some (key, rest) =>
        match skipSpace rest with
        | ':' :: rest =>
          match readValue? fuel rest with
          | none => none
          | some (value, rest) =>
            match skipSpace rest with
            | '\x7d' :: rest => some (consMember key value (some []), rest)
            | ',' :: rest =>
              match readMembers? fuel rest with
              | none => none
              | some (members, rest) => some (consMember key value members, rest)
            | _ => none
        | _ => none
    | _ => none

end

def read? (text : String) : Option Json :=
  let cs := text.toList
  match readValue? (2 * cs.length + 2) cs with
  | none => none
  | some (value, rest) =>
    match skipSpace rest with
    | [] => some value
    | _ => none

end Json
end ScriptBind
