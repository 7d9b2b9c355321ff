/-!
# ScriptBind.Text.Hex

Hexadecimal digits, in lower case.

* `hex` - a number without leading zeros.
* `hexPadded` - a number in at least a given count of digits.
* `hexValue?` - the value of a digit, in either case.
-/

namespace ScriptBind
namespace Text

def hex (n : Nat) : String := String.ofList (Nat.toDigits 16 n)

def hexPadded (width n : Nat) : String :=
  let digits := Nat.toDigits 16 n
  String.ofList (List.replicate (width - digits.length) '0' ++ digits)

def hexValue? (c : Char) : Option Nat :=
  if '0' ≤ c ∧ c ≤ '9' then some (c.toNat - '0'.toNat)
  else if 'a' ≤ c ∧ c ≤ 'f' then some (c.toNat - 'a'.toNat + 10)
  else if 'A' ≤ c ∧ c ≤ 'F' then some (c.toNat - 'A'.toNat + 10)
  else none

end Text
end ScriptBind
