/-!
# ScriptBind.Number.Double

Numbers in the 64 bit binary floating point format, held by their bits, so that equality of values
of this type is decidable and tells positive from negative zero.

* `Double.equal` - numeric equality: a NaN equals nothing, and the two zeros are equal.
* `Double.ofInt` - the nearest number to an integer, a tie going to the even neighbour.
* `Double.toSingle` - the nearest number of the 32 bit format, as a number of this format.
-/

namespace ScriptBind

structure Double where
  bits : UInt64
deriving DecidableEq, Repr

instance : Inhabited Double := ⟨⟨0⟩⟩

namespace Double

def zero : Double := ⟨0⟩

def negative (x : Double) : Bool := 1 <<< 63 ≤ x.bits.toNat

/-- The eleven bits of the exponent. -/
def exponentField (x : Double) : Nat := (x.bits.toNat >>> 52) % (1 <<< 11)

/-- The 52 bits of the fraction. -/
def fraction (x : Double) : Nat := x.bits.toNat % (1 <<< 52)

def isNaN (x : Double) : Bool := x.exponentField = 2047 && x.fraction ≠ 0

def isFinite (x : Double) : Bool := x.exponentField ≠ 2047

def isZero (x : Double) : Bool := x.exponentField = 0 && x.fraction = 0

def equal (x y : Double) : Bool :=
  if x.isNaN || y.isNaN then false
  else if x.isZero && y.isZero then true
  else x.bits = y.bits

/-- Assemble a number from its three fields. -/
def ofFields (isNegative : Bool) (exponent fraction : Nat) : Double :=
  ⟨((if isNegative then 1 <<< 63 else 0) + exponent <<< 52 + fraction).toUInt64⟩

def infinity (isNegative : Bool) : Double := ofFields isNegative 2047 0

/-- A finite number is its significand times a power of two; this is the significand. -/
def significand (x : Double) : Nat :=
  if x.exponentField = 0 then x.fraction else 1 <<< 52 + x.fraction

/-- The exponent of the power of two that goes with the significand, plus 1074. -/
def scale (x : Double) : Nat := if x.exponentField = 0 then 0 else x.exponentField - 1

/-- The multiple of `2 ^ shift` nearest to `m`, divided by `2 ^ shift`. A tie goes to the even
one. -/
def nearestEven (m shift : Nat) : Nat :=
  let unit := 1 <<< shift
  let q := m / unit
  let rest := 2 * (m % unit)
  if rest > unit ∨ (rest = unit ∧ q % 2 = 1) then q + 1 else q

def bitLength (m : Nat) : Nat := if m = 0 then 0 else Nat.log2 m + 1

/-- Drop bits of `m` so that at most `precision` are left, and at least `least` of them, and
round. The dropped bits are zeros in the answer. -/
def roundTo (precision least m : Nat) : Nat :=
  let shift := max least (bitLength m - precision)
  nearestEven m shift <<< shift

/-- The number `m * 2 ^ (scale - 1074)`, for an `m` with at most 53 significant bits that does not
lie below the normal numbers. -/
def ofScaled (isNegative : Bool) (m scale : Nat) : Double :=
  if m = 0 then ofFields isNegative 0 0
  else
    let n := bitLength m
    let exponent := scale + n - 52
    if exponent ≥ 2047 then infinity isNegative
    else
      let aligned := if n ≤ 53 then m <<< (53 - n) else m >>> (n - 53)
      ofFields isNegative exponent (aligned - 1 <<< 52)

def ofInt (n : Int) : Double := ofScaled (n < 0) (roundTo 53 0 n.natAbs) 1074

/-- The NaN as the 32 bit format keeps it: quiet, with the upper 23 bits of its fraction. -/
def quieted (x : Double) : Double :=
  ofFields x.negative 2047 (1 <<< 51 + (x.fraction % (1 <<< 51)) >>> 29 <<< 29)

/-- The smallest positive number of the 32 bit format is `2 ^ -149`, and rounding at or beyond
`2 ^ 128` gives an infinity. -/
def toSingle (x : Double) : Double :=
  if x.isNaN then x.quieted
  else if !x.isFinite then x
  else
    let m := roundTo 24 (925 - x.scale) x.significand
    if m <<< x.scale ≥ 1 <<< (128 + 1074) then infinity x.negative
    else ofScaled x.negative m x.scale

end Double

end ScriptBind
