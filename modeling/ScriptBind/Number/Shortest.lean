import ScriptBind.Number.Double

/-!
# ScriptBind.Number.Shortest

The shortest decimal that reads back as a given number, and its written form: positional where
the point is near the digits, and with an exponent elsewhere.

* `Double.shortest` - the digits and the place of the point.
* `Double.decimalText` - the written form.
-/

namespace ScriptBind
namespace Double

/-- Whether `d * 10 ^ k` lies among the numbers that round to `m * 2 ^ e`. All quantities are
multiplied up to integers: the number itself is `4 * m` units, the interval reaches `below` units
down and `2` units up, and its ends belong to it when `m` is even. -/
def roundsTo (m below : Nat) (num den : Nat) : Bool :=
  let low := (4 * m - below) * den
  let high := (4 * m + 2) * den
  if m % 2 = 0 then low ≤ num && num ≤ high else low < num && num < high

/-- A decimal `digits * 10 ^ (-places)`, where `places` may be negative. -/
structure Decimal where
  digits : Nat
  places : Int
deriving DecidableEq, Repr

/-- The neighbours of the number on the grid of multiples of `10 ^ (-places)`, the nearer first. -/
def gridCandidates (num den : Nat) : List Nat :=
  let q := num / den
  let r := num % den
  if 2 * r < den ∨ (2 * r = den ∧ q % 2 = 0) then [q, q + 1] else [q + 1, q]

/-- Try finer and finer grids; the first that has a point in the interval gives the answer. -/
def searchGrids (m below : Nat) (e : Int) : Nat → Int → Decimal
  | 0, places => ⟨m, places⟩
  | fuel + 1, places =>
    -- the number is `m * 2 ^ e`; in units of the grid it is `m * 2 ^ e * 10 ^ places`
    let num := m <<< e.toNat * Nat.pow 10 places.toNat
    let den := 1 <<< (-e).toNat * Nat.pow 10 (-places).toNat
    let unitNum := 1 <<< e.toNat * Nat.pow 10 places.toNat
    let hit := (gridCandidates num den).find? fun d =>
      d ≠ 0 && roundsTo m below (4 * d * den) unitNum
    match hit with
    | some d => ⟨d, places⟩
    | none => searchGrids m below e fuel (places + 1)

/-- For a finite number other than zero. The search starts at a power of ten above the number. -/
def shortest (x : Double) : Decimal :=
  let m := x.significand
  let e : Int := (x.scale : Int) - 1074
  let below := if x.fraction = 0 ∧ x.exponentField > 1 then 1 else 2
  let top : Int := ((bitLength m : Int) + e) * 30103 / 100000 + 1
  searchGrids m below e 25 (-top)

def dropZeros : Nat → Nat → Int → Nat × Int
  | 0, d, places => (d, places)
  | fuel + 1, d, places =>
    if d % 10 = 0 ∧ d ≠ 0 then dropZeros fuel (d / 10) (places - 1) else (d, places)

/-- An exponent is written with its sign. -/
def exponentText (e : Int) : List Char :=
  (if e < 0 then '-' else '+') :: Nat.toDigits 10 e.natAbs

/-- Digits whose point stands after the first sixteen places or within five zeros of the first
digit are written positionally, always with a digit on both sides of the point. -/
def decimalText (x : Double) : String :=
  let sign := if x.negative then "-" else ""
  if x.isZero then sign ++ "0.0"
  else
    let found := shortest x
    let (value, places) := dropZeros 25 found.digits found.places
    let digits := Nat.toDigits 10 value
    let point : Int := (digits.length : Int) - places
    let body :=
      if places ≤ 0 ∧ point ≤ 16 then
        digits ++ List.replicate (-places).toNat '0' ++ ['.', '0']
      else if 0 < point ∧ point ≤ 16 then
        digits.take point.toNat ++ '.' :: digits.drop point.toNat
      else if -5 < point ∧ point ≤ 0 then
        '0' :: '.' :: List.replicate (-point).toNat '0' ++ digits
      else
        let exponent := exponentText (point - 1)
        match digits with
        | [d] => d :: 'e' :: exponent
        | d :: rest => d :: '.' :: rest ++ 'e' :: exponent
        | [] => []
    sign ++ String.ofList body

end Double
end ScriptBind
