/-!
# ScriptBind.Number.Format

The formats of number types: integers by width and signedness, floating point numbers by
precision.

* `Signedness.inRange` - which integers a format holds.
* `Signedness.typeName`, `Precision.typeName` - the names of the types.
* `Signedness.word`, `Precision.word` - the words for the formats in manifests and generated code.
-/

namespace ScriptBind

inductive Signedness where
  | signed
  | unsigned
deriving DecidableEq, Repr

namespace Signedness

def typeName (s : Signedness) (width : Nat) : String :=
  match s with
  | .signed => "int" ++ toString width
  | .unsigned => "uint" ++ toString width

def word : Signedness → String
  | .signed => "Signed"
  | .unsigned => "Unsigned"

def ofWord? : String → Option Signedness
  | "Signed" => some .signed
  | "Unsigned" => some .unsigned
  | _ => none

/-- The integers of `width` bits. -/
def inRange (s : Signedness) (width : Nat) (n : Int) : Bool :=
  match s with
  | .signed =>
    let bound : Nat := 1 <<< (width - 1)
    n < bound && -bound ≤ n
  | .unsigned =>
    let bound : Nat := 1 <<< width
    n < bound && 0 ≤ n

end Signedness

inductive Precision where
  | single
  | double
deriving DecidableEq, Repr

namespace Precision

def typeName : Precision → String
  | .single => "float32"
  | .double => "float64"

def word : Precision → String
  | .single => "F32"
  | .double => "F64"

def ofWord? : String → Option Precision
  | "F32" => some .single
  | "F64" => some .double
  | _ => none

end Precision

end ScriptBind
