import ScriptBind.Crossing.Boundary

/-!
# ScriptBind.Crossing.Scalar

How the values of scalar types cross.

* `Scalar.toScript` - from native code to a script.
* `Scalar.fromScript` - the other way. An integer wraps around to the width of its type.
-/

namespace ScriptBind

def nativeMismatch (expected : String) (v : NativeValue) : ConversionError :=
  .typeMismatch expected v.kindName

def scriptMismatch (expected : String) (v : Value) : ConversionError :=
  .typeMismatch expected v.describe

namespace Signedness

/-- Widths other than 8, 16 and 32 keep all 64 bits. -/
def wrap (s : Signedness) (width : Nat) (n : Int64) : NativeValue :=
  match s with
  | .signed =>
    .int (match width with
      | 8 => n.toInt8.toInt64
      | 16 => n.toInt16.toInt64
      | 32 => n.toInt32.toInt64
      | _ => n)
  | .unsigned =>
    .uint (match width with
      | 8 => n.toUInt64.toUInt8.toUInt64
      | 16 => n.toUInt64.toUInt16.toUInt64
      | 32 => n.toUInt64.toUInt32.toUInt64
      | _ => n.toUInt64)

end Signedness

def Precision.round (p : Precision) (x : Double) : Double :=
  match p with
  | .single => x.toSingle
  | .double => x

def newHandle (typeName : String) (v : NativeValue) : CrossM Value := do
  return .native ⟨← CrossM.freshId, typeName, v⟩

/-- What an object is in the script: what it was made from, or a handle under a name. -/
def objectToScript (typeName : String) (object : Object) : CrossM Value :=
  match object.scriptValue? with
  | some v => return v
  | none => newHandle typeName (.interface (some object))

/-- What has no plain form in scripts crosses in a handle. -/
def anyToScript : NativeValue → CrossM Value
  | .dynamic v => return v
  | .boxed h => return .native h
  | .bool b => return .bool b
  | .int n => return .int n
  | .uint n => return .int n.toInt64
  | .float x => return .float x
  | .string s => return .string s
  | .error (some message) => return .error message
  | .interface (some object) => objectToScript object.typeName object
  | v => if v.isNil then return .none else newHandle "any" v

namespace Scalar

def toScript (s : Scalar) (v : NativeValue) : CrossM Value :=
  match s with
  | .bool =>
    match v with
    | .bool b => return .bool b
    | v => CrossM.fail (nativeMismatch "bool" v)
  | .int _ _ =>
    match v with
    | .int n => return .int n
    | .uint n => return .int n.toInt64
    | v => CrossM.fail (nativeMismatch "int" v)
  | .float _ =>
    match v with
    | .float x => return .float x
    | v => CrossM.fail (nativeMismatch "float" v)
  | .string =>
    match v with
    | .string s => return .string s
    | v => CrossM.fail (nativeMismatch "string" v)
  | .any => anyToScript v
  | .error =>
    match v with
    | .error none => return .none
    | .interface none => return .none
    | .error (some message) => return .error message
    | v => CrossM.fail (nativeMismatch "error" v)

/-- A floating point number may be written as an integer, and an error as a string. -/
def fromScript (s : Scalar) (v : Value) : CrossM NativeValue :=
  match s with
  | .bool =>
    match v with
    | .bool b => return .bool b
    | v => CrossM.fail (scriptMismatch "bool" v)
  | .int width signedness =>
    match v with
    | .int n => return signedness.wrap width n
    | v => CrossM.fail (scriptMismatch (signedness.typeName width) v)
  | .float precision =>
    match v with
    | .float x => return .float (precision.round x)
    | .int n => return .float (precision.round (.ofInt n.toInt))
    | v => CrossM.fail (scriptMismatch precision.typeName v)
  | .string =>
    match v with
    | .string s => return .string s
    | v => CrossM.fail (scriptMismatch "string" v)
  | .any => return .dynamic v
  | .error =>
    match v with
    | .none => return .error none
    | .error message => return .error (some message)
    | .string message => return .error (some message)
    | v => CrossM.fail (scriptMismatch "error" v)

end Scalar

end ScriptBind
