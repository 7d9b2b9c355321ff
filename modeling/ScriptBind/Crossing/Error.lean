import ScriptBind.Shape.Basic

/-!
# ScriptBind.Crossing.Error

Why a value could not cross between a script and native code, or a call could not be made.

* `ConversionError` - the causes; `ConversionError.message` - their texts.
-/

namespace ScriptBind

inductive ConversionError where
  | typeMismatch (expected actual : String)
  | lengthMismatch (typeName : String) (expected actual : Nat)
  | arityMismatch (callee : String) (expected actual : Nat)
  /-- An integer other than zero stands where a nil value is allowed. -/
  | invalidNil (typeName : String) (value : Int64)
  | missingField (typeName field : String)
  | inField (field : String) (cause : ConversionError)
  /-- The position counts from zero. -/
  | argument (callee : String) (position : Nat) (cause : ConversionError)
  | failure (detail : String)
  /-- A channel was used against its direction. -/
  | protocol (detail : String)
  | synthesis (interface method : String) (arity : Nat) (problem : String)
  /-- The script failed. -/
  | script (message : String)
  | unknownShape (shape : ShapeId)
deriving DecidableEq, Repr

/-- How texts call a shape. -/
def shapeIdText (id : ShapeId) : String := "shape#" ++ toString id

namespace ConversionError

def message : ConversionError → String
  | .typeMismatch expected actual => "expected " ++ expected ++ ", got " ++ actual
  | .lengthMismatch typeName expected actual =>
    typeName ++ ": expected length " ++ toString expected ++ ", got " ++ toString actual
  | .arityMismatch callee expected actual =>
    callee ++ ": expected " ++ toString expected ++ " arguments, got " ++ toString actual
  | .invalidNil typeName value =>
    typeName ++ ": integer " ++ toString value.toInt ++ " is not a nil value (only 0 is)"
  | .missingField typeName field => typeName ++ ": missing field '" ++ field ++ "'"
  | .inField field cause => "field " ++ field ++ ": " ++ cause.message
  | .argument callee position cause =>
    callee ++ ": argument " ++ toString position ++ ": " ++ cause.message
  | .failure detail => "conversion failed: " ++ detail
  | .protocol detail => "channel protocol error: " ++ detail
  | .synthesis interface method arity problem =>
    "cannot implement " ++ interface ++ ": method " ++ method ++ " (arity " ++ toString arity ++
      "): " ++ problem
  | .script message => message
  | .unknownShape shape => "unknown shape " ++ shapeIdText shape

end ConversionError

end ScriptBind
