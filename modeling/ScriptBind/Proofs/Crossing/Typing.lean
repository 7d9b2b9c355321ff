import ScriptBind.Proofs.Crossing.Bound
import ScriptBind.Proofs.Crossing.Wrap

/-!
# ScriptBind.Proofs.Crossing.Typing

Which values of native code belong to a shape.

* `Shape.Holds` - for the shapes whose values have no parts.
* `NativeValue.IsPlain` - it was made by native code alone.
* `ShapeTable.Typed` - at every depth, given what holds at the leaves.

A derivation of `Typed` is finite even where the shapes are recursive, because it follows the
value, and it visits only shapes that the table has.
-/

namespace ScriptBind

/-- An integer is in the range of its type, and a number of the short format is rounded. -/
def Scalar.Holds : Scalar → NativeValue → Prop
  | .bool, .bool _ => True
  | .int width signedness, v => signedness.Fits width v
  | .float precision, .float x => precision.round x = x
  | .string, .string _ => True
  | .any, .dynamic _ => True
  | .error, .error _ => True
  | _, _ => False

def Shape.Holds (shape : Shape) (v : NativeValue) : Prop :=
  match shape.kind, v with
  | .scalar s, v => s.Holds v
  | .func _, .func _ => True
  | .chan _ _, .chan _ => True
  | .interface _, .interface _ => True
  | .boxed _, .boxed h => h.typeName = shape.name
  | _, _ => False

/-- A function that wraps no function of a script, an object that was not made from a context,
and no channel: a channel is known to the boundary. -/
def NativeValue.IsPlain : NativeValue → Prop
  | .func (some f) => f.origin = none
  | .chan (some _) => False
  | .interface (some object) => object.scriptValue? = none
  | _ => True

def Shape.HoldsPlain (shape : Shape) (v : NativeValue) : Prop := shape.Holds v ∧ v.IsPlain

namespace ShapeTable

inductive Typed (shapes : ShapeTable) (Leaf : Shape → NativeValue → Prop) :
    ShapeId → NativeValue → Prop where
  | leaf {id : ShapeId} {shape : Shape} {v : NativeValue} : shapes.get? id = some shape →
      shape.kind.hasParts = false → Leaf shape v → Typed shapes Leaf id v
  | slice {id n : ShapeId} {name : String} {element : ShapeId} {items : List NativeValue} :
      shapes.get? id = some ⟨n, name, .slice element⟩ →
      (∀ v ∈ items, Typed shapes Leaf element v) → Typed shapes Leaf id (.slice items)
  | array {id n : ShapeId} {name : String} {length : Nat} {element : ShapeId}
      {items : List NativeValue} :
      shapes.get? id = some ⟨n, name, .array length element⟩ → items.length = length →
      (∀ v ∈ items, Typed shapes Leaf element v) → Typed shapes Leaf id (.array items)
  | map {id n : ShapeId} {name : String} {value : ShapeId} {entries : List Entry} :
      shapes.get? id = some ⟨n, name, .map value⟩ →
      (∀ e ∈ entries, Typed shapes Leaf value e.value) → Typed shapes Leaf id (.map entries)
  | nil {id n : ShapeId} {name : String} {element : ShapeId} :
      shapes.get? id = some ⟨n, name, .pointer element⟩ → Typed shapes Leaf id (.pointer none)
  | pointer {id n : ShapeId} {name : String} {element : ShapeId} {target : NativeValue} :
      shapes.get? id = some ⟨n, name, .pointer element⟩ → Typed shapes Leaf element target →
      Typed shapes Leaf id (.pointer (some target))
  | record {id n : ShapeId} {name : String} {fields : List FieldShape}
      {values : List NativeValue} :
      shapes.get? id = some ⟨n, name, .record fields⟩ → values.length = fields.length →
      (∀ p ∈ fields.zip values, Typed shapes Leaf p.1.shape p.2) →
      Typed shapes Leaf id (.struct values)

variable {shapes : ShapeTable} {Leaf : Shape → NativeValue → Prop} {id : ShapeId}
  {v : NativeValue}

/-- A typed value has a shape. -/
theorem Typed.isSome (h : shapes.Typed Leaf id v) : (shapes.get? id).isSome = true := by
  cases h <;> simp [*]

end ShapeTable
end ScriptBind
