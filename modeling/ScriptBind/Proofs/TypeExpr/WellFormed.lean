import ScriptBind.TypeExpr.Equality
import ScriptBind.TypeExpr.Reader
import ScriptBind.Proofs.TypeExpr.Scan

/-!
# ScriptBind.Proofs.TypeExpr.WellFormed

The type expressions that can be written down so that they read back.

* `TypeExpr.WellFormed`, `FuncExpr.WellFormed` - the conditions on names, lengths and lists.
-/

namespace ScriptBind

/-- A name of a type or a parameter, which starts no other type. -/
def IsTypeName (name : String) : Prop := Token.IsIdent name ∧ name ∉ typeKeywords

instance : DecidablePred IsTypeName := fun _ => inferInstanceAs (Decidable (_ ∧ _))

def UniformNames (params : List ParamExpr) : Prop :=
  (∀ p ∈ params, p.name.isSome) ∨ ∀ p ∈ params, p.name.isNone

def EndsInSlice (params : List ParamExpr) : Prop :=
  ∃ name element, params.getLast? = some ⟨name, .slice element⟩

mutual

inductive TypeExpr.WellFormed : TypeExpr → Prop where
  | name {name : String} {args : List TypeExpr} :
    IsTypeName name → (∀ arg ∈ args, arg.WellFormed) → TypeExpr.WellFormed (.name name args)
  | slice {element : TypeExpr} : element.WellFormed → TypeExpr.WellFormed (.slice element)
  | array {length : Nat} {element : TypeExpr} :
    length < Token.lengthBound → element.WellFormed → TypeExpr.WellFormed (.array length element)
  | map {key value : TypeExpr} :
    key.WellFormed → value.WellFormed → TypeExpr.WellFormed (.map key value)
  | pointer {element : TypeExpr} : element.WellFormed → TypeExpr.WellFormed (.pointer element)
  | func {signature : FuncExpr} : signature.WellFormed → TypeExpr.WellFormed (.func signature)
  /-- In writing, the arrow of the element would become the arrow of the channel. -/
  | chan {direction : ChanDir} {element : TypeExpr} :
    (direction = .both → ∀ inner, element ≠ .chan .recvOnly inner) → element.WellFormed →
    TypeExpr.WellFormed (.chan direction element)
  | struct {fields : List FieldExpr} :
    (fields.map (·.name)).Nodup → (∀ f ∈ fields, Token.IsIdent f.name) →
    (∀ f ∈ fields, f.type.WellFormed) → TypeExpr.WellFormed (.struct fields)
  | interface {methods : List MethodExpr} :
    (methods.map (·.name)).Nodup → (∀ m ∈ methods, Token.IsIdent m.name) →
    (∀ m ∈ methods, m.func.typeParams = []) → (∀ m ∈ methods, m.func.WellFormed) →
    TypeExpr.WellFormed (.interface methods)

inductive FuncExpr.WellFormed : FuncExpr → Prop where
  | mk {typeParams : List String} {params results : List ParamExpr} {variadic : Bool} :
    (∀ name ∈ typeParams, Token.IsIdent name) →
    (∀ p ∈ params, p.WellFormed) → UniformNames params →
    (∀ r ∈ results, r.WellFormed) → UniformNames results →
    (variadic = true → EndsInSlice params) →
    FuncExpr.WellFormed ⟨typeParams, params, results, variadic⟩

inductive ParamExpr.WellFormed : ParamExpr → Prop where
  | mk {name : Option String} {type : TypeExpr} :
    (∀ n, name = some n → IsTypeName n) → type.WellFormed → ParamExpr.WellFormed ⟨name, type⟩

end

end ScriptBind
