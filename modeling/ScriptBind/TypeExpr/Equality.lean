import ScriptBind.TypeExpr.Basic

/-!
# ScriptBind.TypeExpr.Equality

Equality of type expressions is decidable.

* `TypeExpr.same` - the comparison, by recursion on both expressions.
* `TypeExpr.same_iff` - it decides equality.
-/

namespace ScriptBind

mutual

def TypeExpr.same : TypeExpr → TypeExpr → Bool
  | .name a as, .name b bs => a = b && sameExprs as bs
  | .slice a, .slice b => a.same b
  | .array m a, .array n b => m = n && a.same b
  | .map k v, .map k' v' => k.same k' && v.same v'
  | .pointer a, .pointer b => a.same b
  | .func f, .func g => f.same g
  | .chan d a, .chan d' b => d = d' && a.same b
  | .struct as, .struct bs => sameFields as bs
  | .interface as, .interface bs => sameMethods as bs
  | _, _ => false

def sameExprs : List TypeExpr → List TypeExpr → Bool
  | [], [] => true
  | a :: as, b :: bs => a.same b && sameExprs as bs
  | _, _ => false

def sameFields : List FieldExpr → List FieldExpr → Bool
  | [], [] => true
  | ⟨m, a⟩ :: as, ⟨n, b⟩ :: bs => m = n && a.same b && sameFields as bs
  | _, _ => false

def sameMethods : List MethodExpr → List MethodExpr → Bool
  | [], [] => true
  | ⟨m, f⟩ :: as, ⟨n, g⟩ :: bs => m = n && f.same g && sameMethods as bs
  | _, _ => false

def FuncExpr.same : FuncExpr → FuncExpr → Bool
  | ⟨ts, ps, rs, v⟩, ⟨ts', ps', rs', v'⟩ =>
    ts = ts' && sameParams ps ps' && sameParams rs rs' && v = v'

def sameParams : List ParamExpr → List ParamExpr → Bool
  | [], [] => true
  | ⟨m, a⟩ :: as, ⟨n, b⟩ :: bs => m = n && a.same b && sameParams as bs
  | _, _ => false

end

mutual

theorem TypeExpr.same_iff : ∀ a b : TypeExpr, a.same b = true ↔ a = b
  | .name _ as, b => by cases b <;> simp [TypeExpr.same, sameExprs_iff as]
  | .slice a, b => by cases b <;> simp [TypeExpr.same, a.same_iff]
  | .array _ a, b => by cases b <;> simp [TypeExpr.same, a.same_iff]
  | .map k v, b => by cases b <;> simp [TypeExpr.same, k.same_iff, v.same_iff]
  | .pointer a, b => by cases b <;> simp [TypeExpr.same, a.same_iff]
  | .func f, b => by cases b <;> simp [TypeExpr.same, f.same_iff]
  | .chan _ a, b => by cases b <;> simp [TypeExpr.same, a.same_iff]
  | .struct as, b => by cases b <;> simp [TypeExpr.same, sameFields_iff as]
  | .interface as, b => by cases b <;> simp [TypeExpr.same, sameMethods_iff as]

theorem sameExprs_iff : ∀ as bs : List TypeExpr, sameExprs as bs = true ↔ as = bs
  | [], bs => by cases bs <;> simp [sameExprs]
  | a :: as, bs => by cases bs <;> simp [sameExprs, a.same_iff, sameExprs_iff as]

theorem sameFields_iff : ∀ as bs : List FieldExpr, sameFields as bs = true ↔ as = bs
  | [], bs => by cases bs <;> simp [sameFields]
  | ⟨_, a⟩ :: as, bs => by
    cases bs with
    | nil => simp [sameFields]
    | cons b bs => cases b; simp [sameFields, a.same_iff, sameFields_iff as]

theorem sameMethods_iff : ∀ as bs : List MethodExpr, sameMethods as bs = true ↔ as = bs
  | [], bs => by cases bs <;> simp [sameMethods]
  | ⟨_, f⟩ :: as, bs => by
    cases bs with
    | nil => simp [sameMethods]
    | cons b bs => cases b; simp [sameMethods, f.same_iff, sameMethods_iff as]

theorem FuncExpr.same_iff : ∀ f g : FuncExpr, f.same g = true ↔ f = g
  | ⟨_, ps, rs, _⟩, ⟨_, _, _, _⟩ => by
    simp [FuncExpr.same, sameParams_iff ps, sameParams_iff rs, and_assoc]

theorem sameParams_iff : ∀ as bs : List ParamExpr, sameParams as bs = true ↔ as = bs
  | [], bs => by cases bs <;> simp [sameParams]
  | ⟨_, a⟩ :: as, bs => by
    cases bs with
    | nil => simp [sameParams]
    | cons b bs => cases b; simp [sameParams, a.same_iff, sameParams_iff as]

end

instance : DecidableEq TypeExpr := fun a b => decidable_of_iff _ (a.same_iff b)

instance : DecidableEq FuncExpr := fun f g => decidable_of_iff _ (f.same_iff g)

end ScriptBind
