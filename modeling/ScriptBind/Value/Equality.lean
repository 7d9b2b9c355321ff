import ScriptBind.Value.Basic

/-!
# ScriptBind.Value.Equality

When two values are equal for a script or for native code: numbers by value, so that a NaN differs
from itself, plain data part by part, and everything with an identity by its identity.

* `Value.equal`, `NativeValue.equal` - equality.
-/

namespace ScriptBind

mutual

def Value.equal : Value → Value → Bool
  | .none, .none => true
  | .bool a, .bool b => a = b
  | .int a, .int b => a = b
  | .float a, .float b => a.equal b
  | .string a, .string b => a = b
  | .list as, .list bs => valuesEqual as bs
  | .dict as, .dict bs => slotsEqual as bs
  | .record m as, .record n bs => m = n && slotsEqual as bs
  | .function f, .function g => f.id = g.id
  | .builtin f, .builtin g => f.func.id = g.func.id
  | .context c, .context d => c.id = d.id
  | .channel c, .channel d => c = d
  | .native h, .native k => h.id = k.id
  | .error a, .error b => a = b
  | _, _ => false

def valuesEqual : List Value → List Value → Bool
  | [], [] => true
  | a :: as, b :: bs => a.equal b && valuesEqual as bs
  | _, _ => false

def slotsEqual : List Slot → List Slot → Bool
  | [], [] => true
  | ⟨m, a⟩ :: as, ⟨n, b⟩ :: bs => m = n && a.equal b && slotsEqual as bs
  | _, _ => false

end

mutual

def NativeValue.equal : NativeValue → NativeValue → Bool
  | .bool a, .bool b => a = b
  | .int a, .int b => a = b
  | .uint a, .uint b => a = b
  | .float a, .float b => a.equal b
  | .string a, .string b => a = b
  | .slice as, .slice bs => nativesEqual as bs
  | .array as, .array bs => nativesEqual as bs
  | .map as, .map bs => entriesEqual as bs
  | .struct as, .struct bs => nativesEqual as bs
  | .pointer none, .pointer none => true
  | .pointer (some a), .pointer (some b) => a.equal b
  | .func f, .func g => f.map (·.id) = g.map (·.id)
  | .chan c, .chan d => c = d
  | .interface a, .interface b => a.map Object.id = b.map Object.id
  | .error a, .error b => a = b
  | .dynamic a, .dynamic b => a.equal b
  | .boxed h, .boxed k => h.id = k.id
  | _, _ => false

def nativesEqual : List NativeValue → List NativeValue → Bool
  | [], [] => true
  | a :: as, b :: bs => a.equal b && nativesEqual as bs
  | _, _ => false

def entriesEqual : List Entry → List Entry → Bool
  | [], [] => true
  | ⟨m, a⟩ :: as, ⟨n, b⟩ :: bs => m = n && a.equal b && entriesEqual as bs
  | _, _ => false

end

end ScriptBind
