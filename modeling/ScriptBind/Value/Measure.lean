import ScriptBind.Value.Basic

/-!
# ScriptBind.Value.Measure

How deep a value nests, counting only the levels that a conversion descends, and how many parts a
value has.

* `Value.depth`, `NativeValue.depth` - levels.
* `Value.size`, `NativeValue.size` - parts, the value itself included.
-/

namespace ScriptBind

mutual

def Value.depth : Value → Nat
  | .list items => valuesDepth items + 1
  | .dict entries => slotsDepth entries + 1
  | .record _ fields => slotsDepth fields + 1
  | _ => 0

def valuesDepth : List Value → Nat
  | [] => 0
  | v :: rest => max v.depth (valuesDepth rest)

def slotsDepth : List Slot → Nat
  | [] => 0
  | ⟨_, v⟩ :: rest => max v.depth (slotsDepth rest)

end

mutual

def NativeValue.depth : NativeValue → Nat
  | .slice items => nativesDepth items + 1
  | .array items => nativesDepth items + 1
  | .map entries => entriesDepth entries + 1
  | .struct values => nativesDepth values + 1
  | .pointer (some target) => target.depth + 1
  | _ => 0

def nativesDepth : List NativeValue → Nat
  | [] => 0
  | v :: rest => max v.depth (nativesDepth rest)

def entriesDepth : List Entry → Nat
  | [] => 0
  | ⟨_, v⟩ :: rest => max v.depth (entriesDepth rest)

end

mutual

def Value.size : Value → Nat
  | .list items => valuesSize items + 1
  | .dict entries => slotsSize entries + 1
  | .record _ fields => slotsSize fields + 1
  | _ => 1

def valuesSize : List Value → Nat
  | [] => 0
  | v :: rest => v.size + valuesSize rest

def slotsSize : List Slot → Nat
  | [] => 0
  | ⟨_, v⟩ :: rest => v.size + slotsSize rest

end

mutual

def NativeValue.size : NativeValue → Nat
  | .slice items => nativesSize items + 1
  | .array items => nativesSize items + 1
  | .map entries => entriesSize entries + 1
  | .struct values => nativesSize values + 1
  | .pointer (some target) => target.size + 1
  | _ => 1

def nativesSize : List NativeValue → Nat
  | [] => 0
  | v :: rest => v.size + nativesSize rest

def entriesSize : List Entry → Nat
  | [] => 0
  | ⟨_, v⟩ :: rest => v.size + entriesSize rest

end

end ScriptBind
