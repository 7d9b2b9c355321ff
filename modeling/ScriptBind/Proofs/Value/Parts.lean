import ScriptBind.Value.Measure

/-!
# ScriptBind.Proofs.Value.Parts

The parts of a value that a conversion goes on to, and that they are less deep than the value.

* `Value.parts`, `NativeValue.parts` - items, values of entries and fields, the target of a pointer.
-/

namespace ScriptBind

def Value.parts : Value → List Value
  | .list items => items
  | .dict entries => entries.map (·.value)
  | .record _ fields => fields.map (·.value)
  | _ => []

def NativeValue.parts : NativeValue → List NativeValue
  | .slice items => items
  | .array items => items
  | .map entries => entries.map (·.value)
  | .struct values => values
  | .pointer (some target) => [target]
  | _ => []

theorem depth_le_valuesDepth {x : Value} : ∀ {items : List Value}, x ∈ items →
    x.depth ≤ valuesDepth items
  | v :: rest, h => by
    rw [valuesDepth]
    rcases List.mem_cons.1 h with rfl | h
    · exact Nat.le_max_left _ _
    · exact Nat.le_trans (depth_le_valuesDepth h) (Nat.le_max_right _ _)

theorem depth_le_slotsDepth {s : Slot} : ∀ {slots : List Slot}, s ∈ slots →
    s.value.depth ≤ slotsDepth slots
  | ⟨_, v⟩ :: rest, h => by
    rw [slotsDepth]
    rcases List.mem_cons.1 h with rfl | h
    · exact Nat.le_max_left _ _
    · exact Nat.le_trans (depth_le_slotsDepth h) (Nat.le_max_right _ _)

theorem depth_le_nativesDepth {x : NativeValue} : ∀ {items : List NativeValue}, x ∈ items →
    x.depth ≤ nativesDepth items
  | v :: rest, h => by
    rw [nativesDepth]
    rcases List.mem_cons.1 h with rfl | h
    · exact Nat.le_max_left _ _
    · exact Nat.le_trans (depth_le_nativesDepth h) (Nat.le_max_right _ _)

theorem depth_le_entriesDepth {e : Entry} : ∀ {entries : List Entry}, e ∈ entries →
    e.value.depth ≤ entriesDepth entries
  | ⟨_, v⟩ :: rest, h => by
    rw [entriesDepth]
    rcases List.mem_cons.1 h with rfl | h
    · exact Nat.le_max_left _ _
    · exact Nat.le_trans (depth_le_entriesDepth h) (Nat.le_max_right _ _)

theorem Value.depth_lt_of_mem_parts {v x : Value} (h : x ∈ v.parts) : x.depth < v.depth := by
  cases v with
  | list items => exact Nat.lt_succ_of_le (depth_le_valuesDepth h)
  | dict entries =>
    obtain ⟨s, hs, rfl⟩ := List.mem_map.1 h
    exact Nat.lt_succ_of_le (depth_le_slotsDepth hs)
  | record typeName fields =>
    obtain ⟨s, hs, rfl⟩ := List.mem_map.1 h
    exact Nat.lt_succ_of_le (depth_le_slotsDepth hs)
  | _ => simp [Value.parts] at h

theorem NativeValue.depth_lt_of_mem_parts {v x : NativeValue} (h : x ∈ v.parts) :
    x.depth < v.depth := by
  cases v with
  | slice items => exact Nat.lt_succ_of_le (depth_le_nativesDepth h)
  | array items => exact Nat.lt_succ_of_le (depth_le_nativesDepth h)
  | map entries =>
    obtain ⟨e, he, rfl⟩ := List.mem_map.1 h
    exact Nat.lt_succ_of_le (depth_le_entriesDepth he)
  | struct values => exact Nat.lt_succ_of_le (depth_le_nativesDepth h)
  | pointer target =>
    cases target with
    | none => simp [NativeValue.parts] at h
    | some t =>
      rw [List.mem_singleton.1 h]
      exact Nat.lt_succ_self _
  | _ => simp [NativeValue.parts] at h

theorem mem_slots_of_slot? {name : String} {v : Value} : ∀ {slots : List Slot},
    slot? name slots = some v → v ∈ slots.map (·.value)
  | ⟨n, w⟩ :: rest, h => by
    rw [slot?] at h
    split at h
    · cases h
      simp
    · simp [mem_slots_of_slot? h]

end ScriptBind
