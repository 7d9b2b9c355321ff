import Mathlib.Data.List.Induction
import ScriptBind.Shape.Basic

/-!
# ScriptBind.Proofs.Shape.Table

Tables of shapes that are made from a list.

* `ShapeTable.get?_ofList` - a shape stands at its position, which is also its id.
* `ShapeTable.map_ofList` - names and rules are those of the list.
* `ShapeTable.mem_ofList` - every shape comes from the list.
-/

namespace ScriptBind
namespace ShapeTable

variable {shapes : ShapeTable}

theorem mem_of_get? {id : ShapeId} {shape : Shape} (h : shapes.get? id = some shape) :
    shape ∈ shapes.shapes.toList := by
  rw [ShapeTable.get?] at h
  exact Array.mem_toList_iff.2 (Array.mem_of_getElem? h)

theorem exists_get?_of_mem {shape : Shape} (h : shape ∈ shapes.shapes.toList) :
    ∃ id, shapes.get? id = some shape := by
  obtain ⟨id, hid⟩ := List.getElem?_of_mem h
  exact ⟨id, Array.getElem?_toList.symm.trans hid⟩

theorem ofList_append (shapes : List (String × ShapeKind)) (p : String × ShapeKind) :
    ofList (shapes ++ [p]) = (ofList shapes).push p.1 p.2 := by
  rw [ofList, List.foldl_append]
  rfl

theorem size_ofList (shapes : List (String × ShapeKind)) :
    (ofList shapes).size = shapes.length := by
  induction shapes using List.reverseRecOn with
  | nil => rfl
  | append_singleton shapes p ih =>
    rw [ofList_append, List.length_append, ← ih]
    exact Array.size_push _

theorem get?_ofList (shapes : List (String × ShapeKind)) (id : ShapeId) :
    (ofList shapes).get? id = (shapes[id]?).map fun p => ⟨id, p.1, p.2⟩ := by
  induction shapes using List.reverseRecOn with
  | nil => rfl
  | append_singleton shapes p ih =>
    have hsize : (ofList shapes).shapes.size = shapes.length := size_ofList shapes
    rw [ofList_append, get?, push, Array.getElem?_push, hsize]
    split
    · rename_i hid
      rw [hid, List.getElem?_concat_length]
      rfl
    · rename_i hid
      rw [← get?, ih]
      by_cases hlt : id < shapes.length
      · rw [List.getElem?_append_left hlt]
      · have hgt : shapes.length < id := Nat.lt_of_le_of_ne (Nat.le_of_not_lt hlt) (Ne.symm hid)
        have hge : (shapes ++ [p]).length ≤ id := by
          rw [List.length_append]
          exact hgt
        rw [List.getElem?_eq_none hge, List.getElem?_eq_none (Nat.le_of_lt hgt)]

theorem map_ofList (shapes : List (String × ShapeKind)) :
    (ofList shapes).shapes.toList.map (fun s => (s.name, s.kind)) = shapes := by
  induction shapes using List.reverseRecOn with
  | nil => rfl
  | append_singleton shapes p ih =>
    rw [ofList_append, push, Array.toList_push, List.map_append, ih]
    rfl

theorem mem_ofList {shapes : List (String × ShapeKind)} {shape : Shape}
    (h : shape ∈ (ofList shapes).shapes.toList) : (shape.name, shape.kind) ∈ shapes := by
  rw [← map_ofList shapes]
  exact List.mem_map_of_mem (f := fun s => (s.name, s.kind)) h

end ShapeTable
end ScriptBind
