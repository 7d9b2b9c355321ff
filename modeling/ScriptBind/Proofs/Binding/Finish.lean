import ScriptBind.Proofs.Binding.Invariant
import ScriptBind.Proofs.Shape.Table

/-!
# ScriptBind.Proofs.Binding.Finish

How the bindings are made from the state of a generator.

* `Generator.map_converters_finish` - a converter differs from its entry in its definition only.
* `Generator.identsOf_finish` - converters and entries are found alike.
* `Generator.get?_shapeTable` - a shape stands where its row stood.
-/

namespace ScriptBind
namespace Generator

theorem map_converters_finish {β : Type} {f : ConverterEntry → β}
    (hf : ∀ e definition, f { e with definition := definition } = f e) (g : Generator) :
    g.finish.converters.map f = g.entries.toList.map f := by
  rw [finish, List.map_map]
  exact List.map_congr_left fun e _ => hf e _

theorem identsOf_finish (g : Generator) :
    identsOf g.finish.converters = identsOf g.entries.toList := by
  funext shape direction
  have hfind : g.finish.converters.reverse.find?
      (fun e => e.shape = shape && e.direction = direction) =
        (g.entries.toList.reverse.find? fun e => e.shape = shape && e.direction = direction).map
          fun e => { e with
            definition := definitionOf g.shapeTable g.entries.toList e } := by
    rw [finish, ← List.map_reverse, List.find?_map]
    rfl
  rw [identsOf, identsOf, hfind]
  cases g.entries.toList.reverse.find? fun e => e.shape = shape && e.direction = direction with
  | none => rfl
  | some e => rfl

theorem get?_shapeTable (g : Generator) (id : ShapeId) : g.shapeTable.get? id =
    (g.rows[id]?).map fun row => ⟨id, row.name, row.kind.getD (.boxed "unresolved")⟩ := by
  rw [shapeTable, ShapeTable.get?_ofList, List.getElem?_map, Array.getElem?_toList]
  cases g.rows[id]? <;> rfl

theorem size_shapeTable (g : Generator) : g.shapeTable.size = g.rows.size := by
  rw [shapeTable, ShapeTable.size_ofList, List.length_map, Array.length_toList]

end Generator
end ScriptBind
