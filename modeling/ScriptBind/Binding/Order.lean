/-!
# ScriptBind.Binding.Order

An order in which each item comes after those it depends on. Where items depend on each other in a
circle, the circle is cut at the item that was reached first.

* `dependencyOrder` - the positions of all items in such an order.
-/

namespace ScriptBind

/-- The items visited, and those finished, last first. -/
structure Visit where
  seen : List Nat
  done : List Nat

/-- Visit an item after the items it depends on. The number bounds the depth of the recursion. -/
def visit (deps : Nat → List Nat) : Nat → Nat → Visit → Visit
  | 0, _, v => v
  | fuel + 1, i, v =>
    if v.seen.contains i then v
    else
      let v := (deps i).foldl (fun v d => visit deps fuel d v) ⟨i :: v.seen, v.done⟩
      ⟨v.seen, i :: v.done⟩

/-- The dependencies of an item that exist. -/
def depsIn (table : List (List Nat)) (i : Nat) : List Nat :=
  (table.getD i []).filter (· < table.length)

/-- The dependencies of item `i` are `table[i]`. -/
def dependencyOrder (table : List (List Nat)) : List Nat :=
  let n := table.length
  let v := (List.range n).foldl (fun v i => visit (depsIn table) (n + 1) i v) ⟨[], []⟩
  v.done.reverse

end ScriptBind
