import ScriptBind.Toml.Basic

/-!
# ScriptBind.Toml.Document

A TOML document while it is read: its tables remember how they came about, since that decides
what may still be added to them. A table named only inside the path of a header, or by a dotted
key, may get a header or further keys of the same kind later; one with a header of its own may
not get a second one.

* `Toml.Table` - a table under construction.
* `Table.insert?` - add a value under a dotted key.
* `Table.openTable?`, `Table.openElement?` - what a header does.
* `Table.value` - the finished table.
-/

namespace ScriptBind
namespace Toml

mutual

inductive Item where
  | value (value : Toml)
  | table (table : Table)
  /-- The elements stand last first. -/
  | tables (elements : List Table)

structure Table where
  /-- No header of its own has named it. -/
  implicit : Bool
  /-- A dotted key made it. -/
  dotted : Bool
  slots : List Slot

structure Slot where
  key : String
  item : Item

end

namespace Table

def empty : Table := ⟨false, false, []⟩

def findSlot (key : String) : List Slot → Option Item
  | [] => none
  | ⟨k, item⟩ :: rest => if k = key then some item else findSlot key rest

/-- Put an item under a key, in place of one that is there. -/
def setSlot (key : String) (item : Item) : List Slot → List Slot
  | [] => [⟨key, item⟩]
  | ⟨k, old⟩ :: rest =>
    if k = key then ⟨key, item⟩ :: rest else ⟨k, old⟩ :: setSlot key item rest

def set (t : Table) (key : String) (item : Item) : Table :=
  { t with slots := setSlot key item t.slots }

/-- Change the table at the end of a path, making the tables on the way that are missing. An
array of tables leads to its last element. A dotted key does not lead through a table with a
header of its own. -/
def update? (dotted : Bool) (change : Table → Option Table) : List String → Table → Option Table
  | [], t => change t
  | key :: path, t =>
    match findSlot key t.slots with
    | none =>
      match update? dotted change path ⟨true, dotted, []⟩ with
      | none => none
      | some inner => some (t.set key (.table inner))
    | some (.value _) => none
    | some (.table inner) =>
      if dotted && !inner.implicit then none
      else
        match update? dotted change path inner with
        | none => none
        | some inner => some (t.set key (.table inner))
    | some (.tables []) => none
    | some (.tables (last :: older)) =>
      match update? dotted change path last with
      | none => none
      | some last => some (t.set key (.tables (last :: older)))

/-- Add a value under a dotted key, given as the path to its table and the key in there. Keys are
not repeated, and a path of dots ends in a table that dotted keys have made. -/
def insert? (path : List String) (key : String) (value : Toml) (t : Table) : Option Table :=
  update? true
    (fun inner =>
      if !path.isEmpty && !inner.dotted then none
      else
        match findSlot key inner.slots with
        | some _ => none
        | none => some (inner.set key (.value value)))
    path t

/-- A header with single brackets: there is no item of that name, or only a table that has come
about as part of a path. -/
def openTable? (path : List String) (key : String) (t : Table) : Option Table :=
  update? false
    (fun parent =>
      match findSlot key parent.slots with
      | none => some (parent.set key (.table empty))
      | some (.table inner) =>
        if inner.implicit && !inner.dotted then
          some (parent.set key (.table { inner with implicit := false }))
        else none
      | some _ => none)
    path t

/-- A header with double brackets adds an element to an array of tables. -/
def openElement? (path : List String) (key : String) (t : Table) : Option Table :=
  update? false
    (fun parent =>
      match findSlot key parent.slots with
      | none => some (parent.set key (.tables [empty]))
      | some (.tables elements) => some (parent.set key (.tables (empty :: elements)))
      | some _ => none)
    path t

/-- Add a value to the table that the last header opened, at `path`. -/
def insertUnder? (header path : List String) (key : String) (value : Toml) (t : Table) :
    Option Table :=
  update? false (insert? path key value) header t

mutual

def value : Table → Toml
  | ⟨_, _, slots⟩ => .table (entries slots)

def entries : List Slot → List Entry
  | [] => []
  | ⟨key, item⟩ :: rest => ⟨key, itemValue item⟩ :: entries rest

def itemValue : Item → Toml
  | .value v => v
  | .table t => t.value
  | .tables elements => .array (tableValues [] elements)

/-- The elements stand last first and come out first to last. -/
def tableValues (done : List Toml) : List Table → List Toml
  | [] => done
  | t :: rest => tableValues (t.value :: done) rest

end

end Table

end Toml
end ScriptBind
