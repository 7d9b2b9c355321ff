/-!
# ScriptBind.Toml.Basic

The values of a TOML document. Of floating point numbers and dates only their kind is kept, since
no key that is read holds one.

* `Toml` - a value; a table keeps its keys in the order in which they were first written.
* `Toml.get?` - the value under a key.
-/

namespace ScriptBind

mutual

inductive Toml where
  | string (text : String)
  | int (value : Int)
  | float
  | date
  | bool (value : Bool)
  | array (items : List Toml)
  | table (entries : List Toml.Entry)

structure Toml.Entry where
  key : String
  value : Toml

end

namespace Toml

instance : Inhabited Toml := ⟨.table []⟩

def find? (key : String) : List Entry → Option Toml
  | [] => none
  | ⟨k, v⟩ :: rest => if k = key then some v else find? key rest

def get? (key : String) : Toml → Option Toml
  | .table entries => find? key entries
  | _ => none

end Toml
end ScriptBind
