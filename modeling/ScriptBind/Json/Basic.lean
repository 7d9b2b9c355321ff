import ScriptBind.Number.Double

/-!
# ScriptBind.Json.Basic

JSON values. An object keeps its members in the order in which they stand, and keeps repeated
keys; whoever decodes it decides what a repeated key means.

* `Json` - a value.
* `Json.member?` - look up a key.
* `Json.sortKeys` - the same value with the keys of every object in order.
-/

namespace ScriptBind

mutual

inductive Json where
  | null
  | bool (value : Bool)
  /-- Only integers of 64 bits, signed or unsigned, are read as such. -/
  | int (value : Int)
  | float (value : Double)
  | string (value : String)
  | array (items : List Json)
  | object (members : List Json.Member)
  /-- A string with an escape that is no character, or an object with such a key. It stands only
  where nobody decodes it. -/
  | broken

structure Json.Member where
  key : String
  value : Json

end

namespace Json

instance : Inhabited Json := ⟨.null⟩

def record (members : List (String × Json)) : Json :=
  .object (members.map fun (key, value) => ⟨key, value⟩)

def nat (n : Nat) : Json := .int n

def nats (ns : List Nat) : Json := .array (ns.map nat)

def strings (texts : List String) : Json := .array (texts.map .string)

/-- A value or null. -/
def orNull {α : Type} (encode : α → Json) : Option α → Json
  | some a => encode a
  | none => .null

/-- The last value under a key. -/
def lookup (key : String) : List Member → Option Json
  | [] => none
  | ⟨k, v⟩ :: rest =>
    match lookup key rest with
    | some found => some found
    | none => if k = key then some v else none

def member? (key : String) : Json → Option Json
  | .object members => lookup key members
  | _ => none

def insertMember (m : Member) : List Member → List Member
  | [] => [m]
  | n :: rest =>
    if m.key < n.key then m :: n :: rest
    else if m.key = n.key then n :: rest
    else n :: insertMember m rest

mutual

/-- Of repeated keys the last stays. -/
def sortKeys : Json → Json
  | .array items => .array (sortItems items)
  | .object members => .object (sortMembers members)
  | other => other

def sortItems : List Json → List Json
  | [] => []
  | item :: rest => item.sortKeys :: sortItems rest

def sortMembers : List Member → List Member
  | [] => []
  | ⟨key, value⟩ :: rest => insertMember ⟨key, value.sortKeys⟩ (sortMembers rest)

end

end Json

end ScriptBind
