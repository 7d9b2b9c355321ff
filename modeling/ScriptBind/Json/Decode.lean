import ScriptBind.Json.Basic

/-!
# ScriptBind.Json.Decode

Decoding JSON into records and words. A record is an object in which each of its fields stands
once, among other keys, or an array of its fields in their order.

* `Json.fields?` - the values of the fields of a record.
* `Json.nat?`, `Json.list?`, `Json.word?` - numbers up to a bound, lists, and words from a choice.
-/

namespace ScriptBind
namespace Json

def string? : Json → Option String
  | .string s => some s
  | _ => none

def bool? : Json → Option Bool
  | .bool b => some b
  | _ => none

/-- A natural number of this many bits. -/
def nat? (bits : Nat) : Json → Option Nat
  | .int n => if 0 ≤ n ∧ n.toNat < 1 <<< bits then some n.toNat else none
  | _ => none

def list? {α : Type} (item : Json → Option α) : Json → Option (List α)
  | .array items => items.mapM item
  | _ => none

/-- The only value under a key. -/
def once? (key : String) (members : List Member) : Option Json :=
  match members.filter (·.key = key) with
  | [m] => some m.value
  | _ => none

def fields? (names : List String) : Json → Option (List Json)
  | .object members => names.mapM fun name => once? name members
  | .array items => if items.length = names.length then some items else none
  | _ => none

/-- A word, alone or as the only key of an object whose value holds nothing. -/
def word? (nothing : Json → Bool) : Json → Option String
  | .string s => some s
  | .object [⟨key, value⟩] => if nothing value then some key else none
  | _ => none

def isNull : Json → Bool
  | .null => true
  | _ => false

def isNullOrEmpty : Json → Bool
  | .null => true
  | .object [] => true
  | _ => false

/-- Texts under keys, in the order of the keys; of repeated keys the last counts. -/
def textMap? : Json → Option (List (String × String))
  | .object members => members.foldlM (fun found m =>
      match m.value with
      | .string text => some (insertText m.key text found)
      | _ => none) []
  | _ => none
where
  insertText (key text : String) : List (String × String) → List (String × String)
    | [] => [(key, text)]
    | (k, t) :: rest =>
      if key < k then (key, text) :: (k, t) :: rest
      else if key = k then (key, text) :: rest
      else (k, t) :: insertText key text rest

mutual

/-- How deep brackets nest. -/
def depth : Json → Nat
  | .array items => itemsDepth items + 1
  | .object members => membersDepth members + 1
  | _ => 0

def itemsDepth : List Json → Nat
  | [] => 0
  | item :: rest => max item.depth (itemsDepth rest)

def membersDepth : List Member → Nat
  | [] => 0
  | ⟨_, value⟩ :: rest => max value.depth (membersDepth rest)

end

mutual

/-- No number in the value is too large for its format, and nothing in it is broken. -/
def isDecodable : Json → Bool
  | .float x => x.isFinite
  | .array items => itemsDecodable items
  | .object members => membersDecodable members
  | .broken => false
  | _ => true

def itemsDecodable : List Json → Bool
  | [] => true
  | item :: rest => item.isDecodable && itemsDecodable rest

def membersDecodable : List Member → Bool
  | [] => true
  | ⟨_, value⟩ :: rest => value.isDecodable && membersDecodable rest

end

end Json
end ScriptBind
