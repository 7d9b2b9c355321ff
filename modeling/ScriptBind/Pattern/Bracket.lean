import ScriptBind.Pattern.Escape

/-!
# ScriptBind.Pattern.Bracket

Sets in square brackets: characters, ranges, named classes and further brackets, with a sign for the
complement and signs for the operations on sets. Complements and cases are those of all scripts or
of bytes: in the first mode the cases are not known, and in the second a complement would hold bytes
that are no characters, so these are refused.

* `Pattern.readBracket?` - the set and how deep its brackets nest.
-/

namespace ScriptBind
namespace Pattern

inductive SetOperation where
  | intersection
  | difference
  | exclusive
deriving DecidableEq, Repr

def SetOperation.apply : SetOperation → CharSet → CharSet → CharSet
  | .intersection, a, b => .intersection a b
  | .difference, a, b => .difference a b
  | .exclusive, a, b => .exclusive a b

/-- Members that stand beside each other: what they hold, how many they are, and how deep the
deepest of them nests. -/
structure Members where
  set : CharSet
  count : Nat
  depth : Nat
deriving DecidableEq, Repr

namespace Members

def empty : Members := ⟨.none, 0, 0⟩

def add (m : Members) (set : CharSet) (depth : Nat) : Members :=
  ⟨.union m.set set, m.count + 1, max m.depth depth⟩

/-- Several members nest one level deeper than one. -/
def height (m : Members) : Nat := if m.count > 1 then m.depth + 1 else m.depth

end Members

/-- What stands before an operation: its left side and the depth of that. -/
structure LeftSide where
  operation : SetOperation
  set : CharSet
  height : Nat
deriving DecidableEq, Repr

/-- The set of the members and what stands before them. Operations apply from left to right. -/
def joined (mode : Mode) (left : Option LeftSide) (m : Members) : CharSet × Nat :=
  let set := if mode.anyCase then .anyCase m.set else m.set
  match left with
  | none => (set, m.height)
  | some l => (l.operation.apply l.set set, max l.height m.height + 1)

def complemented? (mode : Mode) (negated : Bool) (set : CharSet) : Option CharSet :=
  if negated then if mode.allScripts then some (.complement set) else none else some set

/-- The cases of characters are known in ASCII only. -/
def knowsCases (mode : Mode) : Bool := !mode.anyCase || !mode.allScripts

/-- The rest of a named class, after its first bracket. -/
def readNamed? (mode : Mode) : List Char → Option (Option CharSet × List Char)
  | ':' :: cs =>
    let (negated, cs) := match cs with
      | '^' :: rest => (true, rest)
      | rest => (false, rest)
    match CharSet.named? (String.ofList (cs.takeWhile (· ≠ ':'))), cs.dropWhile (· ≠ ':') with
    | some set, ':' :: ']' :: rest =>
      some (if knowsCases mode then complemented? mode negated set else none, rest)
    | _, _ => none
  | _ => none

/-- A character as it stands, or an escape. Bytes beyond ASCII are no characters. -/
def readMember? (mode : Mode) (cs : List Char) : Option (Escape × List Char) :=
  let found := match cs with
    | '\\' :: rest => readEscape? mode rest
    | c :: rest => some (.char c, rest)
    | [] => none
  match found with
  | some (.char c, rest) =>
    if knowsCases mode && (mode.allScripts || c.toNat < 128) then some (.char c, rest) else none
  | other => other

/-- One member or a range. A dash before the closing bracket or another dash makes no range. -/
def readRange? (mode : Mode) (cs : List Char) : Option (CharSet × List Char) :=
  match readMember? mode cs with
  | none => none
  | some (first, rest) =>
    match mode.skip rest with
    | '-' :: after =>
      let next := mode.peek? after
      if next = some ']' ∨ next = some '-' then alone first ('-' :: after)
      else
        match first, readMember? mode (mode.skip after) with
        | .char a, some (.char b, rest) => if a ≤ b then some (.range a b, rest) else none
        | _, _ => none
    | rest => alone first rest
where
  alone (member : Escape) (rest : List Char) : Option (CharSet × List Char) :=
    match member with
    | .char c => some (.single c, rest)
    | .set set => some (set, rest)
    | .look _ => none

/-- The members that can only stand first: dashes, or else a closing bracket. -/
def opening (mode : Mode) (cs : List Char) : Members × List Char :=
  match mode.run (· = '-') cs with
  | ([], ']' :: rest) => (Members.empty.add (.single ']') 0, mode.skip rest)
  | (dashes, rest) => (dashes.foldl (fun m c => m.add (.single c) 0) .empty, rest)

mutual

/-- A set after its opening bracket. The number bounds the depth of the recursion. -/
def readBracket? (mode : Mode) : Nat → List Char → Option (CharSet × Nat × List Char)
  | 0, _ => none
  | fuel + 1, cs =>
    let (negated, cs) := match mode.skip cs with
      | '^' :: rest => (true, mode.skip rest)
      | rest => (false, rest)
    let (first, cs) := opening mode cs
    if first.count > 0 && !knowsCases mode then none
    else
      match readMembers? mode fuel none first cs with
      | none => none
      | some (set, height, rest) =>
        (complemented? mode negated set).map fun set => (set, height + 1, rest)

/-- The members up to the closing bracket, after those that were read before. -/
def readMembers? (mode : Mode) :
    Nat → Option LeftSide → Members → List Char → Option (CharSet × Nat × List Char)
  | 0, _, _, _ => none
  | fuel + 1, left, m, cs =>
    let operate (operation : SetOperation) (rest : List Char) :=
      let (set, height) := joined mode left m
      readMembers? mode fuel (some ⟨operation, set, height⟩) .empty rest
    match mode.skip cs with
    | [] => none
    | ']' :: rest =>
      let (set, height) := joined mode left m
      some (set, height, rest)
    | '&' :: '&' :: rest => operate .intersection rest
    | '-' :: '-' :: rest => operate .difference rest
    | '~' :: '~' :: rest => operate .exclusive rest
    | '[' :: rest =>
      match readNamed? mode rest with
      | some (none, _) => none
      | some (some set, rest) => readMembers? mode fuel left (m.add set 0) rest
      | none =>
        match readBracket? mode fuel rest with
        | none => none
        | some (set, depth, rest) => readMembers? mode fuel left (m.add set depth) rest
    | rest =>
      match readRange? mode rest with
      | none => none
      | some (set, rest) => readMembers? mode fuel left (m.add set 0) rest

end

end Pattern
end ScriptBind
