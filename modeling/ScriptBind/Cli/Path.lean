import ScriptBind.Text.Split

/-!
# ScriptBind.Cli.Path

Paths as texts. They are put together and taken apart without a look at the files.

* `Path.join` - a path that is relative to another.
* `Path.parent?` - the path without its last part.
-/

namespace ScriptBind
namespace Path

def join (base path : String) : String :=
  match path.toList with
  | '/' :: _ => path
  | chars =>
    match base.toList.getLast? with
    | none => path
    | some '/' => base ++ path
    | some _ => base ++ "/" ++ String.ofList chars

/-- A part that names nothing: between two slashes, or the dot. -/
def isIdle (part : List Char) : Bool := part = [] || part = ['.']

/-- A part that names no entry of a directory. -/
def isDots (part : List Char) : Bool := part = ['.'] || part = ['.', '.']

def trimIdle (parts : List (List Char)) : List (List Char) :=
  (parts.reverse.dropWhile isIdle).reverse

def ofParts (parts : List (List Char)) : String :=
  String.ofList (List.intercalate ['/'] parts)

/-- The first part stays what it is; it is empty for a path from the root. -/
def parent? (path : String) : Option String :=
  match Text.splitOn '/' path.toList with
  | [] => none
  | first :: rest =>
    match trimIdle rest with
    | [] => if first = [] then none else some ""
    | parts =>
      match trimIdle parts.dropLast with
      | [] => some (if first = [] then "/" else String.ofList first)
      | above => some (ofParts (first :: above))

/-- The path itself, and then the paths above it. -/
def upward : Nat → String → List String
  | 0, path => [path]
  | steps + 1, path =>
    match parent? path with
    | none => [path]
    | some above => path :: upward steps above

end Path
end ScriptBind
