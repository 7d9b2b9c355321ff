import ScriptBind.Cli.Path

/-!
# ScriptBind.Cli.Files

What the commands need of a file system, and a file system that is a value.

* `FileStore` - the operations on files.
* `Files` - files by their places; `Files.place` finds the place that a path leads to.
-/

namespace ScriptBind

inductive FileError where
  | notFound
  | notDirectory
  | isDirectory
  | alreadyExists
  | nameTooLong
  | nulInPath
  | other (message : String)
deriving DecidableEq, Repr

def FileError.message : FileError → String
  | .notFound => "No such file or directory (os error 2)"
  | .notDirectory => "Not a directory (os error 20)"
  | .isDirectory => "Is a directory (os error 21)"
  | .alreadyExists => "File exists (os error 17)"
  | .nameTooLong => "File name too long (os error 36)"
  | .nulInPath => "file name contained an unexpected NUL byte"
  | .other message => message

class FileStore (m : Type → Type) where
  isFile : String → m Bool
  read : String → m (Except FileError String)
  /-- Make a directory and the directories above it, unless they are there. -/
  makeDirectory : String → m (Except FileError Unit)
  write (path text : String) : m (Except FileError Unit)

/-- The names on the way from the root. -/
abbrev Place := List String

structure Files where
  files : List (Place × String)
  directories : List Place
deriving DecidableEq, Repr

namespace Files

def empty : Files := ⟨[], [[]]⟩

def file? (fs : Files) (place : Place) : Option String := fs.files.lookup place

def isDirectory (fs : Files) (place : Place) : Bool := fs.directories.contains place

/-- Names have at most this many bytes. -/
def maxName : Nat := 255

/-- Whole paths have at most this many bytes. -/
def maxPath : Nat := 4095

/-- The parts of a path that can lead to a place. -/
def partsOf (path : String) : Except FileError (List (List Char)) :=
  if path.contains '\x00' then .error .nulInPath
  else if maxPath < path.utf8ByteSize then .error .nameTooLong
  else .ok (Text.splitOn '/' path.toList)

/-- Go on from a directory by one part of a path. -/
def enter (fs : Files) (place : Place) (part : List Char) : Except FileError Place :=
  if fs.isDirectory place then
    if part = [] || part = ['.'] then .ok place
    else if part = ['.', '.'] then .ok place.dropLast
    else if maxName < (String.ofList part).utf8ByteSize then .error .nameTooLong
    else .ok (place ++ [String.ofList part])
  else if (fs.file? place).isSome then .error .notDirectory
  else .error .notFound

def walk (fs : Files) (place : Place) : List (List Char) → Except FileError Place
  | [] => .ok place
  | part :: rest =>
    match fs.enter place part with
    | .error e => .error e
    | .ok next => fs.walk next rest

/-- The place that a path leads to, whether or not something is there. -/
def place (fs : Files) (path : String) : Except FileError Place :=
  match partsOf path with
  | .error e => .error e
  | .ok parts => fs.walk [] parts

def put (fs : Files) (place : Place) (text : String) : Files :=
  { fs with files := (place, text) :: fs.files.filter (·.1 ≠ place) }

def addDirectory (fs : Files) (place : Place) : Files :=
  if fs.isDirectory place then fs else { fs with directories := place :: fs.directories }

/-- The file at a place, with all directories above it. -/
def add (fs : Files) (place : Place) (text : String) : Files :=
  (((List.range place.length).map place.take).foldl addDirectory fs).put place text

def isFile (fs : Files) (path : String) : Bool :=
  match fs.place path with
  | .ok place => (fs.file? place).isSome
  | .error _ => false

def read (fs : Files) (path : String) : Except FileError String :=
  match fs.place path with
  | .error e => .error e
  | .ok place =>
    match fs.file? place with
    | some text => .ok text
    | none => .error (if fs.isDirectory place then .isDirectory else .notFound)

def isDirectoryAt (fs : Files) (path : String) : Bool :=
  match fs.place path with
  | .ok place => fs.isDirectory place
  | .error _ => false

/-- Make one directory, where nothing is yet; slashes at the end of the path make no difference, but
a dot does not name a directory that is still to be made. -/
def makeOne (fs : Files) (path : String) : Except FileError Files := do
  match (← partsOf path).reverse.dropWhile (· = []) with
  | [] => .error .alreadyExists
  | last :: above =>
    let place ← fs.enter (← fs.walk [] above.reverse) last
    if Path.isDots last || fs.isDirectory place || (fs.file? place).isSome then
      .error .alreadyExists
    else return fs.addDirectory place

/-- A directory that is there already need not be made. -/
def unlessThere (fs : Files) (path : String) : Except FileError Files → Except FileError Files
  | .ok fs => .ok fs
  | .error e => if fs.isDirectoryAt path then .ok fs else .error e

/-- Make the directory, after those above it if they are missing. The number bounds how many there
are. -/
def makeDirectory (fs : Files) (path : String) : Nat → Except FileError Files
  | 0 => .error .notFound
  | n + 1 =>
    match fs.makeOne path with
    | .ok fs => .ok fs
    | .error .notFound =>
      match Path.parent? path with
      | none => .error .notFound
      | some above => do
        let fs ← fs.makeDirectory above n
        fs.unlessThere path (fs.makeOne path)
    | .error e => fs.unlessThere path (.error e)

def write (fs : Files) (path text : String) : Except FileError Files :=
  match fs.place path with
  | .error e => .error e
  | .ok place =>
    if fs.isDirectory place then .error .isDirectory else .ok (fs.put place text)

def changed (fs : Files) (result : Except FileError Files) : Except FileError Unit × Files :=
  match result with
  | .ok fs => (.ok (), fs)
  | .error e => (.error e, fs)

instance : FileStore (StateM Files) where
  isFile path := fun fs => (fs.isFile path, fs)
  read path := fun fs => (fs.read path, fs)
  makeDirectory path := fun fs => fs.changed (fs.makeDirectory path (path.length + 1))
  write path text := fun fs => fs.changed (fs.write path text)

end Files

end ScriptBind
