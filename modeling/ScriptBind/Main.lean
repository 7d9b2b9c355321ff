import ScriptBind.Cli.Program

/-!
# ScriptBind.Main

The program on the files of the system.
-/

namespace ScriptBind

/-- An operation of the system, with its failure as a text. -/
def attempted {α : Type} (operation : IO α) : IO (Except FileError α) := do
  try return .ok (← operation)
  catch
    | .noFileOrDirectory _ _ _ => return .error .notFound
    | e => return .error (.other (toString e))

instance : FileStore IO where
  isFile path := do
    match ← attempted (IO.FS.readBinFile path) with
    | .ok _ => return true
    | .error _ => return false
  read path := attempted (IO.FS.readFile path)
  makeDirectory path := attempted (IO.FS.createDirAll path)
  write path text := attempted (IO.FS.writeFile path text)

def usageHint : String := "For more information, try '--help'."

end ScriptBind

open ScriptBind

def main (args : List String) : IO UInt32 := do
  let workingDir ← IO.currentDir
  let outcome ← Program.execute ⟨workingDir.toString, ← IO.getEnv "RUST_LOG"⟩ args
  for line in outcome.log do IO.eprintln line.text
  IO.print outcome.output
  match outcome.ending with
  | .done => pure ()
  | .failed message => IO.eprintln ("error: " ++ message)
  | .misuse => IO.eprintln usageHint
  return outcome.ending.exitCode
