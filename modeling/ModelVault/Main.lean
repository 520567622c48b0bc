import ModelVault.CommandLine.Execution

/-!
The program: it reads the command line, lets the command ask the system, and reports how it ended. It has no
connections to other hosts, so it finds no service, secures nothing and takes no address to listen on.
-/

namespace ModelVault

/-- Why the system refuses a file. -/
def FileError.ofSystem : IO.Error → FileError
  | .noFileOrDirectory _ _ _ => .notFound
  | .permissionDenied _ _ _ => .permissionDenied
  | .inappropriateType _ _ _ => .isDirectory
  | _ => .other

def onFile (action : IO α) : IO (Except FileError α) := do
  try
    return .ok (← action)
  catch error =>
    return .error (.ofSystem error)

/-- The variables of the environment. -/
def readEnvironment : IO Environment := do
  match ← onFile (IO.FS.readBinFile "/proc/self/environ") with
  | .error _ => return []
  | .ok contents =>
    let entries := ((String.fromUTF8? contents).getD "").splitOn "\x00"
    return entries.filterMap CommandLine.splitEntry?

def replyTo : (effect : Effect) → IO effect.Reply
  | .holdsFile path => return (← onFile (IO.FS.readBinFile path)).isOk
  | .readFile path => return (← onFile (IO.FS.readBinFile path)).map fun contents => contents.data.toList
  | .writeFile path contents => onFile (IO.FS.writeBinFile path ⟨contents.toArray⟩)
  | .print contents => do
    let output ← IO.getStdout
    output.write ⟨contents.toArray⟩
    output.flush
  | .note line => IO.eprintln line
  | .connect _ => return false
  | .request _ => return .error ⟨.unimplemented, "no service"⟩
  | .secure _ => return false
  | .listen _ => return false
  | .openStore engine connection =>
    return (Storage.Store.create (fun _ => none) engine connection).map fun _ => ()
  | .serve _ _ => return ()
  | .closeStore => return .ok ()

/-- Let a computation ask the system. -/
def perform : Dialogue Effect Effect.Reply α → IO α
  | .done result => return result
  | .ask effect next => do
    let reply ← replyTo effect
    perform (next reply)

end ModelVault

open ModelVault in
/-- Do what the command line says. -/
def main (arguments : List String) : IO UInt32 := do
  let environment ← readEnvironment
  match Command.read environment arguments with
  | .error fault =>
    IO.eprintln fault.message
    return if fault = .displayHelp then 0 else 2
  | .ok command =>
    match ← perform (command.task.run .standard environment).run with
    | .ok () => return 0
    | .error failure =>
      IO.eprintln failure.report
      return 1
