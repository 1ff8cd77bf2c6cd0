import Reconcile.CommandLine.Run

/-!
# The command line program

Reads the files that an invocation names, prints what the invocation prints, and ends with its
exit code.
-/

namespace Reconcile.CommandLine

/-- What is found under the name of a file. -/
def readContent (name : String) : IO Content := do
  try
    return .text (← IO.FS.readFile name)
  catch error =>
    match error with
    | .noFileOrDirectory _ _ _ => return .absent
    | _ => return .unreadable

/-- The files of some names, each read once. -/
def readFiles (names : List String) : IO Files := do
  let contents ← names.mapM fun name => do return (name, ← readContent name)
  return fun name => (lookup name contents).getD .absent

/-- Carry out an invocation. -/
def carryOut (invocation : Invocation) : IO UInt32 := do
  let usual := ((← IO.getEnv "HOME").getD "") ++ "/" ++ usualConfig
  let files ← readFiles (invocation.config.getD usual :: invocation.command.fileNames)
  let region ← IO.getEnv Config.regionVariable
  let account ← IO.getEnv Config.accountVariable
  let environment (name : String) : Option String :=
    if name = Config.regionVariable then region
    else if name = Config.accountVariable then account
    else none
  let printout := invocation.run files usual environment
  IO.print printout.printed
  match printout.refusal with
  | some refusal => IO.eprint refusal.failure.advice.report
  | none => pure ()
  return printout.exitCode.toUInt32

/-- Do what the arguments ask for. -/
def respond (arguments : List String) : IO UInt32 := do
  match Invocation.ofArguments arguments with
  | .ok invocation => carryOut invocation
  | .error usage =>
    if usage = .version then IO.println versionText
    else if usage.isWanted then IO.println helpText
    else IO.eprintln (usage.message ++ "\n\n" ++ helpText)
    return usage.exitCode.toUInt32

end Reconcile.CommandLine

/-- The program. -/
def main (arguments : List String) : IO UInt32 := Reconcile.CommandLine.respond arguments
