import LanguageBridge.Serving

/-!
The program as a whole: its first argument names the settings, the editor is at its standard input
and output, and it ends when the editor does.
-/
namespace LanguageBridge.CommandLine

/-- What the program gets ready before it listens: its settings are read and its log is made. -/
def prepare (host : Host) (tree : FileTree) (arguments : List String) : Outcome Serving := do
  let settings ← Settings.ofFile host.environment tree (arguments.head?.getD "")
  let file ← settings.logFile host.environment
  let tree ← Outcome.ofSystem (tree.openForAppend file)
  return Serving.begin { settings, host } tree

/-- The exit code of a program that could not get ready. -/
def failureCode : Nat := 1

end LanguageBridge.CommandLine
