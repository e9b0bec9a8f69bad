import LanguageBridge.CommandLine

/-!
The command line. The editor's bytes are read as they come, and the files that its messages name are
looked at anew each time. No other program is started from here: the command of a server is refused
like one that cannot be found.
-/
namespace LanguageBridge.CommandLine

/-- The words of a text that could name variables. -/
def words (text : String) : List String :=
  ((text.toList.splitBy fun first second =>
      Environment.isNameChar first == Environment.isNameChar second).filter
    (·.any Environment.isNameChar)).map String.ofList

mutual
/-- The strings in a JSON value, names of members apart. -/
def strings : Json → List String
  | .str value => [value]
  | .arr items => stringsOfItems items
  | .obj members => stringsOfMembers members
  | _ => []

/-- The strings in the items of an array. -/
def stringsOfItems : List Json → List String
  | [] => []
  | item :: rest => strings item ++ stringsOfItems rest

/-- The strings in the values of members. -/
def stringsOfMembers : List (String × Json) → List String
  | [] => []
  | (_, value) :: rest => strings value ++ stringsOfMembers rest
end

/-- Adds the variables that a text could name to an environment. -/
def addVariables (environment : Environment) (text : String) : IO Environment :=
  (words text).foldlM (fun environment name => do
    match ← IO.getEnv name with
    | some value => return { values := environment.values.insert name value }
    | none => return environment) environment

/-- Adds what a path leads to, if anything: a directory with the names in it, or a file with its
bytes if they are wanted. -/
def addNode (tree : FileTree) (path : String) (wanted : Bool) : IO FileTree := do
  let names := if Path.isAbsolute path then Path.components path
    else tree.workingDirectory ++ Path.components path
  let here ← IO.currentDir
  let place := here / path
  if ← place.isDir then
    let entries ← try place.readDir catch _ => pure #[]
    return entries.foldl (fun tree entry =>
      let inside := names ++ [entry.fileName]
      if (tree.node? inside).isSome then tree else tree.add inside (.file []))
      (tree.add names .directory)
  else if wanted then
    match ← (IO.FS.readBinFile place).toBaseIO with
    | .ok bytes => return tree.add names (.file bytes.toList)
    | .error _ => return tree
  else return tree

/-- The files at some paths and all directories above them, as they are now. -/
def lookAt (paths : List String) : IO FileTree := do
  let here ← IO.currentDir
  let start : FileTree := { workingDirectory := Path.components here.toString, nodes := [] }
  let tree ← (Path.chain here.toString ++ paths.flatMap fun path => (Path.chain path).drop 1).foldlM
    (fun tree path => addNode tree path false) start
  paths.foldlM (fun tree path => addNode tree path true) tree

/-- Writes the messages to the editor that come after the first `told`. -/
def tell (serving : Serving) (told : Nat) : IO Unit := do
  let output ← IO.getStdout
  for message in serving.messages.drop told do
    output.write ⟨(Frame.encode message.text).toArray⟩
  output.flush

/-- Takes the editor's bytes until there are no more. -/
partial def listen (serving : Serving) : IO Unit := do
  let bytes ← (← IO.getStdin).read 65536
  let told := serving.messages.length
  if bytes.isEmpty then tell serving.close told
  else
    let coming := serving.unread ++ bytes.toList
    let bodies := (Frame.readAll (coming.length + 1) coming).1
    let named := (bodies.filterMap Json.ofText?).flatMap strings
    let tree ← lookAt (named.filter Path.isAbsolute)
    let serving := (serving.occur (.change tree)).feed bytes.toList
    tell serving told
    if !serving.closed then listen serving

/-- Gets the program ready, or says why it cannot be. -/
def setUp (arguments : List String) : IO (Outcome Serving) := do
  let path := arguments.head?.getD ""
  let environment ← addVariables {} ("HOME " ++ path)
  let settingsFile := (environment.expand path).toOption.getD path
  let tree ← lookAt [settingsFile]
  let environment ← addVariables environment ((tree.readText settingsFile).toOption.getD "")
  let logFile := do (← Settings.ofFile environment tree path).logFile environment
  let tree ← lookAt (settingsFile :: logFile.toOption.toList)
  let prepared := prepare { environment } tree arguments
  match prepared, logFile with
  | .ok _, .ok file =>
    let _ ← IO.FS.Handle.mk file .append
    return prepared
  | _, _ => return prepared

end LanguageBridge.CommandLine

open LanguageBridge in
/-- Serves the editor at standard input and output. -/
def main (arguments : List String) : IO UInt32 := do
  match ← CommandLine.setUp arguments with
  | .error failure =>
    IO.eprintln s!"Error: {failure.message}"
    return 1
  | .ok serving =>
    CommandLine.tell serving 0
    CommandLine.listen serving
    return 0
