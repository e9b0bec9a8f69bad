import LanguageBridge.Path
import LanguageBridge.Text.Lines
import LanguageBridge.Text.Utf8

/-!
A file system as plain data: which paths are files with what bytes and which are directories, and
where relative paths start.
-/
namespace LanguageBridge

/-- Why the system refuses to open or read a path. -/
inductive SystemError
  | notFound
  | notPermitted
  | notDirectory
  | isDirectory
  | nameTooLong
  | nulInPath
  | nulInCommand
  | notText
  | cutShort
  deriving DecidableEq, Repr

/-- The system's wording of the error. -/
def SystemError.message : SystemError → String
  | .notFound => "No such file or directory (os error 2)"
  | .notPermitted => "Permission denied (os error 13)"
  | .notDirectory => "Not a directory (os error 20)"
  | .isDirectory => "Is a directory (os error 21)"
  | .nameTooLong => "File name too long (os error 36)"
  | .nulInPath => "file name contained an unexpected NUL byte"
  | .nulInCommand => "nul byte found in provided data"
  | .notText => "stream did not contain valid UTF-8"
  | .cutShort => "failed to fill whole buffer"

/-- What a path leads to. -/
inductive FileNode
  | file (bytes : List UInt8)
  | directory
  deriving DecidableEq, Repr

/-- Files and directories by the names from the root down; the root itself is always there. -/
structure FileTree where
  workingDirectory : List String
  nodes : List (List String × FileNode)
  deriving Repr

namespace FileTree

/-- The node at resolved names. -/
def node? (tree : FileTree) (names : List String) : Option FileNode :=
  if names = [] then some .directory
  else (tree.nodes.find? fun entry => entry.1 = names).map (·.2)

/-- Follows components from a directory, `..` leading upwards. -/
def follow (tree : FileTree) (names : List String) : List String → Except SystemError (List String)
  | [] => .ok names
  | component :: rest =>
    match tree.node? names with
    | some .directory =>
      if component = ".." then follow tree names.dropLast rest
      else if 255 < component.utf8ByteSize then .error .nameTooLong
      else if (tree.node? (names ++ [component])).isSome then
        follow tree (names ++ [component]) rest
      else .error .notFound
    | some (.file _) => .error .notDirectory
    | none => .error .notFound

/-- The resolved names of a path. -/
def resolve (tree : FileTree) (path : String) : Except SystemError (List String) := do
  if path.toList.contains '\x00' then throw .nulInPath
  if path = "" then throw .notFound
  if 4096 ≤ path.utf8ByteSize then throw .nameTooLong
  let start := if Path.isAbsolute path then [] else tree.workingDirectory
  let names ← follow tree start (Path.components path)
  let last := (Path.pieces path.toList).getLast?
  match tree.node? names with
  | some (.file _) =>
    if last = some [] ∨ last = some ['.'] then throw .notDirectory else return names
  | _ => return names

/-- What a path leads to. -/
def lookup (tree : FileTree) (path : String) : Except SystemError FileNode := do
  match tree.node? (← tree.resolve path) with
  | some node => return node
  | none => throw .notFound

/-- Whether a path leads to anything. -/
def holds (tree : FileTree) (path : String) : Bool :=
  match tree.lookup path with
  | .ok _ => true
  | .error _ => false

/-- Whether a path leads to a directory. -/
def isDirectory (tree : FileTree) (path : String) : Bool :=
  match tree.lookup path with
  | .ok .directory => true
  | _ => false

/-- The bytes of a file. -/
def readBytes (tree : FileTree) (path : String) : Except SystemError (List UInt8) := do
  match ← tree.lookup path with
  | .file bytes => return bytes
  | .directory => throw .isDirectory

/-- The text of a file. -/
def readText (tree : FileTree) (path : String) : Except SystemError String := do
  match Utf8.decode (← tree.readBytes path) with
  | .ok text => return text
  | .error _ => throw .notText

/-- The lines of a file as an editor shows them. -/
def readLines (tree : FileTree) (path : String) : Except SystemError (List Text) :=
  (tree.readText path).map fun text => Text.fileLines text.toList

/-- The names of what a directory holds. -/
def namesIn (tree : FileTree) (path : String) : List String :=
  match tree.resolve path with
  | .ok names =>
    match tree.node? names with
    | some .directory =>
      tree.nodes.filterMap fun entry =>
        if entry.1.dropLast = names ∧ entry.1 ≠ [] then entry.1.getLast? else none
    | _ => []
  | .error _ => []

/-- Adds a node and the directories above it, unless something is there already. -/
def add (tree : FileTree) (names : List String) (node : FileNode) : FileTree :=
  let above := (List.range names.length).filterMap fun count =>
    let directory := names.take count
    if (tree.node? directory).isSome then none else some (directory, FileNode.directory)
  { tree with nodes := tree.nodes.filter (·.1 ≠ names) ++ above ++ [(names, node)] }

/-- Opens a file for writing at its end, making it when it is missing. -/
def openForAppend (tree : FileTree) (path : String) : Except SystemError FileTree := do
  match tree.lookup path with
  | .ok (.file _) => return tree
  | .ok .directory => throw .isDirectory
  | .error .notFound =>
    match Path.parent? path, Path.fileName? path with
    | some parent, some name =>
      let directory := if parent = "" then "." else parent
      match tree.node? (← tree.resolve directory) with
      | some .directory =>
        if (Path.pieces path.toList).getLast? = some [] then throw .isDirectory
        return tree.add ((← tree.resolve directory) ++ [name]) (.file [])
      | some (.file _) => throw .notDirectory
      | none => throw .notFound
    | _, _ => throw .notFound
  | .error error => throw error

end FileTree

end LanguageBridge
