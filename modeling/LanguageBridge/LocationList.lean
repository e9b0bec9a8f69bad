import LanguageBridge.Symbol
import LanguageBridge.Text.Blank
import LanguageBridge.Workspace

/-!
Places as the editor lists them or jumps to them: file, line and byte column, and in lists the text
of the line.
-/
namespace LanguageBridge

/-- An entry of a location list. -/
structure LocationItem where
  file : String
  position : EditorPosition
  text : Text
  deriving DecidableEq, Repr

/-- A place in a file. -/
structure FilePosition where
  file : String
  position : EditorPosition
  deriving DecidableEq, Repr

def LocationItem.toJson (item : LocationItem) : Json :=
  .obj [("filename", .str item.file), ("lnum", .nat item.position.line),
    ("col", .nat item.position.column), ("text", .text item.text)]

/-- The entry for a place in a file with these lines. -/
def LocationItem.ofLines (file : String) (lines : List Text) (start : ProtocolPosition) :
    LocationItem where
  file := file
  position := start.toEditor lines[start.line]?
  text := (lines[start.line]?.map Text.trim).getD []

namespace LocationItem

/-- The entries for places, reading each file once; `known` holds the files already read. -/
def collectFrom (linesOf : String → List Text) (known : Table String (List Text)) :
    List Location → Outcome (List LocationItem)
  | [] => .ok []
  | location :: rest => do
    let file ← location.uri.fileName
    let lines := (known.get? file).getD (linesOf file)
    let items ← collectFrom linesOf (known.insert file lines) rest
    return ofLines file lines location.span.start :: items

end LocationItem

namespace Workspace

/-- The lines of a file, none when it cannot be read. -/
def linesOrNone (workspace : Workspace) (tree : FileTree) (file : String) : List Text :=
  match workspace.lines tree file with
  | .ok lines => lines
  | .error _ => []

/-- The entries of a location list. -/
def locationItems (workspace : Workspace) (tree : FileTree) (locations : List Location) :
    Outcome (List LocationItem) :=
  LocationItem.collectFrom (workspace.linesOrNone tree) ∅ locations

/-- Where to jump for a place: its line is the tracked one, or else the one on disk. -/
def jumpTarget (workspace : Workspace) (tree : FileTree) (uri : Uri)
    (position : ProtocolPosition) : Outcome FilePosition := do
  let file ← uri.fileName
  let line :=
    match workspace.line? file position.line with
    | some line => some line
    | none =>
      match tree.readLines file with
      | .ok lines => lines[position.line]?
      | .error _ => none
  return { file, position := position.toEditor line }

end Workspace

end LanguageBridge
