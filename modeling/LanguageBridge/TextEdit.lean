import LanguageBridge.Failure
import LanguageBridge.Position
import LanguageBridge.Text.Lines

/-!
Edits of one text. Every span refers to the text as it was, so edits are put in order, refused when
two overlap, and carried out from the back, which leaves the earlier places where they were.
-/
namespace LanguageBridge

/-- A span and the text that takes its place. -/
structure TextEdit where
  span : Span
  newText : Text
  deriving DecidableEq, Repr

/-- The order of spans: by start, then by end. -/
def Span.notAfter (first second : Span) : Bool :=
  first.start.before second.start ||
    (first.start = second.start && first.stop.notAfter second.stop)

/-- A span as messages name it. -/
def Span.text (span : Span) : String :=
  s!"{span.start.line}:{span.start.character}-{span.stop.line}:{span.stop.character}"

namespace TextEdit

def read : Json → Shaped TextEdit :=
  (mk <$> .required "range" Span.read <*> .required "newText" Json.readText :
    Record TextEdit).read "struct TextEdit"

def toJson (edit : TextEdit) : Json :=
  .obj [("range", edit.span.toJson), ("newText", .text edit.newText)]

/-- Edits in the order of their spans; those with one span keep their order. -/
def sorted (edits : List TextEdit) : List TextEdit :=
  edits.mergeSort fun first second => first.span.notAfter second.span

/-- The first two neighbours of which one ends after the other starts. -/
def overlap? : List TextEdit → Option (TextEdit × TextEdit)
  | first :: second :: rest =>
    if second.span.start.before first.span.stop then some (first, second)
    else overlap? (second :: rest)
  | _ => none

/-- How many bytes stand before a line of a text given by its lines. -/
def bytesBefore : List Text → Nat → Nat
  | [], _ => 0
  | _ :: _, 0 => 0
  | line :: rest, index + 1 => line.byteLength + 1 + bytesBefore rest index

/-- The byte offset of a place; one beyond the last line is the end of the text. -/
def offsetOf (lines : List Text) (position : ProtocolPosition) : Nat :=
  match lines[position.line]? with
  | some line => bytesBefore lines position.line + line.byteAt position.character
  | none => (Text.joinLines lines).byteLength

/-- A stretch of bytes and the text that takes its place. -/
structure Placed where
  start : Nat
  stop : Nat
  newText : Text
  deriving DecidableEq, Repr

/-- Where an edit falls in a text given by its lines; it ends no earlier than it starts. -/
def place (lines : List Text) (edit : TextEdit) : Placed :=
  let start := offsetOf lines edit.span.start
  { start, stop := max (offsetOf lines edit.span.stop) start, newText := edit.newText }

/-- Puts the new text in the place of the bytes. -/
def Placed.replace (placed : Placed) (text : Text) : Text :=
  (text.splitAtByte placed.start).1 ++ (placed.newText ++ (text.splitAtByte placed.stop).2)

/-- Carries out replacements from the last to the first. -/
def replaceAll (placed : List Placed) (text : Text) : Text := placed.foldr Placed.replace text

/-- Where each new text starts once all are in place; `added` bytes have come in front and
`removed` bytes have gone. -/
def newStarts (added removed : Nat) : List Placed → List Nat
  | [] => []
  | placed :: rest =>
    (placed.start + added - removed) ::
      newStarts (added + placed.newText.byteLength) (removed + (placed.stop - placed.start)) rest

/-- The part of a text after its last line feed; `line` is the part read so far. -/
def lastLine (line : Text) : Text → Text
  | [] => line
  | c :: rest => if c = '\n' then lastLine [] rest else lastLine (line ++ [c]) rest

/-- The editor's place at a byte offset of a text. -/
def placeAt (text : Text) (offset : Nat) : EditorPosition :=
  let before := (text.splitAtByte offset).1
  { line := before.count '\n' + 1, column := (lastLine [] before).byteLength + 1 }

/-- The outcome of editing: the new lines, and for each edit in order the span it had and the place
where its new text starts. -/
structure Applied where
  lines : List Text
  starts : List (Span × EditorPosition)
  deriving DecidableEq, Repr

/-- Applies edits to the lines of a file. -/
def apply (file : String) (lines : List Text) (edits : List TextEdit) : Outcome Applied :=
  let edits := sorted edits
  match overlap? edits with
  | some (first, second) => .error (.conflict file first.span.text second.span.text)
  | none =>
    let placed := edits.map (place lines)
    let text := replaceAll placed (Text.joinLines lines)
    .ok
      { lines := text.splitLines
        starts := (edits.map (·.span)).zip ((newStarts 0 0 placed).map (placeAt text)) }

/-- How far an edit's span is from a place: lines first, one line more for spans that do not hold
the place. -/
def distance (span : Span) (position : ProtocolPosition) : Nat × Nat :=
  if span.contains position then (0, 0)
  else
    ((span.start.line - position.line) + (position.line - span.start.line) + 1,
      (span.start.character - position.character) + (position.character - span.start.character))

/-- Whether a distance is less than another. -/
def nearer (first second : Nat × Nat) : Bool :=
  first.1 < second.1 || (first.1 = second.1 && first.2 < second.2)

/-- The nearest of some starts; of equally near ones the first. -/
def nearestStart (position : ProtocolPosition) (best : Span × EditorPosition) :
    List (Span × EditorPosition) → EditorPosition
  | [] => best.2
  | candidate :: rest =>
    if nearer (distance candidate.1 position) (distance best.1 position) then
      nearestStart position candidate rest
    else nearestStart position best rest

/-- Where a cursor goes after an edit: to the edit that holds its old place, or to the nearest. -/
def Applied.nearest? (applied : Applied) (position : ProtocolPosition) : Option EditorPosition :=
  match applied.starts with
  | [] => none
  | first :: rest => some (nearestStart position first rest)

end TextEdit

end LanguageBridge
