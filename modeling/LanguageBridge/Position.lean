import LanguageBridge.Json.Shape

/-!
The two ways to point into a text. An editor counts lines and bytes from one; the protocol counts
lines and UTF-16 units from zero. Converting needs the text of the line; without it a column moves
by plain offset.
-/
namespace LanguageBridge

/-- A place as the editor counts: line and byte column, both from one. -/
structure EditorPosition where
  line : Nat
  column : Nat
  deriving DecidableEq, Repr

/-- A place as the protocol counts: line and UTF-16 unit, both from zero. -/
structure ProtocolPosition where
  line : Nat
  character : Nat
  deriving DecidableEq, Repr

/-- A stretch of text between two places. -/
structure Span where
  start : ProtocolPosition
  stop : ProtocolPosition
  deriving DecidableEq, Repr

namespace ProtocolPosition

/-- Whether a place is not after another, lines first. -/
def notAfter (first second : ProtocolPosition) : Bool :=
  first.line < second.line || (first.line = second.line && first.character ≤ second.character)

/-- Whether a place is before another, lines first. -/
def before (first second : ProtocolPosition) : Bool := !second.notAfter first

end ProtocolPosition

/-- Whether a place lies in a span, both ends included. -/
def Span.contains (span : Span) (position : ProtocolPosition) : Bool :=
  span.start.notAfter position && position.notAfter span.stop

/-- The protocol's numbers have 32 bits; a larger one keeps its low bits. -/
def narrow (value : Nat) : Nat := value % 4294967296

/-- The place as the protocol counts, given the text of its line if that is known. -/
def EditorPosition.toProtocol (position : EditorPosition) (line : Option Text) :
    ProtocolPosition where
  line := narrow (position.line - 1)
  character :=
    match line with
    | some line => narrow (line.unitsBefore (position.column - 1))
    | none => narrow (position.column - 1)

/-- The place as the editor counts, given the text of its line if that is known. -/
def ProtocolPosition.toEditor (position : ProtocolPosition) (line : Option Text) :
    EditorPosition where
  line := position.line + 1
  column :=
    match line with
    | some line => line.byteAt position.character + 1
    | none => position.character + 1

namespace EditorPosition

/-- The fields of an editor's place. -/
def record : Record EditorPosition :=
  mk <$> .required "line" Json.readNat64 <*> .required "column" Json.readNat64

def read : Json → Shaped EditorPosition := record.read "struct Position"

def toJson (position : EditorPosition) : Json :=
  .obj [("line", .nat position.line), ("column", .nat position.column)]

end EditorPosition

namespace ProtocolPosition

def read : Json → Shaped ProtocolPosition :=
  (mk <$> .required "line" Json.readNat32 <*> .required "character" Json.readNat32 :
    Record ProtocolPosition).read "struct Position"

def toJson (position : ProtocolPosition) : Json :=
  .obj [("line", .nat position.line), ("character", .nat position.character)]

end ProtocolPosition

namespace Span

def read : Json → Shaped Span :=
  (mk <$> .required "start" ProtocolPosition.read <*> .required "end" ProtocolPosition.read :
    Record Span).read "struct Range"

def toJson (span : Span) : Json :=
  .obj [("start", span.start.toJson), ("end", span.stop.toJson)]

end Span

end LanguageBridge
