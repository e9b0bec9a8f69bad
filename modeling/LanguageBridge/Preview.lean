import LanguageBridge.Diagnostic
import LanguageBridge.Text.Blank
import LanguageBridge.Text.Lines

/-!
What the editor previews: the content of a hover answer, and the diagnostics at a place.
-/
namespace LanguageBridge

/-- Lines to show in a buffer of their own. -/
structure Preview where
  name : String
  filetype : String
  lines : List Text
  deriving DecidableEq, Repr

def Preview.toJson (preview : Preview) : Json :=
  .obj [("name", .str preview.name), ("filetype", .str preview.filetype),
    ("lines", .arr (preview.lines.map .text))]

/-- A kind of markup. -/
inductive MarkupKind
  | plaintext
  | markdown
  deriving DecidableEq, Repr

namespace MarkupKind

def name : MarkupKind → String
  | .plaintext => "plaintext"
  | .markdown => "markdown"

def read : Json → Shaped MarkupKind :=
  Json.readVariant [("plaintext", .plaintext), ("markdown", .markdown)]

end MarkupKind

/-- A text, or code in some language. -/
inductive MarkedText
  | markdown (text : Text)
  | code (language : String) (text : Text)
  deriving DecidableEq, Repr

/-- The forms of a hover answer. -/
inductive Hover
  | one (text : MarkedText)
  | many (texts : List MarkedText)
  | markup (kind : MarkupKind) (text : Text)
  deriving DecidableEq, Repr

namespace MarkedText

def read : Json → Shaped MarkedText :=
  Json.readEither "MarkedString"
    [fun json => (Json.readText json).map .markdown,
      (code <$> .required "language" Json.readString <*> .required "value" Json.readText :
        Record MarkedText).read "struct LanguageString"]

/-- The type of file that shows the text best. -/
def filetype : MarkedText → String
  | .markdown _ => "markdown"
  | .code language _ => language

def text : MarkedText → Text
  | .markdown text => text
  | .code _ text => text

end MarkedText

namespace Hover

def readMarkup : Json → Shaped Hover :=
  (markup <$> .required "kind" MarkupKind.read <*> .required "value" Json.readText :
    Record Hover).read "struct MarkupContent"

def readContents : Json → Shaped Hover :=
  Json.readEither "HoverContents"
    [fun json => (MarkedText.read json).map .one,
      fun json => (Json.readList MarkedText.read json).map .many,
      readMarkup]

def read : Json → Shaped Hover :=
  ((fun contents _ => contents) <$> .required "contents" readContents
    <*> .optional "range" Span.read : Record Hover).read "struct Hover"

/-- The texts of an answer. -/
def texts : Hover → List Text
  | .one text => [text.text]
  | .many texts => texts.map (·.text)
  | .markup _ text => [text]

/-- The type of file that shows the answer best, decided by its first text. -/
def filetype : Hover → String
  | .one text => text.filetype
  | .many texts => (texts.head?.map (·.filetype)).getD ""
  | .markup .markdown _ => "markdown"
  | .markup .plaintext _ => ""

/-- Texts with an empty line between them. -/
def joined : List Text → Text
  | [] => []
  | [text] => text
  | text :: rest => text ++ '\n' :: '\n' :: joined rest

/-- The buffer that holds hover answers when no window can float. -/
def bufferName : String := "__VLCHover__"

/-- The lines to show, unless there is nothing but white space. -/
def preview? (hover : Hover) : Option Preview :=
  let text := Text.trim (joined hover.texts)
  if text.isEmpty then none
  else
    some
      { name := bufferName
        filetype := hover.filetype
        lines := (Text.pieces text).map Text.trimEnd }

end Hover

namespace Diagnostic

/-- The buffer that holds explanations. -/
def explanationBuffer : String := "__VLCExplainError__"

/-- A numbered diagnostic with its source. -/
def explained (number : Nat) (diagnostic : Diagnostic) : String :=
  match diagnostic.source with
  | some source => s!"{number}. {source}: {diagnostic.message}"
  | none => s!"{number}. {diagnostic.message}"

/-- The lines of diagnostics numbered from `number` on. -/
def explanationLines (number : Nat) : List Diagnostic → List Text
  | [] => []
  | diagnostic :: rest =>
    Text.pieces (diagnostic.explained number).toList ++ explanationLines (number + 1) rest

/-- The explanation of diagnostics. -/
def explanation (diagnostics : List Diagnostic) : Preview where
  name := explanationBuffer
  filetype := ""
  lines := explanationLines 1 diagnostics

end Diagnostic

end LanguageBridge
