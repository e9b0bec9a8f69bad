import LanguageBridge.Position
import LanguageBridge.Uri.Parser

/-!
Diagnostics as servers publish them and as the editor lists and signs them.
-/
namespace LanguageBridge

/-- How grave a diagnostic is, gravest first. -/
inductive Severity
  | error
  | warning
  | information
  | hint
  deriving DecidableEq, Repr, Inhabited

namespace Severity

/-- The protocol's number. -/
def code : Severity → Nat
  | .error => 1
  | .warning => 2
  | .information => 3
  | .hint => 4

def ofCode : Nat → Severity
  | 1 => .error
  | 2 => .warning
  | 3 => .information
  | _ => .hint

def read (json : Json) : Shaped Severity := (Json.readCode 1 4 json).map ofCode

end Severity

/-- A number or a string, as the protocol mixes them in codes and tokens. -/
inductive NumberOrString
  | number (value : Int)
  | string (value : String)
  deriving DecidableEq, Repr

namespace NumberOrString

def read : Json → Shaped NumberOrString :=
  Json.readEither "NumberOrString"
    [fun json => (Json.readInt32 json).map .number, fun json => (Json.readString json).map .string]

def toJson : NumberOrString → Json
  | .number value => .int value
  | .string value => .str value

end NumberOrString

/-- A span of a file named by its URI. -/
structure Location where
  uri : Uri
  span : Span
  deriving DecidableEq, Repr

namespace Location

def read : Json → Shaped Location :=
  (mk <$> .required "uri" Uri.read <*> .required "range" Span.read : Record Location).read
    "struct Location"

def toJson (location : Location) : Json :=
  .obj [("uri", location.uri.toJson), ("range", location.span.toJson)]

end Location

/-- A place that helps to understand a diagnostic. -/
structure RelatedPlace where
  location : Location
  message : String
  deriving DecidableEq, Repr

/-- Something a server has to say about a span of a document. -/
structure Diagnostic where
  span : Span
  severity : Option Severity := none
  code : Option NumberOrString := none
  codePage : Option Uri := none
  source : Option String := none
  message : String
  related : Option (List RelatedPlace) := none
  tags : Option (List Nat) := none
  data : Option Json := none
  deriving Repr

/-- A member when there is a value. -/
def Json.memberOf {α : Type} (name : String) (write : α → Json) : Option α → List (String × Json)
  | some value => [(name, write value)]
  | none => []

namespace RelatedPlace

def read : Json → Shaped RelatedPlace :=
  (mk <$> .required "location" Location.read <*> .required "message" Json.readString :
    Record RelatedPlace).read "struct DiagnosticRelatedInformation"

def toJson (place : RelatedPlace) : Json :=
  .obj [("location", place.location.toJson), ("message", .str place.message)]

end RelatedPlace

namespace Diagnostic

/-- The page that explains a code. -/
def readCodePage : Json → Shaped Uri :=
  (Record.required "href" Uri.read).read "struct CodeDescription"

def read : Json → Shaped Diagnostic :=
  (mk <$> .required "range" Span.read <*> .optional "severity" Severity.read
    <*> .optional "code" NumberOrString.read <*> .optional "codeDescription" readCodePage
    <*> .optional "source" Json.readString <*> .required "message" Json.readString
    <*> .optional "relatedInformation" (Json.readList RelatedPlace.read)
    <*> .optional "tags" (Json.readList (Json.readCode 1 2))
    <*> .optional "data" Json.readAny : Record Diagnostic).read "struct Diagnostic"

def toJson (diagnostic : Diagnostic) : Json :=
  .obj (("range", diagnostic.span.toJson) ::
    (Json.memberOf "severity" (fun value => .nat value.code) diagnostic.severity ++
      Json.memberOf "code" NumberOrString.toJson diagnostic.code ++
      Json.memberOf "codeDescription" (fun uri => .obj [("href", uri.toJson)])
        diagnostic.codePage ++
      Json.memberOf "source" .str diagnostic.source ++
      ("message", .str diagnostic.message) ::
      (Json.memberOf "relatedInformation" (fun places => .arr (places.map RelatedPlace.toJson))
          diagnostic.related ++
        Json.memberOf "tags" (fun tags => .arr (tags.map .nat)) diagnostic.tags ++
        Json.memberOf "data" id diagnostic.data)))

end Diagnostic

/-- A diagnostic as the editor shows it. -/
structure ShownDiagnostic where
  file : String
  position : EditorPosition
  message : String
  severity : Severity
  deriving DecidableEq, Repr

/-- A mark beside a line of the editor. -/
structure Sign where
  id : Nat
  line : Nat
  file : String
  name : String
  deriving DecidableEq, Repr

/-- An entry of the editor's quickfix list. -/
structure QuickfixItem where
  file : String
  position : EditorPosition
  message : String
  kind : Char
  deriving DecidableEq, Repr

/-- The name of the sign for a severity. -/
def Severity.signName : Severity → String
  | .error => "VLCSignError"
  | .warning => "VLCSignWarn"
  | .information => "VLCSignInfo"
  | .hint => "VLCSignHint"

/-- The letter of a severity in the quickfix list. -/
def Severity.letter : Severity → Char
  | .error => 'E'
  | .warning => 'W'
  | _ => 'I'

namespace ShownDiagnostic

/-- The diagnostic's sign; its number tells lines and severities apart and has 64 bits. -/
def sign (shown : ShownDiagnostic) : Sign where
  id :=
    (42000 + shown.position.line * Severity.hint.code + shown.severity.code) %
      18446744073709551616
  line := shown.position.line
  file := shown.file
  name := shown.severity.signName

/-- The diagnostic's entry in the quickfix list. -/
def quickfixItem (shown : ShownDiagnostic) : QuickfixItem where
  file := shown.file
  position := shown.position
  message := shown.message
  kind := shown.severity.letter

end ShownDiagnostic

def Sign.toJson (sign : Sign) : Json :=
  .obj [("id", .nat sign.id), ("line", .nat sign.line), ("file", .str sign.file),
    ("sign", .str sign.name)]

def QuickfixItem.toJson (item : QuickfixItem) : Json :=
  .obj [("filename", .str item.file), ("lnum", .nat item.position.line),
    ("col", .nat item.position.column), ("text", .str item.message),
    ("type", .str (String.singleton item.kind))]

end LanguageBridge
