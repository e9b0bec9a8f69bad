import LanguageBridge.FloatingWindow

/-!
What the editor sends with its messages. Places are given as members of the message itself.
-/
namespace LanguageBridge

/-- The content of a buffer and the language it is in. -/
structure BufferContent where
  file : String
  text : Text
  language : String
  deriving DecidableEq, Repr

/-- A document of a language. -/
structure DocumentName where
  file : String
  language : String
  deriving DecidableEq, Repr

/-- Where the cursor is, perhaps with the buffer's text. -/
structure CursorPlace where
  file : String
  language : String
  buffer : Nat := 0
  window : Nat := 0
  position : EditorPosition
  text : Option Text := none
  deriving DecidableEq, Repr

/-- A symbol to rename and its new name. -/
structure RenameRequest where
  newName : String
  cursor : CursorPlace
  deriving DecidableEq, Repr

/-- A search for symbols. -/
structure SymbolSearch where
  query : String
  cursor : CursorPlace
  deriving DecidableEq, Repr

def BufferContent.read : Json → Shaped BufferContent :=
  (mk <$> .required "text_document" Json.readString <*> .required "text" Json.readText
    <*> .required "language_id" Json.readString : Record BufferContent).read
    "struct TextDocumentContent"

def DocumentName.read : Json → Shaped DocumentName :=
  (mk <$> .required "text_document" Json.readString <*> .required "language_id" Json.readString :
    Record DocumentName).read "struct TextDocumentIdentifier"

namespace CursorPlace

/-- The members of a cursor's place that are not its position. -/
def record : Record (EditorPosition → CursorPlace) :=
  (fun file language buffer window text position =>
      { file, language, buffer, window, position, text })
    <$> .required "text_document" Json.readString <*> .required "language_id" Json.readString
    <*> .defaulted "bufnr" 0 Json.readNat64 <*> .defaulted "winid" 0 Json.readNat64
    <*> .optional "text" Json.readText

def read (json : Json) : Shaped CursorPlace := do
  let (place, position) ← record.readWith "struct CursorPosition"
    (fun members => EditorPosition.read (.obj members)) json
  return place position

end CursorPlace

def RenameRequest.read (json : Json) : Shaped RenameRequest := do
  let (newName, cursor) ← (Record.required "new_name" Json.readString).readWith
    "struct RenameParams" (fun members => CursorPlace.read (.obj members)) json
  return { newName, cursor }

def SymbolSearch.read (json : Json) : Shaped SymbolSearch := do
  let (query, cursor) ← (Record.defaulted "query" "" Json.readString).readWith
    "struct WorkspaceSymbolParams" (fun members => CursorPlace.read (.obj members)) json
  return { query, cursor }

/-- Names and what to register under them. -/
def readMapping : Json → Shaped (List (String × Json)) :=
  (Record.required "mapping" Json.readMembers).read "struct RegistrationParams"

namespace FloatEvent

def readCursorMoved (json : Json) : Shaped FloatEvent := do
  let ((buffer, window), position) ←
    (Prod.mk <$> .required "bufnr" Json.readNat64 <*> .required "winid" Json.readNat64 :
      Record (Nat × Nat)).readWith "struct CursorMoved"
      (fun members => EditorPosition.read (.obj members)) json
  return .cursorMoved buffer window position

def readBufferEntered : Json → Shaped FloatEvent :=
  (bufferEntered <$> .required "bufnr" Json.readNat64 <*> .required "winid" Json.readNat64 :
    Record FloatEvent).read "struct BufEnter"

def readWindowClosed : Json → Shaped FloatEvent :=
  (windowClosed <$> .required "winid" Json.readNat64 : Record FloatEvent).read "struct WinClosed"

end FloatEvent

end LanguageBridge
