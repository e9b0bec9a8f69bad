import LanguageBridge.Editor.Input
import LanguageBridge.Rpc.Message

/-!
The texts that messages of the editor carry for servers.
-/
namespace LanguageBridge

/-- The text that comes with a place of the cursor. -/
def CursorPlace.content? (cursor : CursorPlace) : Option BufferContent :=
  cursor.text.map fun text => ⟨cursor.file, text, cursor.language⟩

/-- The text that a message of the editor carries for a server. What is only looked up among the
diagnostics is no matter of a server. -/
def contentOf (method : String) (params : Json) : Option BufferContent :=
  if method = "textDocument/didOpen" ∨ method = "textDocument/didChange" then
    (BufferContent.read params).toOption
  else if method = "textDocument/rename" then
    (RenameRequest.read params).toOption.bind (·.cursor.content?)
  else if method = "workspace/symbol" then
    (SymbolSearch.read params).toOption.bind (·.cursor.content?)
  else if ["textDocument/definition", "textDocument/references", "textDocument/hover",
      "textDocument/documentSymbol"].contains method then
    (CursorPlace.read params).toOption.bind (·.content?)
  else none

/-- The text that a message carries for a server. -/
def Message.content? : Message → Option BufferContent
  | .call _ _ method params => contentOf method params.toJson
  | .notification _ method params => contentOf method params.toJson
  | .response _ => none

end LanguageBridge
