import LanguageBridge.Editor.Actions
import LanguageBridge.Session.Stop

/-!
What the editor tells as it happens. Events are handled in the order in which they come; everything
else the editor sends is done by threads of its own.
-/
namespace LanguageBridge.Editor

/-- Whether a method tells of an event. -/
def isEvent (method : String) : Bool :=
  ["textDocument/didOpen", "textDocument/didChange", "textDocument/didSave",
    "textDocument/didClose", "vlc/cursorMoved", "vlc/bufEnter", "vlc/winClosed",
    "vlc/shutdown"].contains method

/-- Takes an event about cursor, buffers or windows to the floating preview. -/
def takeFloatEvent (event : FloatEvent) : Job Unit := do
  let effects ← Job.ask (.floatEvent event)
  carryOutAll effects

/-- A document was saved. -/
def documentSaved (name : DocumentName) : Job Unit := do
  match ← Session.trackedContext? name.file with
  | some context => context.didSave name.file
  | none => return

/-- A document was closed; a session without documents is stopped. -/
def documentClosed (name : DocumentName) : Job Unit := do
  match ← Session.trackedContext? name.file with
  | none => return
  | some context =>
    let remaining ← context.didClose name.file
    if remaining = 0 then
      let session ← context.attached
      let _ ← Session.close session.key

/-- Handles an event. -/
def handleEvent (method : String) (params : Json) : Job Unit := do
  if method = "textDocument/didOpen" ∨ method = "textDocument/didChange" then
    Session.syncContent (← Job.ofShaped (BufferContent.read params))
  else if method = "textDocument/didSave" then
    documentSaved (← Job.ofShaped (DocumentName.read params))
  else if method = "textDocument/didClose" then
    documentClosed (← Job.ofShaped (DocumentName.read params))
  else if method = "vlc/cursorMoved" then
    takeFloatEvent (← Job.ofShaped (FloatEvent.readCursorMoved params))
  else if method = "vlc/bufEnter" then
    takeFloatEvent (← Job.ofShaped (FloatEvent.readBufferEntered params))
  else if method = "vlc/winClosed" then
    takeFloatEvent (← Job.ofShaped (FloatEvent.readWindowClosed params))
  else if method = "vlc/shutdown" then Session.shutdownAll

theorem handleEvent_didClose {params : Json} {name : DocumentName}
    (read : DocumentName.read params = .ok name) :
    handleEvent "textDocument/didClose" params = documentClosed name := by
  change (Job.ofShaped (DocumentName.read params) >>= fun name => documentClosed name) = _
  rw [read]
  rfl

end LanguageBridge.Editor
