import LanguageBridge.Editor.Commands
import LanguageBridge.ProjectRoot
import LanguageBridge.Session.Start

/-!
Content for sessions that are starting. It waits in the order in which it came and goes out before
anything later, because whoever sends it holds the queue.
-/
namespace LanguageBridge.Session

/-- Sends content to the server one after the other; failures are shown to the user. -/
def sendAll (session : Session) : List BufferContent → Job Unit
  | [] => return
  | content :: rest => do
    match ← Job.attempt ((Context.ofSession session).sync content.file content.text) with
    | .ok _ => sendAll session rest
    | .error failure =>
      Job.ofScript (Editor.report failure)
      sendAll session rest

/-- Sends what has been queued for a session. -/
def flushQueue (session : Session) : Job Unit :=
  Job.holding .queue .exclusive do
    let queue ← Job.ask .queue
    match queue.get? session.key with
    | none => return
    | some contents =>
      let _ ← Job.ask (.setQueue (queue.erase session.key))
      session.sendAll contents

/-- Forgets what has been queued for a key. -/
def discardQueue (key : SessionKey) : Job Unit :=
  Job.holding .queue .exclusive do
    let queue ← Job.ask .queue
    let _ ← Job.ask (.setQueue (queue.erase key))

/-- The key of a file's session. -/
def keyOf (language file : String) : Job SessionKey := do
  let tree ← Job.ask .disk
  Job.ofOutcome (SessionKey.ofFile tree language file)

/-- Starts a session for queued content and sends the content; when the start fails, the content is
forgotten and the user told. -/
def startQueued (setup : Setup) (key : SessionKey) : Job Unit := do
  match ← Job.attempt (getOrStart key (start setup key)) with
  | .ok session => session.flushQueue
  | .error failure =>
    discardQueue key
    Job.ofScript (Editor.report failure)

/-- What to do with content once the queue is held: it joins what is queued for its session, or goes
to the live session, or waits for a session to be started, which is then the answer. -/
def takeIn (key : SessionKey) (content : BufferContent) : Job Bool :=
  Job.holding .queue .exclusive do
    let queue ← Job.ask .queue
    match queue.get? key with
    | some contents =>
      let _ ← Job.ask (.setQueue (queue.insert key (contents ++ [content])))
      return false
    | none =>
      match ← live? key with
      | some session =>
        let _ ← (Context.ofSession session).sync content.file content.text
        return false
      | none =>
        let _ ← Job.ask (.setQueue (queue.insert key [content]))
        return true

/-- Takes content of the editor without waiting for a server to start. -/
def syncContent (content : BufferContent) : Job Unit := do
  let key ← keyOf content.language content.file
  if ← takeIn key content then
    let _ ← Job.ask (.fork (.startQueued key))

/-- The context of work on a file, its session started if need be and all that was queued for it
sent. -/
def contextFor (setup : Setup) (context : Context) : Job Context := do
  let key ← keyOf context.language context.file
  let session ← getOrStart key (start setup key)
  session.flushQueue
  return { context with session := some session }

/-- The context of a document that is tracked, in the session that tracks it; none when either is
gone. -/
def trackedContext? (file : String) : Job (Option Context) := do
  let workspace ← Job.ask .workspace
  match workspace.documents.get? file with
  | none => return none
  | some document =>
    match ← live? document.session with
    | none => return none
    | some session =>
      return some { session := some session, language := document.session.language, file }

end LanguageBridge.Session
