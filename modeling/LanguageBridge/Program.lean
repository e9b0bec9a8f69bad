import LanguageBridge.Editor.Events
import LanguageBridge.Script.System
import LanguageBridge.Server.Inbound

/-!
The threads of the program. The editor's messages are taken one at a time: an event is handled
before the next message is taken, and an action is left to a thread of its own. Every session has a
thread that takes its server's messages.
-/
namespace LanguageBridge.Program

/-- A thread's end without anything to tell. -/
def quiet : Outcome Json := .ok .null

/-- Replies to the editor, if it is still there and waits for a reply. -/
def replyToEditor (id : Option RequestId) (result : Json) : Script Unit :=
  match id with
  | none => return
  | some id => do
    let _ ← (Job.reply .editor id result).run
    return

/-- Does what the editor asked for; a failure is shown to the user. -/
def runAction (setup : Setup) (id : Option RequestId) (method : String) (params : Json) :
    Script Unit := do
  let outcome ← (Editor.act setup method params).run
  match outcome with
  | .ok result => replyToEditor id result
  | .error failure =>
    Editor.report failure
    replyToEditor id .null

/-- Handles an event of the editor; a failure is shown to the user. -/
def runEvent (id : Option RequestId) (method : String) (params : Json) : Script Unit := do
  let outcome ← (Editor.handleEvent method params).run
  match outcome with
  | .ok _ => replyToEditor id .null
  | .error failure =>
    Editor.report failure
    replyToEditor id .null

/-- Handles a message with a method, or leaves it to a thread of its own. -/
def dispatch (id : Option RequestId) (method : String) (params : Json) : Script Unit :=
  if Editor.isEvent method then runEvent id method params
  else do
    let _ ← Script.ask (.fork (.runAction id method params))
    return

/-- Takes the editor's next message, and then leaves the rest to a thread like itself; when the
editor is gone, all servers are stopped. -/
def serveEditor : Script Unit := do
  match ← Script.ask (.receive .editor) with
  | none =>
    let _ ← Session.shutdownAll.run
    return
  | some message =>
    match message with
    | .call _ id method params => dispatch (some id) method params.toJson
    | .notification _ method params => dispatch none method params.toJson
    | .response _ => pure ()
    let _ ← Script.ask (.fork .serveEditor)
    return

/-- Takes the next message of a session's server, and then leaves the rest to a thread like
itself. -/
def serveSession (setup : Setup) (session : Session) : Script Unit := do
  match ← Script.ask (.receive session.peer) with
  | none => return
  | some message =>
    let _ ← (Server.handle setup session message).run
    let _ ← Script.ask (.fork (.serveSession session))
    return

/-- What a thread does. -/
def scriptOf (setup : Setup) (work : Work) : Script (Outcome Json) :=
  match work with
  | .serveEditor => do serveEditor; return quiet
  | .runAction id method params => do runAction setup id method params; return quiet
  | .startQueued key => do
    let _ ← (Session.startQueued setup key).run
    return quiet
  | .serveSession session => do serveSession setup session; return quiet
  | .stopSession session => do
    let _ ← session.stop.run
    return quiet

/-- Lets a thread of the program take its next step. -/
def step (setup : Setup) (system : System) (thread : Nat) : Option System :=
  system.step setup.host (scriptOf setup) thread

/-- Lets threads take steps, always the first that can, until none can or the steps are used up. -/
def settleWithin (setup : Setup) : Nat → System → System
  | 0, system => system
  | steps + 1, system =>
    match (List.range system.threads.length).findSome? (step setup system) with
    | some next => settleWithin setup steps next
    | none => system

/-- More steps than the threads take between two happenings. -/
def stepLimit : Nat := 1000000

/-- Lets threads take steps until all have to wait. -/
def settle (setup : Setup) (system : System) : System := settleWithin setup stepLimit system

end LanguageBridge.Program
