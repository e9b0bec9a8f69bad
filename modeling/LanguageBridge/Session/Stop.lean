import LanguageBridge.Server.Requests
import LanguageBridge.Session.Start

/-!
Stopping servers. Each is stopped by a thread of its own, which asks it to get ready and then tells
it to end.
-/
namespace LanguageBridge.Session

/-- Stops the server of a session. -/
def stop (session : Session) : Job Unit := do
  let context := Context.ofSession session
  let _ ← Job.attempt (do
    context.shutdown
    context.exit)
  session.endProcess

/-- Takes the session of a key out of use and has its server stopped; gives the thread that does
it. -/
def close (key : SessionKey) : Job (Option Nat) := do
  match ← Job.ask (.unregister key) with
  | none => return none
  | some session => return some (← Job.ask (.fork (.stopSession session)))

/-- Has servers stopped and gives the threads that do it. -/
def stopAll : List Session → Job (List Nat)
  | [] => return []
  | session :: rest => do
    let thread ← Job.ask (.fork (.stopSession session))
    let threads ← stopAll rest
    return thread :: threads

/-- Takes all sessions out of use and waits until their servers are stopped. -/
def shutdownAll : Job Unit := do
  let sessions ← Job.ask .drain
  let threads ← stopAll sessions
  threads.forM fun thread => do
    let _ ← Job.ask (.join thread)

end LanguageBridge.Session
