import LanguageBridge.Document.Sync
import LanguageBridge.Server.Requests
import LanguageBridge.Session.Context

/-!
The sessions in use, one for each key. A session whose server is gone is dropped when it is found;
a new one is started by one thread at a time for each key.
-/
namespace LanguageBridge.Session

/-- The session of a key, if its server is still there. -/
def live? (key : SessionKey) : Job (Option Session) := do
  match ← Job.ask (.session key) with
  | none => return none
  | some session =>
    let alive : Bool ← Job.ask (.isAlive session.peer)
    if alive then return some session
    let _ ← Job.ask (.dropIfDead key)
    return none

/-- Looks for a session again and starts one if there is still none. -/
def startHeld (key : SessionKey) (start : Job Session) : Job Session := do
  match ← live? key with
  | some session => return session
  | none =>
    let session ← start
    let _ ← Job.ask (.register key session)
    return session

/-- The session of a key, started when there is none. -/
def getOrStart (key : SessionKey) (start : Job Session) : Job Session := do
  match ← live? key with
  | some session => return session
  | none => Job.holding (.starting key) .exclusive (startHeld key start)

/-!
Starting a server: its command is run in the project's directory, its messages are read by a thread
of their own, and it is told of the project and of the documents that it should know.
-/

/-- The command that starts the servers of a language: one that was registered, or else one of the
settings that is not empty. -/
def commandFor (setup : Setup) (extensions : Extensions) (language : String) :
    Option (List String) :=
  match extensions.serverCommand? language with
  | some words => some words
  | none =>
    ((setup.settings.servers.get? language).map (·.command)).filter fun words => !words.isEmpty

/-- Ends the server's process, if it runs here. -/
def endProcess (session : Session) : Job Unit := do
  if session.ownsProcess then
    let _ ← Job.ask (.endProcess session.server)

/-- Tells a server of its project and of its documents. A server that does not get so far is
ended. -/
def introduceAll (setup : Setup) (session : Session) : Job Session := do
  let options := (setup.settings.servers.get? session.key.language).bind (·.initializationOptions)
  let introduced ← Job.attempt (do
    let capabilities ← session.introduce setup options
    session.confirm
    return capabilities)
  match introduced with
  | .error failure =>
    session.endProcess
    throw (.unavailable session.key.language s!"initialize failed: {failure.message}")
  | .ok capabilities =>
    match ← Job.attempt session.reopen with
    | .error failure =>
      session.endProcess
      throw failure
    | .ok _ => return { session with capabilities }

/-- Starts a session. -/
def start (setup : Setup) (key : SessionKey) : Job Session := do
  let extensions ← Job.ask .extensions
  match commandFor setup extensions key.language with
  | none | some [] => throw (.unavailable key.language "no server command configured")
  | some (word :: arguments) =>
    match setup.host.environment.expand word with
    | .error failure => throw (.unavailable key.language failure.message)
    | .ok program =>
      match ← Job.ask (.spawn key.language key.root program arguments) with
      | .error error =>
        throw (.unavailable key.language s!"could not run {program}: {error.message}")
      | .ok server =>
        let session : Session := { key, server, ownsProcess := true }
        let _ ← Job.ask (.fork (.serveSession session))
        introduceAll setup session

end LanguageBridge.Session
