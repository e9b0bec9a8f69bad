import LanguageBridge.Host
import LanguageBridge.Script.Basic

/-!
The state that all threads share, and what each operation does to it.
-/
namespace LanguageBridge

/-- A lock that a thread holds. -/
structure Hold where
  lock : Lock
  mode : LockMode
  thread : Nat
  deriving DecidableEq, Repr

/-- Everything that threads share. Peers that are gone are `dead`, also before they are connected;
`inbox` holds messages that came and were not received, and `silent` are peers that send no more.
`connected` counts the servers of each language and `processes` are those whose process runs here.
`traffic` is all that was said so far. -/
structure World where
  tree : FileTree := ⟨[], []⟩
  workspace : Workspace := {}
  extensions : Extensions := {}
  float : FloatingWindow := .closed
  sessions : Table SessionKey Session := ∅
  queue : Table SessionKey (List BufferContent) := ∅
  held : List Hold := []
  connected : Table String Nat := ∅
  processes : List ServerId := []
  dead : List Peer := []
  inbox : Table Peer (List Message) := ∅
  silent : List Peer := []
  traffic : List Sent := []
  tickets : Nat := 0
  answers : Table Nat (Outcome Json) := ∅
  begun : Nat := 0
  finished : List Nat := []
  forked : List Work := []
  log : List (LogLevel × String) := []

namespace World

instance : Inhabited World := ⟨{}⟩

/-- Whether a peer is still there. -/
def isAlive (world : World) (peer : Peer) : Bool := !world.dead.contains peer

/-- Whether a thread may take a lock: nobody holds it, or all only share it. -/
def admits (world : World) (lock : Lock) (mode : LockMode) : Bool :=
  world.held.all fun hold => hold.lock ≠ lock || (mode = .shared && hold.mode = .shared)

/-- Whether a thread holds a lock that excludes all others. -/
def excludes (world : World) (lock : Lock) (thread : Nat) : Bool :=
  world.held.contains ⟨lock, .exclusive, thread⟩

/-- Whether no other thread excludes this one. -/
def mayRead (world : World) (lock : Lock) (thread : Nat) : Bool :=
  world.held.all fun hold => hold.lock ≠ lock || hold.mode = .shared || hold.thread = thread

/-- Whether the session of a key is there and its server gone. -/
def hasDeadSession (world : World) (key : SessionKey) : Bool :=
  match world.sessions.get? key with
  | some session => !world.isAlive session.peer
  | none => false

/-- Adds to what was said, if the peer is still there. -/
def say (world : World) (sent : Sent) : World × Outcome Unit :=
  if world.isAlive sent.peer then ({ world with traffic := world.traffic ++ [sent] }, .ok ())
  else (world, .error .terminated)

/-- Takes the first message of a peer; nothing when it sends no more, and `none` to wait. -/
def receive (world : World) (peer : Peer) : Option (World × Option Message) :=
  match (world.inbox.get? peer).getD [] with
  | message :: rest => some ({ world with inbox := world.inbox.insert peer rest }, some message)
  | [] => if world.silent.contains peer then some (world, none) else none

/-- Connects one more server of a language. -/
def connect (world : World) (language : String) : World × ServerId :=
  let number := (world.connected.get? language).getD 0 + 1
  ({ world with connected := world.connected.insert language number }, ⟨language, number⟩)

/-- Carries out an operation of a thread; `none` when it has to wait. -/
def perform (host : Host) (thread : Nat) (world : World) :
    (operation : Operation) → Option (World × operation.Answer)
  | .acquire lock mode =>
    if world.admits lock mode then
      some ({ world with held := ⟨lock, mode, thread⟩ :: world.held }, ())
    else none
  | .release lock =>
    some ({ world with
      held := world.held.filter fun hold => hold.lock ≠ lock || hold.thread ≠ thread }, ())
  | .workspace =>
    if world.mayRead .documents thread then some (world, world.workspace) else none
  | .setWorkspace workspace =>
    if world.excludes .documents thread then some ({ world with workspace }, ()) else none
  | .queue => if world.excludes .queue thread then some (world, world.queue) else none
  | .setQueue queue =>
    if world.excludes .queue thread then some ({ world with queue }, ()) else none
  | .disk => some (world, world.tree)
  | .extensions => some (world, world.extensions)
  | .registerServerCommands mapping =>
    let (extensions, results) := world.extensions.registerServerCommands mapping
    some ({ world with extensions }, results)
  | .registerHandlers mapping =>
    let (extensions, results) := world.extensions.registerHandlers mapping
    some ({ world with extensions }, results)
  | .hoverAgain buffer => some (world, world.float.hoverAgain buffer)
  | .floatEvent event =>
    let (float, effects) := world.float.handle event
    some ({ world with float }, effects)
  | .reveal anchor surface =>
    let (float, effects) := world.float.reveal anchor surface
    some ({ world with float }, effects)
  | .session key => some (world, world.sessions.get? key)
  | .isAlive peer => some (world, world.isAlive peer)
  | .dropIfDead key =>
    if world.hasDeadSession key then
      some ({ world with sessions := world.sessions.erase key }, ())
    else some (world, ())
  | .register key session =>
    some ({ world with sessions := world.sessions.insert key session }, ())
  | .unregister key =>
    some ({ world with sessions := world.sessions.erase key }, world.sessions.get? key)
  | .drain => some ({ world with sessions := ∅ }, world.sessions.entries.map (·.2))
  | .spawn language directory program arguments =>
    match host.refusal? world.tree directory program arguments with
    | some error => some (world, .error error)
    | none =>
      let (world, server) := world.connect language
      some ({ world with processes := world.processes ++ [server] }, .ok server)
  | .connect language => some (world.connect language)
  | .endProcess server =>
    some ({ world with processes := world.processes.filter (· ≠ server) }, ())
  | .receive peer => world.receive peer
  | .notify peer method params =>
    some (world.say (.notification peer method (Params.ofJson params)))
  | .reply peer id result => some (world.say (.reply peer id result))
  | .call peer method params =>
    let ticket := world.tickets
    match world.say (.call peer ticket method (Params.ofJson params)) with
    | (world, .ok _) => some ({ world with tickets := ticket + 1 }, .ok ticket)
    | (world, .error failure) => some (world, .error failure)
  | .await ticket => (world.answers.get? ticket).map fun outcome => (world, outcome)
  | .fork work =>
    some ({ world with begun := world.begun + 1, forked := world.forked ++ [work] }, world.begun)
  | .join other => if world.finished.contains other then some (world, ()) else none
  | .log level text => some ({ world with log := world.log ++ [(level, text)] }, ())

end World

end LanguageBridge
