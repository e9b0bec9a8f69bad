import LanguageBridge.Proofs.Arrival.Chronicle
import LanguageBridge.Proofs.Script.Reaches

/-!
Courses of the program moment by moment, with anything happening on the way: servers that do not
start or go away, files that move, documents that are closed. What was told, who was about to do
what and what had come by then is read off the moments of a story.
-/
namespace LanguageBridge

/-- The program at a moment, and what happened up to then. -/
structure Moment where
  system : System
  chronicle : Chronicle

/-- The moments of a course, the last one first. -/
inductive Story (setup : Setup) (tree : FileTree) : List Moment → Prop
  | begin : Story setup tree [⟨listening setup tree, {}⟩]
  | step {now : Moment} {past : List Moment} {next : System} (thread : Nat)
      (story : Story setup tree (now :: past))
      (moved : Program.step setup now.system thread = some next) :
      Story setup tree (⟨next, now.chronicle.step thread now.system next⟩ :: now :: past)
  | happen {now : Moment} {past : List Moment} (happening : Happening)
      (story : Story setup tree (now :: past)) :
      Story setup tree
        (⟨now.system.occur happening, now.chronicle.occur happening⟩ :: now :: past)

/-- A moment that a story may come to. -/
def Moment.Possible (setup : Setup) (tree : FileTree) (moment : Moment) : Prop :=
  ∃ past, Story setup tree (moment :: past)

namespace Moment.Possible

variable {setup : Setup} {tree : FileTree} {state : System × Chronicle}

theorem settle (possible : Moment.Possible setup tree ⟨state.1, state.2⟩) (steps : Nat) :
    Moment.Possible setup tree
      ⟨(Chronicle.settle setup steps state).1, (Chronicle.settle setup steps state).2⟩ := by
  induction steps generalizing state with
  | zero => exact possible
  | succ steps ih =>
    unfold Chronicle.settle
    split
    · rename_i next found
      obtain ⟨thread, _, taken⟩ := List.exists_of_findSome?_eq_some found
      obtain ⟨system, moved, rfl⟩ := Option.map_eq_some_iff.mp taken
      obtain ⟨past, story⟩ := possible
      exact ih ⟨_, .step thread story moved⟩
    · exact possible

/-- What comes of happenings may come of the program. -/
theorem play (possible : Moment.Possible setup tree ⟨state.1, state.2⟩) (steps : Nat)
    (happenings : List Happening) : Moment.Possible setup tree
      ⟨(Chronicle.play setup steps happenings state).1,
        (Chronicle.play setup steps happenings state).2⟩ := by
  induction happenings generalizing state with
  | nil => exact possible
  | cons happening rest ih =>
    obtain ⟨past, story⟩ := possible
    have next : Moment.Possible setup tree
        ⟨state.1.occur happening, state.2.occur happening⟩ := ⟨_, .happen happening story⟩
    exact ih (settle next steps)

end Moment.Possible

/-- Opens on the server every document of the session, once the documents are held. -/
def Session.reopenHeld (session : Session) : Job Unit := do
  let workspace ← Job.ask .workspace
  (workspace.documentsOf session.key).forM fun entry => session.sendOpen entry.1 entry.2

theorem Session.reopen_eq (session : Session) :
    session.reopen = Job.holding .documents .shared session.reopenHeld := rfl

/-- The document and the text that a notice tells. -/
def Notice.told? : Notice → Option (String × Text)
  | .opened uri _ text => some (uri, text)
  | .changed uri _ text => some (uri, text)
  | .closed _ => none

/-- What a server is asked is about a document. -/
def Json.AsksAbout (params : Json) (uri : Uri) : Prop :=
  ∃ members, params = .obj (("textDocument", .obj [("uri", uri.toJson)]) :: members)

/-- The requests about a document that the editor may ask for. -/
def documentRequests : List String :=
  ["textDocument/definition", "textDocument/references", "textDocument/hover",
    "textDocument/rename", "textDocument/documentSymbol"]

namespace Moment

/-- The world at a moment. -/
abbrev world (moment : Moment) : World := moment.system.world

/-- The message of a number has come. -/
def HasCome (index : Nat) (moment : Moment) : Prop := index < moment.chronicle.arrived.length

/-- A thread is about to do a job. -/
def About {α : Type} (job : Job α) (moment : Moment) : Prop :=
  ∃ (thread : Nat) (rest : Outcome α → Script (Outcome Json)),
    moment.system.threads[thread]? = some (job.run.bind rest)

/-- A thread is about to empty the queue of a key and to let go of it. -/
def Discards (key : SessionKey) (moment : Moment) : Prop :=
  ∃ (thread : Nat) (rest : Unit → Script (Outcome Json)), moment.system.threads[thread]? = some
    (.step (.setQueue (moment.world.queue.erase key)) fun _ => .step (.release .queue) rest)

/-- A server was told of a document with a text, up to carriage returns at the ends of lines. -/
def Told (server : ServerId) (uri : Uri) (text : Text) (moment : Moment) : Prop :=
  ∃ notice ∈ moment.world.noticesTo server, ∃ told,
    notice.told? = some (uri.text, told) ∧ told.Alike text

/-- From one moment to the other a server is told of a document with a text, up to carriage returns
at the ends of lines. -/
def Tells (server : ServerId) (uri : Uri) (text : Text) (before after : Moment) : Prop :=
  ∃ sent notice told, after.world.traffic = before.world.traffic ++ [sent] ∧
    Notice.heard? server sent = some notice ∧ notice.told? = some (uri.text, told) ∧
    told.Alike text

/-- A server has answered the first request and was told so. -/
def Introduced (server : ServerId) (moment : Moment) : Prop :=
  .notification (.server server) "initialized" (Params.ofJson (.obj [])) ∈ moment.world.traffic

/-- A server has gone. -/
def Gone (server : ServerId) (moment : Moment) : Prop :=
  moment.world.isAlive (.server server) = false

end Moment

/-- Content of the editor on its way: the message that carries it, the document's name for servers,
and the session that it is for. -/
structure Letter where
  index : Nat
  content : BufferContent
  uri : Uri
  key : SessionKey
  named : Uri.ofFileName content.file = .ok uri

namespace Letter

variable (letter : Letter)

/-- The content is queued. -/
def Queued (queue : Table SessionKey (List BufferContent)) : Prop :=
  ∃ contents, queue.get? letter.key = some contents ∧ letter.content ∈ contents

/-- A thread is about to bring a text for the document to a session's server. -/
def Brings (session : Session) (text : Text) : Moment → Prop :=
  Moment.About (session.syncHeld letter.uri letter.content.file text)

/-- After a server was introduced, a text of some lines for the document is brought to another
server of its session. -/
def Diverted (session : Session) (lines : List Text) (moment : Moment) : Prop :=
  moment.Introduced session.server ∧ ∃ (other : Session) (text : Text),
    other.key = session.key ∧ other.server ≠ session.server ∧ text.splitLines = lines ∧
      letter.Brings other text moment

/-- After the content came, the document belongs to another session. -/
def Moved (moment : Moment) : Prop :=
  moment.HasCome letter.index ∧
    SessionKey.ofFile moment.world.tree letter.content.language letter.content.file ≠
      .ok letter.key

/-- After the content came, it is dropped while it is queued. -/
def Dropped (moment : Moment) : Prop :=
  moment.HasCome letter.index ∧ letter.Queued moment.world.queue ∧ moment.Discards letter.key

/-- After the content came, it is brought to a session's server. -/
def Handed (session : Session) (moment : Moment) : Prop :=
  moment.HasCome letter.index ∧ letter.Brings session letter.content.text moment

/-- The document's tracked lines at a moment, if it belongs to a session. -/
def document? (key : SessionKey) (moment : Moment) : Option Document :=
  moment.world.workspace.ownedBy? key letter.content.file

end Letter

end LanguageBridge

/-!
How threads bear themselves towards content on its way, whatever fails on the way. A thread's
bearing says which locks it holds, what it still has to tell whom while it holds them, and what it
knows for good; each operation turns it, and a script bears itself well when all its operations do.
-/
namespace LanguageBridge

/-- How a thread holds the documents: with others, perhaps to open those of a session, or alone. -/
inductive Grip
  | free
  | shared
  | opening (session : Session) (workspace : Workspace) (told : Bool)
  | entered
  | reading (workspace : Workspace)
  | comparing (session : Session) (text : Text) (workspace : Workspace)
  | telling (session : Session) (text : Text)
  | opened (session : Session) (text : Text) (workspace : Workspace)
  | settled (session : Session) (text : Text)

/-- How a thread holds the queue; `hands` is one that took the content out of it. -/
inductive QueueGrip
  | free
  | held
  | seen (queue : Table SessionKey (List BufferContent))
  | hands

/-- Whether a thread takes the editor's messages, and where it stands with the content then: it is
still to come, it has come and is to be passed on, or it is past. -/
inductive Watch
  | none
  | before
  | owing
  | past
  deriving DecidableEq

/-- Where a thread stands. `late` was started for a message after the content was passed on;
`confirmed` are servers that the thread has introduced, `known` sessions whose documents were opened
or that were in use, `had` sessions to whose servers the content was brought, `cleared` those whose
queue was sent, and `found` tells to which sessions files belong that the thread has looked up. -/
structure Bearing where
  watch : Watch := .none
  late : Bool := false
  documents : Grip := .free
  queue : QueueGrip := .free
  confirmed : List ServerId := []
  known : List Session := []
  had : List Session := []
  cleared : List Session := []
  found : List (String × SessionKey) := []

/-- A thread has the content to pass on. -/
def Bearing.Carries (bearing : Bearing) : Prop := bearing.watch = .owing ∨ bearing.queue = .hands

/-- A thread has found a file's session in use, or put it in use, and has sent its queue. -/
structure Bearing.Serves (bearing : Bearing) (session : Session) (file : String) : Prop where
  known : session ∈ bearing.known
  cleared : session ∈ bearing.cleared
  found : (file, session.key) ∈ bearing.found

/-- What a thread is about to do, as far as it matters. -/
inductive Heading
  | plain
  | drops (queue : Table SessionKey (List BufferContent))
  | opens (session : Session)
  | brings (session : Session) (text : Text)

/-- Operations that may be carried out at any time and change nothing that matters here. -/
def Operation.Plain : Operation → Prop
  | .acquire (.starting _) _ | .release (.starting _) => True
  | .acquire .. | .release _ | .setWorkspace _ | .setQueue _ | .register .. | .fork _
    | .receive .editor => False
  | .call (.server _) method _ => method ∉ documentRequests
  | _ => True

/-- A file is tracked as before, or no longer. -/
def Workspace.Retains (file : String) (before after : Workspace) : Prop :=
  ∀ document, after.documents.get? file = some document → ∃ old,
    before.documents.get? file = some old ∧ old.session = document.session ∧
      old.lines = document.lines

variable {α β : Type} (letter : Letter)

/-- A script is about to do what a heading says. -/
def Script.Heads (script : Script α) : Heading → Prop
  | .plain => True
  | .drops queue => ∃ rest : Unit → Script α,
    script = .step (.setQueue (queue.erase letter.key)) fun _ => .step (.release .queue) rest
  | .opens session => ∃ rest : Outcome Unit → Script α, script = session.reopenHeld.run.bind rest
  | .brings session text => ∃ rest : Outcome Nat → Script α,
    script = (session.syncHeld letter.uri letter.content.file text).run.bind rest

/-- What an operation may answer. Of a message that is received, `due` says that it is the one that
carries the content, and of anything else that the content has come. -/
def Letter.Expects (due : Bool) : (operation : Operation) → operation.Answer → Prop
  | .session key, found => ∀ session : Session, found = some session → session.key = key
  | .receive .editor, received => ∀ message : Message, received = some message → due = true →
    Editor.isEvent message.method = true ∧ message.content? = some letter.content
  | _, _ => True

/-- How an operation turns the bearing of the thread that carries it out; a thread that is started
has a bearing as well. -/
inductive Letter.Turns (due : Bool) (bearing : Bearing) :
    Heading → (operation : Operation) → operation.Answer → Bearing → Option Bearing → Prop
  | plain {operation : Operation} {answer : operation.Answer} (plain : operation.Plain) :
      Turns due bearing .plain operation answer bearing none
  | share (free : bearing.documents = .free) :
      Turns due bearing .plain (.acquire .documents .shared) ()
        { bearing with documents := .shared } none
  | enter (free : bearing.documents = .free) :
      Turns due bearing .plain (.acquire .documents .exclusive) ()
        { bearing with documents := .entered } none
  | greet {session : Session} {workspace : Workspace} {told : Bool}
      (shared : bearing.documents = .shared) (confirmed : session.server ∈ bearing.confirmed)
      (nothing : told = true → workspace.ownedBy? session.key letter.content.file = none) :
      Turns due bearing (.opens session) .workspace workspace
        { bearing with documents := .opening session workspace told } none
  | reopen {session : Session} {workspace : Workspace} {told : Bool} {document : Document}
      (opening : bearing.documents = .opening session workspace told)
      (owned : workspace.ownedBy? session.key letter.content.file = some document) :
      Turns due bearing .plain
        (.notify session.peer "textDocument/didOpen" (document.openParams letter.uri)) (.ok ())
        { bearing with documents := .opening session workspace true } none
  | greeted {session : Session} {workspace : Workspace}
      (opening : bearing.documents = .opening session workspace true) :
      Turns due bearing .plain (.release .documents) ()
        { bearing with documents := .free, known := session :: bearing.known } none
  | read {workspace : Workspace} (entered : bearing.documents = .entered) :
      Turns due bearing .plain .workspace workspace
        { bearing with documents := .reading workspace } none
  | retain {workspace changed : Workspace} (reading : bearing.documents = .reading workspace)
      (retains : workspace.Retains letter.content.file changed) :
      Turns due bearing .plain (.setWorkspace changed) ()
        { bearing with documents := .reading changed } none
  | bring {session : Session} {text : Text} {workspace : Workspace}
      (entered : bearing.documents = .entered) :
      Turns due bearing (.brings session text) .workspace workspace
        { bearing with documents := .comparing session text workspace } none
  | change {session : Session} {text : Text} {workspace : Workspace} {document updated : Document}
      (comparing : bearing.documents = .comparing session text workspace)
      (owned : workspace.ownedBy? session.key letter.content.file = some document)
      (updates : (document.update text).1 = updated) :
      Turns due bearing .plain (.setWorkspace (workspace.track letter.content.file updated)) ()
        { bearing with documents := .telling session text } none
  | tellChange {session : Session} {text : Text} {version : Nat} {outcome : Outcome Unit}
      (telling : bearing.documents = .telling session text) :
      Turns due bearing .plain
        (.notify session.peer "textDocument/didChange"
          (Document.changeParams letter.uri version text))
        outcome { bearing with documents := .settled session text } none
  | tellOpen {session : Session} {text : Text} {workspace : Workspace}
      (comparing : bearing.documents = .comparing session text workspace) :
      Turns due bearing .plain
        (.notify session.peer "textDocument/didOpen"
          ((Document.ofText session.key text).openParams letter.uri))
        (.ok ()) { bearing with documents := .opened session text workspace } none
  | failOpen {session : Session} {text : Text} {workspace : Workspace} {failure : Failure}
      (comparing : bearing.documents = .comparing session text workspace) :
      Turns due bearing .plain
        (.notify session.peer "textDocument/didOpen"
          ((Document.ofText session.key text).openParams letter.uri))
        (.error failure) { bearing with documents := .settled session text } none
  | track {session : Session} {text : Text} {workspace : Workspace}
      (opened : bearing.documents = .opened session text workspace) :
      Turns due bearing .plain
        (.setWorkspace
          (workspace.track letter.content.file (Document.ofText session.key text))) ()
        { bearing with documents := .settled session text } none
  | leave (quiet : ∀ session text, bearing.documents ≠ .telling session text) :
      Turns due bearing .plain (.release .documents) () { bearing with documents := .free } none
  | settle {session : Session} (carries : bearing.Carries)
      (brought : bearing.documents = .settled session letter.content.text ∨
        session ∈ bearing.known ∧ ∃ workspace document,
          bearing.documents = .comparing session letter.content.text workspace ∧
          workspace.ownedBy? session.key letter.content.file = some document ∧
          document.lines = letter.content.text.splitLines) :
      Turns due bearing .plain (.release .documents) ()
        { bearing with documents := .free, had := session :: bearing.had } none
  | hold (free : bearing.queue = .free) :
      Turns due bearing .plain (.acquire .queue .exclusive) () { bearing with queue := .held } none
  | see {queue : Table SessionKey (List BufferContent)} (held : bearing.queue = .held) :
      Turns due bearing .plain .queue queue { bearing with queue := .seen queue } none
  | keep {queue changed : Table SessionKey (List BufferContent)}
      (seen : bearing.queue = .seen queue) (keeps : letter.Queued queue → letter.Queued changed) :
      Turns due bearing .plain (.setQueue changed) () { bearing with queue := .seen changed } none
  | drop {queue : Table SessionKey (List BufferContent)} (seen : bearing.queue = .seen queue) :
      Turns due bearing (.drops queue) (.setQueue (queue.erase letter.key)) ()
        { bearing with queue := .seen (queue.erase letter.key) } none
  | lodge {queue changed : Table SessionKey (List BufferContent)}
      (seen : bearing.queue = .seen queue) (owing : bearing.watch = .owing)
      (queued : letter.Queued changed) :
      Turns due bearing .plain (.setQueue changed) ()
        { bearing with queue := .seen changed, watch := .past } none
  | take {queue : Table SessionKey (List BufferContent)} (seen : bearing.queue = .seen queue)
      (free : bearing.documents = .free) (queued : letter.Queued queue) (come : due = true) :
      Turns due bearing .plain (.setQueue (queue.erase letter.key)) ()
        { bearing with queue := .hands } none
  | early {queue changed : Table SessionKey (List BufferContent)}
      (seen : bearing.queue = .seen queue) (early : due = false) :
      Turns due bearing .plain (.setQueue changed) () { bearing with queue := .seen changed } none
  | letGo (empty : bearing.queue = .hands →
        ∃ session ∈ bearing.had, session.key = letter.key) :
      Turns due bearing .plain (.release .queue) () { bearing with queue := .free } none
  | pass {session : Session} (empty : bearing.queue ≠ .hands) (owing : bearing.watch = .owing)
      (had : session ∈ bearing.had) (own : session.key = letter.key) :
      Turns due bearing .plain (.release .queue) ()
        { bearing with queue := .free, watch := .past } none
  | clear {session : Session}
      (empty : bearing.queue = .hands → session.key = letter.key ∧ session ∈ bearing.had)
      (sent : session.key = letter.key → bearing.queue = .hands ∨
        ∃ queue, bearing.queue = .seen queue ∧ ¬ letter.Queued queue) :
      Turns due bearing .plain (.release .queue) ()
        { bearing with queue := .free, cleared := session :: bearing.cleared } none
  | stray {tree : FileTree} (owing : bearing.watch = .owing)
      (elsewhere : SessionKey.ofFile tree letter.content.language letter.content.file ≠
        .ok letter.key) :
      Turns due bearing .plain .disk tree { bearing with watch := .past } none
  | locate {tree : FileTree} {language file : String} {key : SessionKey}
      (belongs : SessionKey.ofFile tree language file = .ok key) :
      Turns due bearing .plain .disk tree
        { bearing with found := (file, key) :: bearing.found } none
  | find {key : SessionKey} {session : Session} :
      Turns due bearing .plain (.session key) (some session)
        { bearing with known := session :: bearing.known } none
  | register {session : Session} (known : session ∈ bearing.known) :
      Turns due bearing .plain (.register session.key session) () bearing none
  | confirm {server : ServerId} :
      Turns due bearing .plain (.notify (.server server) "initialized" (.obj [])) (.ok ())
        { bearing with confirmed := server :: bearing.confirmed } none
  | receiveDue {message : Message} (here : due = true) (before : bearing.watch = .before)
      (documents : bearing.documents = .free) (queue : bearing.queue = .free) :
      Turns due bearing .plain (.receive .editor) (some message)
        { bearing with watch := .owing } none
  | receive {received : Option Message}
      (other : bearing.watch = .past ∨ bearing.watch = .before ∧ (due = false ∨ received = none)) :
      Turns due bearing .plain (.receive .editor) received bearing none
  | passOn {thread : Nat} (clear : bearing.watch = .before ∨ bearing.watch = .past) :
      Turns due bearing .plain (.fork .serveEditor) thread { bearing with watch := .none }
        (some { watch := bearing.watch })
  | dispatch {id : Option RequestId} {method : String} {params : Json} {thread : Nat}
      (clear : bearing.watch = .before ∨ bearing.watch = .past) :
      Turns due bearing .plain (.fork (.runAction id method params)) thread bearing
        (some { late := decide (bearing.watch = .past) })
  | start {work : Work} {thread : Nat}
      (other : match work with
        | .serveEditor | .runAction .. => False
        | _ => True) :
      Turns due bearing .plain (.fork work) thread bearing (some {})
  | ask {session : Session} {file : String} {uri : Uri} {method : String} {params : Json}
      {outcome : Outcome Nat} (serves : bearing.Serves session file)
      (named : Uri.ofFileName file = .ok uri) (about : params.AsksAbout uri) :
      Turns due bearing .plain (.call session.peer method params) outcome bearing none

/-- A script goes on as its bearing allows, and then comes to a value. -/
def Script.Bears : Script α → Bearing → (α → Bearing → Prop) → Prop
  | .done value, bearing, post => post value bearing
  | .step operation next, bearing, post => ∀ answer due, letter.Expects due operation answer →
    ∃ heading after child, (Script.step operation next).Heads letter heading ∧
      letter.Turns due bearing heading operation answer after child ∧
      Script.Bears (next answer) after post

end LanguageBridge
