import Mathlib.Logic.Function.Basic
import LanguageBridge.Proofs.Arrival.Chronicle
import LanguageBridge.Proofs.Script.Idle
import LanguageBridge.Proofs.Script.Performed

/-!
How threads deal with texts and documents, step by step and for each thread alone. A thread has a
stance: which texts it still has to write, which locks it holds and what it knows while it holds
them. A script obeys when every operation fits its stance, whatever the operation may answer.
-/
namespace LanguageBridge

/-- Which session each file of a language belongs to. -/
abbrev Roots := String → String → Outcome SessionKey

/-- A text that a message of the editor carried; messages are counted, and those that tell of events
are told apart. -/
structure Parcel where
  index : Nat
  content : BufferContent
  event : Bool
  deriving DecidableEq

namespace Parcel

/-- The lines that a file gets. -/
def lines (parcel : Parcel) : List Text := parcel.content.text.splitLines

/-- The session that the text is for. -/
def key (roots : Roots) (parcel : Parcel) : Outcome SessionKey :=
  roots parcel.content.language parcel.content.file

end Parcel

/-- The texts that wait for each session. -/
abbrev Waiting := SessionKey → List Parcel

/-- How a thread holds the documents. Whoever holds them for itself knows them once they are read,
and tells the server of each change before or after it. -/
inductive DocumentsHold
  | free
  | shared
  | entered
  | reading (workspace : Workspace)
  | telling (workspace : Workspace) (session : Session) (file : String) (uri : Uri)
      (version : Nat) (text : Text)
  | told (workspace : Workspace) (session : Session) (file : String) (uri : Uri) (text : Text)

/-- How a thread holds the queue. -/
inductive QueueHold
  | free
  | held
  | seen (queue : Table SessionKey (List BufferContent))

/-- Where a thread stands. `editor` takes the editor's messages, and `fresh` is the method of the
last one while it may be given to a thread; `debts` are the texts to be written, the next one first;
`cleared` has sent what was queued for the session of its own text; `edits` may write any text.
`starting` is the key for which a session is started, and whether it was seen to have none; `known`
are sessions in use. -/
structure Stance where
  editor : Bool := false
  fresh : Option String := none
  debts : List Parcel := []
  cleared : Bool := false
  edits : Bool := false
  documents : DocumentsHold := .free
  queue : QueueHold := .free
  starting : Option (SessionKey × Bool) := none
  known : List Session := []

/-- A thread owes no text and holds no documents. -/
structure Stance.Unbound (stance : Stance) : Prop where
  debts : stance.debts = []
  documents : stance.documents = .free

/-- What a thread cannot know by itself: the texts in the queue, and the text of a message that it
takes. -/
structure News where
  queued : Waiting
  parcel : Option Parcel

/-- Texts wait in a queue in the order in which they came, for the session that each is for. -/
def Lined (roots : Roots) (queue : Table SessionKey (List BufferContent)) (queued : Waiting) :
    Prop :=
  ∀ key, queue.get? key =
      (if queued key = [] then none else some ((queued key).map (·.content))) ∧
    (∀ parcel ∈ queued key, parcel.event = true ∧ parcel.key roots = .ok key) ∧
    (queued key).Pairwise fun first second => first.index < second.index

/-- What an operation may answer to a thread. -/
def Expects (roots : Roots) (news : News) (stance : Stance) :
    (operation : Operation) → operation.Answer → Prop
  | .workspace, workspace => stance.documents = .shared →
    ∀ key, stance.starting = some (key, true) → Workspace.documentsOf workspace key = []
  | .setQueue _, _ => ∀ queue, stance.queue = .seen queue → Lined roots queue news.queued
  | .disk, tree => ∀ language file, SessionKey.ofFile tree language file = roots language file
  | .session key, found => ∀ session : Session, found = some session → session.key = key
  | .isAlive _, alive => alive = true
  | .notify .., outcome => outcome = Except.ok ()
  | .receive .editor, received => ∃ message : Message, received = some message ∧
    message.method ≠ "textDocument/didClose" ∧ message.method ≠ "vlc/shutdown" ∧
    message.content? = news.parcel.map (·.content) ∧
    ∀ parcel, news.parcel = some parcel → parcel.event = Editor.isEvent message.method
  | .receive (.server _), received =>
    ∀ message : Message, received = some message → message.method ≠ "workspace/applyEdit"
  | _, _ => True

namespace Operation

/-- Whether an operation shows a failure to the user. -/
def ShowsError : Operation → Prop
  | .notify .editor method params => method = "vim#show_message" ∧
    ∃ message, params = .arr [.obj [("level", .str "Error"), ("message", .str message)]]
  | _ => False

/-- Whether an operation takes messages. -/
def Receives : Operation → Prop
  | .receive _ => True
  | _ => False

end Operation

/-- Every way on from here shows a failure to the user. -/
def Script.Fails {α : Type} : Script α → Prop
  | .done _ => False
  | .step operation next =>
    operation.ShowsError ∨ ¬ operation.Receives ∧ ∀ answer, Script.Fails (next answer)

namespace Stance

/-- A text may be done with: one of an event while its queue is held and empty, one of an action
once its queue has been sent. -/
def Ready (roots : Roots) (stance : Stance) (parcel : Parcel) : Prop :=
  if parcel.event then ∃ queue key, stance.queue = .seen queue ∧ parcel.key roots = .ok key ∧
    queue.get? key = none
  else stance.cleared = true

/-- A thread may write a text: any in an edit, or the next one of its debts. -/
def MayWrite (stance : Stance) (file : String) (text : Text) : Prop :=
  stance.edits = true ∨ ∃ parcel rest, stance.debts = parcel :: rest ∧
    parcel.content.file = file ∧ parcel.content.text = text ∧
    (parcel.event = true ∨ stance.editor = false ∧ stance.cleared = true)

/-- How a thread and one that it starts share what it owes. -/
inductive Splits (stance : Stance) : Work → Stance → Stance → Prop
  | serveEditor (token : stance.editor = true) (clear : stance.debts = []) :
      Splits stance .serveEditor { stance with editor := false, fresh := none } { editor := true }
  | runAction {id : Option RequestId} {method : String} {params : Json}
      (fresh : stance.fresh = some method) (action : Editor.isEvent method = false)
      (owed : stance.debts.map (·.content) = (contentOf method params).toList)
      (plain : ∀ parcel ∈ stance.debts, parcel.event = false) :
      Splits stance (.runAction id method params) { stance with fresh := none, debts := [] }
        { debts := stance.debts, edits := decide (method = "textDocument/rename") }
  | startQueued {key : SessionKey} : Splits stance (.startQueued key) stance {}
  | serveSession {session : Session} : Splits stance (.serveSession session) stance {}

end Stance

/-- Two workspaces track the same lines for the same sessions. -/
structure Workspace.SameLines (before after : Workspace) : Prop where
  lines : ∀ file,
    (after.documents.get? file).map (fun document => (document.session, document.lines)) =
      (before.documents.get? file).map fun document => (document.session, document.lines)
  sessions : ∀ entry ∈ after.documents.entries,
    ∃ old ∈ before.documents.entries, old.2.session = entry.2.session

theorem Workspace.SameLines.refl (workspace : Workspace) : workspace.SameLines workspace :=
  ⟨fun _ => rfl, fun entry member => ⟨entry, member, rfl⟩⟩

/-- What an operation does to the stance of the thread that carries it out and to the texts that
wait; a thread that is started has a stance as well. -/
inductive Shift (roots : Roots) (news : News) (stance : Stance) :
    (operation : Operation) → operation.Answer → Stance → Waiting → Option Stance → Prop
  | harmless {operation : Operation} {answer : operation.Answer} (harmless : operation.Harmless) :
      Shift roots news stance operation answer stance news.queued none
  | share (free : stance.documents = .free) :
      Shift roots news stance (.acquire .documents .shared) () { stance with documents := .shared }
        news.queued none
  | enter (free : stance.documents = .free) :
      Shift roots news stance (.acquire .documents .exclusive) ()
        { stance with documents := .entered } news.queued none
  | read {workspace : Workspace} (entered : stance.documents = .entered) :
      Shift roots news stance .workspace workspace { stance with documents := .reading workspace }
        news.queued none
  | retain {workspace changed : Workspace} (reading : stance.documents = .reading workspace)
      (same : workspace.SameLines changed) :
      Shift roots news stance (.setWorkspace changed) ()
        { stance with documents := .reading changed } news.queued none
  | change {workspace : Workspace} {session : Session} {file : String} {text : Text} {uri : Uri}
      {document : Document} (reading : stance.documents = .reading workspace)
      (may : stance.MayWrite file text) (known : session ∈ stance.known)
      (owned : workspace.ownedBy? session.key file = some document)
      (differs : text.splitLines ≠ document.lines) (named : Uri.ofFileName file = .ok uri) :
      Shift roots news stance (.setWorkspace (workspace.track file (document.update text).1)) ()
        { stance with
          documents := .telling (workspace.track file (document.update text).1) session file uri
            (document.version + 1) text }
        news.queued none
  | tellChange {workspace : Workspace} {session : Session} {file : String} {uri : Uri}
      {version : Nat} {text : Text} {outcome : Outcome Unit}
      (telling : stance.documents = .telling workspace session file uri version text) :
      Shift roots news stance
        (.notify session.peer "textDocument/didChange" (Document.changeParams uri version text))
        outcome { stance with documents := .reading workspace } news.queued none
  | tellOpen {workspace : Workspace} {session : Session} {file : String} {text : Text} {uri : Uri}
      {outcome : Outcome Unit} (reading : stance.documents = .reading workspace)
      (may : stance.MayWrite file text) (known : session ∈ stance.known)
      (fresh : workspace.ownedBy? session.key file = none) (named : Uri.ofFileName file = .ok uri) :
      Shift roots news stance
        (.notify session.peer "textDocument/didOpen"
          ((Document.ofText session.key text).openParams uri))
        outcome { stance with documents := .told workspace session file uri text } news.queued none
  | track {workspace : Workspace} {session : Session} {file : String} {uri : Uri} {text : Text}
      (told : stance.documents = .told workspace session file uri text)
      (may : stance.MayWrite file text) :
      Shift roots news stance
        (.setWorkspace (workspace.track file (Document.ofText session.key text))) ()
        { stance with
          documents := .reading (workspace.track file (Document.ofText session.key text)) }
        news.queued none
  | leave (held : stance.documents = .shared ∨ stance.documents = .entered ∨
        ∃ workspace, stance.documents = .reading workspace) :
      Shift roots news stance (.release .documents) () { stance with documents := .free }
        news.queued none
  | settle {workspace : Workspace} {parcel : Parcel} {rest : List Parcel}
      (reading : stance.documents = .reading workspace) (owed : stance.debts = parcel :: rest)
      (ready : stance.Ready roots parcel)
      (written : workspace.linesOf? parcel.content.file = some parcel.lines) :
      Shift roots news stance (.release .documents) ()
        { stance with documents := .free, debts := rest } news.queued none
  | hold (free : stance.queue = .free) :
      Shift roots news stance (.acquire .queue .exclusive) () { stance with queue := .held }
        news.queued none
  | see {queue : Table SessionKey (List BufferContent)} (held : stance.queue = .held) :
      Shift roots news stance .queue queue { stance with queue := .seen queue } news.queued none
  | enqueue {queue : Table SessionKey (List BufferContent)} {key : SessionKey} {parcel : Parcel}
      (seen : stance.queue = .seen queue) (owed : stance.debts = [parcel])
      (token : stance.editor = true) (event : parcel.event = true)
      (own : parcel.key roots = .ok key) :
      Shift roots news stance
        (.setQueue (queue.insert key ((queue.get? key).getD [] ++ [parcel.content]))) ()
        { stance with
          queue := .seen (queue.insert key ((queue.get? key).getD [] ++ [parcel.content]))
          debts := [] }
        (Function.update news.queued key (news.queued key ++ [parcel])) none
  | take {queue : Table SessionKey (List BufferContent)} {key : SessionKey}
      (seen : stance.queue = .seen queue) (worker : stance.editor = false)
      (plain : ∀ parcel ∈ stance.debts, parcel.event = false) :
      Shift roots news stance (.setQueue (queue.erase key)) ()
        { stance with queue := .seen (queue.erase key), debts := news.queued key ++ stance.debts }
        (Function.update news.queued key []) none
  | letGo (held : stance.queue ≠ .free)
      (plain : ∀ parcel ∈ stance.debts, parcel.event = true → stance.editor = true) :
      Shift roots news stance (.release .queue) () { stance with queue := .free } news.queued none
  | clear {queue : Table SessionKey (List BufferContent)} (worker : stance.editor = false)
      (seen : stance.queue = .seen queue)
      (empty : ∀ parcel ∈ stance.debts, parcel.event = false ∧
        ∃ key, parcel.key roots = .ok key ∧ queue.get? key = none) :
      Shift roots news stance (.release .queue) () { stance with queue := .free, cleared := true }
        news.queued none
  | begin {key : SessionKey} (idle : stance.starting = none) :
      Shift roots news stance (.acquire (.starting key) .exclusive) ()
        { stance with starting := some (key, false) } news.queued none
  | find {key : SessionKey} {session : Session} :
      Shift roots news stance (.session key) (some session)
        { stance with known := session :: stance.known } news.queued none
  | miss {key : SessionKey} :
      Shift roots news stance (.session key) none stance news.queued none
  | lack {key : SessionKey} {seen : Bool} (starting : stance.starting = some (key, seen)) :
      Shift roots news stance (.session key) none { stance with starting := some (key, true) }
        news.queued none
  | register {session : Session} (starting : stance.starting = some (session.key, true)) :
      Shift roots news stance (.register session.key session) ()
        { stance with starting := some (session.key, false), known := session :: stance.known }
        news.queued none
  | finish {key : SessionKey} {seen : Bool} (starting : stance.starting = some (key, seen)) :
      Shift roots news stance (.release (.starting key)) () { stance with starting := none }
        news.queued none
  | receive {message : Message} (token : stance.editor = true) (unbound : stance.Unbound) :
      Shift roots news stance (.receive .editor) (some message)
        { stance with
          fresh := if Editor.isEvent message.method then none else some message.method
          debts := news.parcel.toList }
        news.queued none
  | listen {server : ServerId} {received : Option Message} (unbound : stance.Unbound) :
      Shift roots news stance (.receive (.server server)) received stance news.queued none
  | fork {work : Work} {thread : Nat} {after child : Stance}
      (splits : stance.Splits work after child) :
      Shift roots news stance (.fork work) thread after news.queued (some child)
  | hover {buffer : Nat} :
      Shift roots news stance (.hoverAgain buffer) none stance news.queued none
  | preview {buffer : Nat} {effects : List FloatEffect}
      (plain : ∀ parcel ∈ stance.debts, parcel.event = false) (own : stance.editor = false)
      (early : stance.cleared = false) :
      Shift roots news stance (.hoverAgain buffer) (some effects) { stance with debts := [] }
        news.queued none

/-- A script goes on as its stance allows, until it comes to its value or cannot but show a failure
to the user. -/
def Script.Obeys {α : Type} (roots : Roots) :
    Script α → Stance → (α → Stance → Prop) → Prop
  | .done value, stance, post => post value stance
  | .step operation next, stance, post =>
    Script.Fails (.step operation next) ∨
      ∀ answer news, Expects roots news stance operation answer →
        ∃ after waiting started, Shift roots news stance operation answer after waiting started ∧
          Script.Obeys roots (next answer) after post

end LanguageBridge

/-!
All threads by their stances, with the world that they share and what happened so far. A ledger
advances when a thread carries out an operation that its stance allows; how scripts go on is left
out. What is true of every ledger that may come about is proved of single advances.
-/
namespace LanguageBridge

/-- The text that a message carried, with the message's number. -/
def Chronicle.parcelAt (chronicle : Chronicle) (index : Nat) : Option Parcel := do
  let message ← chronicle.arrived[index]?
  let content ← message.content?
  return ⟨index, content, Editor.isEvent message.method⟩

/-- The world, what happened, the stances of threads by number, and the texts that wait. -/
structure Ledger where
  world : World
  chronicle : Chronicle
  stances : Nat → Stance
  queued : Waiting

namespace Ledger

/-- How many messages of the editor have been taken. -/
def taken (ledger : Ledger) : Nat := ledger.chronicle.taken ledger.world

/-- The number of threads. -/
def threads (ledger : Ledger) : Nat := ledger.chronicle.tasks.length

/-- What a thread cannot know by itself. -/
def news (ledger : Ledger) : News := ⟨ledger.queued, ledger.chronicle.parcelAt ledger.taken⟩

/-- The stances once a thread has taken a step and perhaps started another. -/
def seat (ledger : Ledger) (thread : Nat) (after : Stance) (started : Option Stance) :
    Nat → Stance := fun other =>
  if other = thread then after
  else
    match started with
    | some child => if other = ledger.threads then child else ledger.stances other
    | none => ledger.stances other

/-- The ledger once a thread has carried out an operation. -/
def acted (ledger : Ledger) (thread : Nat) (operation : Operation) (world : World)
    (after : Stance) (waiting : Waiting) (started : Option Stance) : Ledger where
  world := { world with forked := [] }
  chronicle := ledger.chronicle.perform thread operation ledger.world world
  stances := ledger.seat thread after started
  queued := waiting

/-- A thread takes a step, comes to its end, or something mild happens. -/
inductive Advances (host : Host) (roots : Roots) (ledger : Ledger) : Ledger → Prop
  | act {thread : Nat} {operation : Operation} {answer : operation.Answer} {world : World}
      {after : Stance} {waiting : Waiting} {started : Option Stance}
      (here : thread < ledger.threads)
      (performed : ledger.world.perform host thread operation = some (world, answer))
      (expected : Expects roots ledger.news (ledger.stances thread) operation answer)
      (shift : Shift roots ledger.news (ledger.stances thread) operation answer after waiting
        started) :
      Advances host roots ledger (ledger.acted thread operation world after waiting started)
  | finish (thread : Nat) :
      Advances host roots ledger
        { ledger with
          world := { ledger.world with finished := thread :: ledger.world.finished } }
  | happen {happening : Happening} (mild : happening.Mild ledger.world.tree) :
      Advances host roots ledger
        { ledger with
          world := ledger.world.after happening
          chronicle := ledger.chronicle.occur happening }

variable {ledger : Ledger} {thread : Nat} {after : Stance} {started : Option Stance}

@[simp] theorem seat_self : ledger.seat thread after started thread = after := if_pos rfl

/-- A thread took the step itself, was there before, or was started by the step. -/
theorem seat_cases (other : Nat) :
    (other = thread ∧ ledger.seat thread after started other = after) ∨
    (other ≠ thread ∧ ledger.seat thread after started other = ledger.stances other) ∨
    (other ≠ thread ∧ other = ledger.threads ∧ ∃ child, started = some child ∧
      ledger.seat thread after started other = child) := by
  by_cases same : other = thread
  · exact .inl ⟨same, if_pos same⟩
  · cases started with
    | none => exact .inr (.inl ⟨same, if_neg same⟩)
    | some child =>
      by_cases last : other = ledger.threads
      · exact .inr (.inr ⟨same, last, child, rfl, by rw [seat, if_neg same, if_pos last]⟩)
      · exact .inr (.inl ⟨same, by simp [seat, same, last]⟩)

/-- What holds of all threads still holds, when it does of the one that took the step and of the
one that it started. -/
theorem forall_seat (p : Nat → Stance → Prop) (others : ∀ other, other ≠ thread →
      p other (ledger.stances other)) (own : p thread after)
    (child : ∀ child, started = some child → p ledger.threads child) (other : Nat) :
    p other (ledger.seat thread after started other) := by
  obtain ⟨rfl, same⟩ | ⟨apart, same⟩ | ⟨_, rfl, new, begun, same⟩ :=
    @seat_cases ledger thread after started other
  · rw [same]
    exact own
  · rw [same]
    exact others other apart
  · rw [same]
    exact child new begun

end Ledger

end LanguageBridge
