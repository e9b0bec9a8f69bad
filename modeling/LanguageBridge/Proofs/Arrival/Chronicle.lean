import LanguageBridge.Proofs.Document.Notice
import LanguageBridge.Proofs.Editor.Content
import LanguageBridge.Proofs.Script.Courses
import LanguageBridge.Proofs.Script.Performed
import LanguageBridge.Proofs.Text.Lines

/-!
The texts that messages of the editor carry, and what became of them. A chronicle goes along with
the threads: it keeps the editor's messages in the order in which they came, what each thread was
started for, and by whom the lines of each file were changed last.
-/
namespace LanguageBridge

/-- The lines of a tracked file. -/
def Workspace.linesOf? (workspace : Workspace) (file : String) : Option (List Text) :=
  (workspace.documents.get? file).map (·.lines)

theorem Workspace.linesOf?_track (workspace : Workspace) (file : String) (document : Document) :
    (workspace.track file document).linesOf? file = some document.lines := by
  simp [linesOf?, track]

theorem Workspace.get?_of_ownedBy? {workspace : Workspace} {key : SessionKey} {file : String}
    {document : Document} (owned : workspace.ownedBy? key file = some document) :
    workspace.documents.get? file = some document ∧ document.session = key := by
  unfold ownedBy? at owned
  obtain ⟨found, held⟩ := Option.filter_eq_some_iff.mp owned
  exact ⟨found, by simpa using held⟩

/-- The message whose action a thread does, given the last one that was taken when it started. -/
def Work.task? (message : Nat) : Work → Option Nat
  | .runAction .. => some message
  | _ => none

/-- A change of the lines of a tracked file: what they were changed to, by which thread, and how
many messages of the editor had come by then. -/
structure Change where
  lines : List Text
  thread : Nat
  arrived : Nat
  deriving DecidableEq, Repr

/-- What happened so far: the messages of the editor, for each thread the message whose action it
does, the threads whose hover went into a floating preview, and the last change of each file. -/
structure Chronicle where
  arrived : List Message := []
  tasks : List (Option Nat) := [none]
  entered : List Nat := []
  latest : String → Option Change := fun _ => none

namespace Chronicle

/-- How many messages of the editor have been taken. -/
def taken (chronicle : Chronicle) (world : World) : Nat :=
  chronicle.arrived.length - (world.waiting .editor).length

/-- The chronicle once a thread has carried out an operation. -/
def perform (chronicle : Chronicle) (thread : Nat) (operation : Operation) (before after : World) :
    Chronicle where
  arrived := chronicle.arrived
  tasks :=
    match operation with
    | .fork work => chronicle.tasks ++ [work.task? (chronicle.taken before - 1)]
    | _ => chronicle.tasks
  entered :=
    match operation with
    | .hoverAgain buffer =>
      if (before.float.hoverAgain buffer).isSome then thread :: chronicle.entered
      else chronicle.entered
    | _ => chronicle.entered
  latest := fun file =>
    if after.workspace.linesOf? file = before.workspace.linesOf? file then chronicle.latest file
    else
      (after.workspace.linesOf? file).map fun lines => ⟨lines, thread, chronicle.arrived.length⟩

/-- The chronicle once a thread has taken a step. -/
def step (chronicle : Chronicle) (thread : Nat) (before after : System) : Chronicle :=
  match before.threads[thread]? with
  | some (.step operation _) => chronicle.perform thread operation before.world after.world
  | _ => chronicle

/-- The chronicle once something has happened. -/
def occur (chronicle : Chronicle) : Happening → Chronicle
  | .deliver .editor message => { chronicle with arrived := chronicle.arrived ++ [message] }
  | _ => chronicle

end Chronicle

/-- What happens while nobody goes away and no document is closed: the editor closes no document
and asks for no end, servers ask for no edits, and the roots of projects stay where they are. -/
def Happening.Mild (tree : FileTree) : Happening → Prop
  | .answer .. => True
  | .deliver (.server _) message => message.method ≠ "workspace/applyEdit"
  | .deliver .editor message =>
    message.method ≠ "textDocument/didClose" ∧ message.method ≠ "vlc/shutdown"
  | .endInput peer => peer ≠ .editor
  | .disconnect _ => False
  | .change changed => ∀ language file,
    SessionKey.ofFile changed language file = SessionKey.ofFile tree language file

/-- A thread takes a step, or something mild happens. -/
inductive Leads (setup : Setup) : System × Chronicle → System × Chronicle → Prop
  | step {system next : System} {chronicle : Chronicle} (thread : Nat)
      (moved : Program.step setup system thread = some next) :
      Leads setup (system, chronicle) (next, chronicle.step thread system next)
  | happen {system : System} {chronicle : Chronicle} (happening : Happening)
      (mild : happening.Mild system.world.tree) :
      Leads setup (system, chronicle) (system.occur happening, chronicle.occur happening)

/-- What may have come of the program. -/
abbrev Came (setup : Setup) (tree : FileTree) (system : System) (chronicle : Chronicle) : Prop :=
  Relation.ReflTransGen (Leads setup) (listening setup tree, {}) (system, chronicle)

/-- Lets threads take steps, always the first that can, until none can or the steps are used up. -/
def Chronicle.settle (setup : Setup) : Nat → System × Chronicle → System × Chronicle
  | 0, state => state
  | steps + 1, (system, chronicle) =>
    match (List.range system.threads.length).findSome? fun thread =>
      (Program.step setup system thread).map fun next =>
        (next, chronicle.step thread system next) with
    | some state => settle setup steps state
    | none => (system, chronicle)

/-- Lets things happen one after the other, and threads take steps after each. -/
def Chronicle.play (setup : Setup) (steps : Nat) (happenings : List Happening)
    (state : System × Chronicle) : System × Chronicle :=
  happenings.foldl (fun state happening =>
    settle setup steps (state.1.occur happening, state.2.occur happening)) state

section Came

variable {setup : Setup} {tree : FileTree} {state : System × Chronicle}

theorem Came.settle (came : Came setup tree state.1 state.2) (steps : Nat) :
    Came setup tree (Chronicle.settle setup steps state).1
      (Chronicle.settle setup steps state).2 := by
  induction steps generalizing state with
  | zero => exact came
  | succ steps ih =>
    unfold Chronicle.settle
    split
    · rename_i next found
      obtain ⟨thread, _, taken⟩ := List.exists_of_findSome?_eq_some found
      obtain ⟨system, moved, rfl⟩ := Option.map_eq_some_iff.mp taken
      exact ih (came.tail (.step thread moved))
    · exact came

/-- What comes of mild happenings may come of the program. -/
theorem Came.play (came : Came setup tree state.1 state.2) (steps : Nat)
    {happenings : List Happening}
    (mild : ∀ happening ∈ happenings, ∀ tree, happening.Mild tree) :
    Came setup tree (Chronicle.play setup steps happenings state).1
      (Chronicle.play setup steps happenings state).2 := by
  induction happenings generalizing state with
  | nil => exact came
  | cons happening rest ih =>
    have first := mild happening List.mem_cons_self state.1.world.tree
    have next : Came setup tree (state.1.occur happening) (state.2.occur happening) :=
      came.tail (.happen happening first)
    exact ih (Came.settle next steps) fun later member => mild later (List.mem_cons_of_mem _ member)

end Came

/-- All messages have been handled: none waits, no text is queued, and all threads have finished or
wait for messages. -/
structure Handled (system : System) : Prop where
  waiting : system.world.waiting .editor = []
  queue : ∀ key, system.world.queue.get? key = none
  threads : ∀ script ∈ system.threads, (∃ outcome, script = .done outcome) ∨
    ∃ peer next, script = .step (.receive peer) next

/-- A thread has finished or waits for messages. -/
def Script.rests {α : Type} : Script α → Bool
  | .done _ => true
  | .step (.receive _) _ => true
  | _ => false

theorem Handled.of_rests {system : System}
    (rests : ((system.world.waiting .editor).isEmpty && system.world.queue.entries.isEmpty &&
      system.threads.all Script.rests) = true) : Handled system := by
  simp only [Bool.and_eq_true, List.isEmpty_iff, List.all_eq_true] at rests
  obtain ⟨⟨waiting, queue⟩, threads⟩ := rests
  refine ⟨waiting, fun key => ?_, fun script member => ?_⟩
  · rw [Table.get?, queue]
    rfl
  · have resting := threads script member
    cases script with
    | done outcome => exact .inl ⟨outcome, rfl⟩
    | step operation next =>
      cases operation with
      | receive peer => exact .inr ⟨peer, next, rfl⟩
      | _ => cases resting

/-- The user was shown a failure. -/
def ErrorShown (world : World) : Prop :=
  ∃ message, .notification .editor "vim#show_message"
    (Params.ofJson (.arr [.obj [("level", .str "Error"), ("message", .str message)]])) ∈
      world.traffic

/-- The text that a server was last told for a document. -/
def lastText? (uri : String) (notices : List Notice) : Option Text :=
  notices.foldl (fun last notice =>
    match notice with
    | .opened name _ text => if name = uri then some text else last
    | .changed name _ text => if name = uri then some text else last
    | .closed _ => last) none

/-- A message carries a text for a file. -/
def Carries (chronicle : Chronicle) (index : Nat) (content : BufferContent) : Prop :=
  ∃ message, chronicle.arrived[index]? = some message ∧ message.content? = some content

theorem carries_iff {chronicle : Chronicle} {index : Nat} {content : BufferContent} :
    Carries chronicle index content ↔
      (chronicle.arrived.map (·.content?))[index]? = some (some content) := by
  simp [Carries]

/-- Why lines may be changed after a message came that they are not from: they are from an action
that came before it, or from an event of another session that did, or they are what a rename made of
them. -/
inductive Belated (chronicle : Chronicle) (tree : FileTree) (index : Nat) (content : BufferContent)
    (change : Change) : Prop
  | action {earlier : Nat} {former : BufferContent} (before : earlier < index)
      (task : chronicle.tasks[change.thread]? = some (some earlier))
      (carried : Carries chronicle earlier former) (file : former.file = content.file)
      (lines : former.text.splitLines = change.lines)
  | event {earlier : Nat} {message : Message} {former : BufferContent} (before : earlier < index)
      (arrived : chronicle.arrived[earlier]? = some message)
      (event : Editor.isEvent message.method = true) (carried : message.content? = some former)
      (file : former.file = content.file) (lines : former.text.splitLines = change.lines)
      (elsewhere : SessionKey.ofFile tree former.language former.file ≠
        SessionKey.ofFile tree content.language content.file)
  | rename {request : Nat} {message : Message}
      (task : chronicle.tasks[change.thread]? = some (some request))
      (arrived : chronicle.arrived[request]? = some message)
      (method : message.method = "textDocument/rename")

/-- What a message carried was written over: after it had come, the lines of its file were last
changed to others, which are not from a later message. -/
def Overtaken (chronicle : Chronicle) (tree : FileTree) (index : Nat) (content : BufferContent) :
    Prop :=
  ∃ change, chronicle.latest content.file = some change ∧ index < change.arrived ∧
    change.lines ≠ content.text.splitLines ∧ Belated chronicle tree index content change

end LanguageBridge
