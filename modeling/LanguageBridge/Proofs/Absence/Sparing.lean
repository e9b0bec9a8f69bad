import LanguageBridge.Program
import LanguageBridge.Proofs.Document.Notice
import LanguageBridge.Proofs.Editor.Content
import LanguageBridge.Proofs.Script.Idle

/-!
Files that nobody has anything of: they are not tracked, no content for them is queued or under way,
and nobody asks for an edit of them. A script spares such a file when, whatever it learns from
others who spare it, it brings nothing of the file up and opens it on no server.
-/
namespace LanguageBridge

variable {file : String} {α β : Type}

/-- An edit of several files that edits this one. -/
def WorkspaceEdit.Touches (edit : WorkspaceEdit) (file : String) : Prop :=
  ∃ files, edit.collect = .ok files ∧ ∃ edits ∈ files, edits.file = file

/-- An answer of a server that can be read as an edit of the file. -/
def Json.Edits (json : Json) (file : String) : Prop :=
  ∃ edit, Json.readOption WorkspaceEdit.read json = .ok (some edit) ∧ edit.Touches file

/-- A message that brings content for a file, or asks for an edit of it. -/
def Message.Concerns (peer : Peer) (message : Message) (file : String) : Prop :=
  match peer with
  | .editor => ∃ content, message.content? = some content ∧ content.file = file
  | .server _ => ∃ versioned id params edit,
    message = .call versioned id "workspace/applyEdit" params ∧
      Server.readEditRequest params.toJson = .ok edit ∧ edit.Touches file

/-- Work that brings no content for a file. -/
def Work.Spares (file : String) : Work → Prop
  | .runAction _ method params => ∀ content, contentOf method params = some content →
    content.file ≠ file
  | _ => True

/-- A queue without content for a file. -/
def Unqueued (file : String) (queue : Table SessionKey (List BufferContent)) : Prop :=
  ∀ key contents, queue.get? key = some contents → ∀ content ∈ contents, content.file ≠ file

/-- What is said to a server opens no document, or one under the name of another file. -/
def Sent.Elsewhere (file : String) (sent : Sent) : Prop :=
  ∀ server uri version text, Notice.heard? server sent = some (.opened uri version text) →
    ∃ other named, other ≠ file ∧ Uri.ofFileName other = .ok named ∧ named.text = uri

/-- An operation that brings nothing of a file up. -/
def Operation.Spares (file : String) : Operation → Prop
  | .setWorkspace changed => changed.documents.get? file = none
  | .setQueue queued => Unqueued file queued
  | .notify peer method params =>
    (Sent.notification peer method (Params.ofJson params)).Elsewhere file
  | .fork work => work.Spares file
  | _ => True

/-- What an operation answers when nobody has anything of a file. -/
def Operation.Admits (file : String) : (operation : Operation) → operation.Answer → Prop
  | .workspace, known => Table.get? (Workspace.documents known) file = none
  | .queue, queued => Unqueued file queued
  | .receive peer, received =>
    ∀ message : Message, received = some message → ¬ message.Concerns peer file
  | .await _, outcome => ∀ json : Json, outcome = Except.ok json → ¬ json.Edits file
  | _, _ => True

namespace Script

/-- A script that spares a file and then comes to a value of some kind. -/
def Spares (file : String) (post : α → Prop) : Script α → Prop
  | .done value => post value
  | .step operation next => operation.Spares file ∧
    ∀ answer, operation.Admits file answer → Spares file post (next answer)

variable {script : Script α} {next : α → Script β} {mid : α → Prop} {post : β → Prop}

theorem Spares.bind (first : script.Spares file mid)
    (second : ∀ value, mid value → (next value).Spares file post) :
    (script.bind next).Spares file post := by
  induction script with
  | done value => exact second value first
  | step operation onward ih =>
    exact ⟨first.1, fun answer admits => ih answer (first.2 answer admits)⟩

theorem Spares.mono {last : α → Prop} (spares : script.Spares file mid)
    (weaker : ∀ value, mid value → last value) : script.Spares file last := by
  rw [← script.bind_done]
  exact spares.bind weaker

end Script

/-- A file that nobody in a world has anything of. -/
structure World.Lacks (file : String) (world : World) : Prop where
  untracked : world.workspace.documents.get? file = none
  unqueued : Unqueued file world.queue
  inbox : ∀ peer messages, world.inbox.get? peer = some messages →
    ∀ message ∈ messages, ¬ message.Concerns peer file
  answers : ∀ ticket json, world.answers.get? ticket = some (.ok json) → ¬ json.Edits file
  forked : ∀ work ∈ world.forked, work.Spares file

namespace World

variable {world later : World} {host : Host} {thread : Nat}

/-- What was said in addition. -/
def Adds (file : String) (before after : World) : Prop :=
  ∃ added, after.traffic = before.traffic ++ added ∧ ∀ sent ∈ added, sent.Elsewhere file

theorem Adds.refl (world : World) : Adds file world world := ⟨[], by simp, by simp⟩

theorem Adds.trans {middle : World} (first : Adds file world middle)
    (second : Adds file middle later) : Adds file world later := by
  obtain ⟨some, said, elsewhere⟩ := first
  obtain ⟨more, told, others⟩ := second
  refine ⟨some ++ more, by rw [told, said, List.append_assoc], ?_⟩
  intro sent member
  rcases List.mem_append.mp member with before | after
  · exact elsewhere sent before
  · exact others sent after

theorem Adds.say {sent : Sent} (elsewhere : sent.Elsewhere file) :
    Adds file world (world.say sent).1 := by
  unfold World.say
  split
  · exact ⟨[sent], rfl, by simpa using elsewhere⟩
  · exact .refl _

theorem Lacks.say (lacks : world.Lacks file) (sent : Sent) : (world.say sent).1.Lacks file := by
  unfold World.say
  split
  · exact ⟨lacks.untracked, lacks.unqueued, lacks.inbox, lacks.answers, lacks.forked⟩
  · exact lacks

theorem Lacks.receive {peer : Peer} {received : Option Message} (lacks : world.Lacks file)
    (taken : world.receive peer = some (later, received)) :
    later.Lacks file ∧ (∀ message, received = some message → ¬ message.Concerns peer file) ∧
      Adds file world later := by
  unfold World.receive at taken
  split at taken
  · rename_i message rest waiting
    cases taken
    obtain ⟨messages, found, whole⟩ : ∃ messages, world.inbox.get? peer = some messages ∧
        messages = message :: rest := by
      cases found : world.inbox.get? peer with
      | none => simp [found] at waiting
      | some messages => exact ⟨messages, rfl, by simpa [found] using waiting⟩
    have calm := lacks.inbox peer messages found
    rw [whole] at calm
    refine ⟨⟨lacks.untracked, lacks.unqueued, ?_, lacks.answers, lacks.forked⟩, ?_, .refl _⟩
    · intro other others here
      rw [Table.get?_insert] at here
      split at here
      · rename_i same
        cases here
        subst same
        exact fun letter member => calm letter (List.mem_cons_of_mem _ member)
      · exact lacks.inbox other others here
    · intro letter same
      cases same
      exact calm message List.mem_cons_self
  · split at taken <;> cases taken
    exact ⟨lacks, by simp, .refl _⟩

/-- A thread that spares a file learns nothing of it and brings nothing of it up. -/
theorem Lacks.perform {operation : Operation} {answer : operation.Answer} (lacks : world.Lacks file)
    (spares : operation.Spares file)
    (performed : world.perform host thread operation = some (later, answer)) :
    later.Lacks file ∧ operation.Admits file answer ∧ Adds file world later := by
  have kept : ∀ after : World, after.workspace = world.workspace → after.queue = world.queue →
      after.inbox = world.inbox → after.answers = world.answers → after.forked = world.forked →
      after.Lacks file := by
    intro after workspace queue inbox answers forked
    exact ⟨workspace ▸ lacks.untracked, queue ▸ lacks.unqueued, inbox ▸ lacks.inbox,
      answers ▸ lacks.answers, forked ▸ lacks.forked⟩
  cases operation with
  | workspace =>
    simp only [World.perform] at performed
    split at performed <;> cases performed
    exact ⟨lacks, lacks.untracked, .refl _⟩
  | queue =>
    simp only [World.perform] at performed
    split at performed <;> cases performed
    exact ⟨lacks, lacks.unqueued, .refl _⟩
  | setWorkspace workspace =>
    simp only [World.perform] at performed
    split at performed <;> cases performed
    exact ⟨⟨spares, lacks.unqueued, lacks.inbox, lacks.answers, lacks.forked⟩, trivial, .refl _⟩
  | setQueue queue =>
    simp only [World.perform] at performed
    split at performed <;> cases performed
    exact ⟨⟨lacks.untracked, spares, lacks.inbox, lacks.answers, lacks.forked⟩, trivial, .refl _⟩
  | receive peer => exact lacks.receive performed
  | notify peer method params =>
    obtain ⟨rfl, rfl⟩ := Prod.mk.inj (Option.some.inj performed)
    exact ⟨lacks.say _, trivial, .say spares⟩
  | reply peer id result =>
    obtain ⟨rfl, rfl⟩ := Prod.mk.inj (Option.some.inj performed)
    exact ⟨lacks.say _, trivial, .say (by simp [Sent.Elsewhere, Notice.heard?])⟩
  | call peer method params =>
    have silent : (Sent.call peer world.tickets method (Params.ofJson params)).Elsewhere file := by
      simp [Sent.Elsewhere, Notice.heard?]
    have after := lacks.say (.call peer world.tickets method (Params.ofJson params))
    have adds : Adds file world (world.say _).1 := .say silent
    simp only [World.perform] at performed
    split at performed <;> rename_i spoken _ same <;> cases performed <;>
      rw [same] at after adds
    · exact ⟨⟨after.untracked, after.unqueued, after.inbox, after.answers, after.forked⟩, trivial,
        adds⟩
    · exact ⟨after, trivial, adds⟩
  | await ticket =>
    obtain ⟨outcome, found, same⟩ := Option.map_eq_some_iff.mp performed
    cases same
    refine ⟨lacks, ?_, .refl _⟩
    rintro json rfl
    exact lacks.answers ticket json found
  | fork work =>
    cases performed
    refine ⟨⟨lacks.untracked, lacks.unqueued, lacks.inbox, lacks.answers, ?_⟩, trivial, .refl _⟩
    intro other member
    rcases List.mem_append.mp member with before | last
    · exact lacks.forked other before
    · rw [List.mem_singleton.mp last]
      exact spares
  | acquire | dropIfDead | join =>
    simp only [World.perform] at performed
    split at performed <;> cases performed <;>
      exact ⟨kept _ rfl rfl rfl rfl rfl, trivial, .refl _⟩
  | spawn language directory program arguments =>
    simp only [World.perform] at performed
    split at performed <;> cases performed <;>
      exact ⟨kept _ rfl rfl rfl rfl rfl, trivial, .refl _⟩
  | release | disk | extensions | registerServerCommands | registerHandlers | hoverAgain
    | floatEvent | reveal | session | isAlive | register | unregister | drain | connect | endProcess
    | log =>
    cases performed
    exact ⟨kept _ rfl rfl rfl rfl rfl, trivial, .refl _⟩

end World

end LanguageBridge
