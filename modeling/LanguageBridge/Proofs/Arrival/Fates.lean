import LanguageBridge.Proofs.Arrival.Lasting

/-!
What becomes of each text. A text that was written is ahead of all texts of events that wait for its
session, so that its file is changed again only by a later text, by an action that came before it,
by an event of another session, or by a rename.
-/
namespace LanguageBridge

/-- Which session each file of a language belongs to on a disk. -/
abbrev FileTree.roots (tree : FileTree) : Roots := fun language file =>
  SessionKey.ofFile tree language file

/-- The thread that does a message's action has left it to a floating preview. -/
def Chronicle.Entered (chronicle : Chronicle) (index : Nat) : Prop :=
  ∃ thread ∈ chronicle.entered, chronicle.tasks[thread]? = some (some index)

namespace Shift

variable {roots : Roots} {news : News} {stance after child : Stance} {operation : Operation}
  {answer : operation.Answer} {waiting : Waiting} {started : Option Stance} {parcel : Parcel}

/-- What a thread owes it still owes, another owes it or it waits, or it has been written, or left
to a floating preview. -/
theorem discharges (shift : Shift roots news stance operation answer after waiting started)
    (owed : parcel ∈ stance.debts) :
    parcel ∈ after.debts ∨ (∃ child, started = some child ∧ parcel ∈ child.debts) ∨
      (∃ key, parcel ∈ waiting key) ∨
      (∃ workspace rest, stance.documents = .reading workspace ∧ stance.debts = parcel :: rest ∧
        stance.Ready roots parcel ∧
        workspace.linesOf? parcel.content.file = some parcel.lines) ∨
      (∃ buffer effects, (⟨operation, answer⟩ : Σ operation : Operation, operation.Answer) =
          ⟨.hoverAgain buffer, some effects⟩ ∧
        parcel.event = false ∧ stance.editor = false) := by
  cases shift with
  | @settle workspace head rest reading debts ready written =>
    rw [debts] at owed
    rcases List.mem_cons.mp owed with rfl | later
    · exact .inr (.inr (.inr (.inl ⟨workspace, rest, reading, debts, ready, written⟩)))
    · exact .inl later
  | @enqueue queue key new seen debts =>
    rw [debts, List.mem_singleton] at owed
    subst owed
    exact .inr (.inr (.inl ⟨key, by simp⟩))
  | take => exact .inl (List.mem_append_right _ owed)
  | receive _ unbound =>
    rw [unbound.debts] at owed
    cases owed
  | fork splits =>
    cases splits with
    | serveEditor _ clear =>
      rw [clear] at owed
      cases owed
    | runAction => exact .inr (.inl ⟨_, rfl, owed⟩)
    | startQueued | serveSession => exact .inl owed
  | preview plain own =>
    exact .inr (.inr (.inr (.inr ⟨_, _, rfl, plain parcel owed, own⟩)))
  | _ => exact .inl owed

/-- What waits goes on waiting, or is owed by the thread that takes it. -/
theorem fetches (shift : Shift roots news stance operation answer after waiting started)
    {key : SessionKey} (queued : parcel ∈ news.queued key) :
    parcel ∈ after.debts ∨ parcel ∈ waiting key := by
  cases shift with
  | @enqueue queue name new =>
    right
    by_cases same : key = name
    · subst same
      simp [queued]
    · simpa [same] using queued
  | @take queue name =>
    by_cases same : key = name
    · subst same
      exact .inl (List.mem_append_left _ queued)
    · exact .inr (by simpa [same] using queued)
  | _ => exact .inr queued

theorem stays_cleared (shift : Shift roots news stance operation answer after waiting started)
    (cleared : stance.cleared = true) : after.cleared = true := by
  cases shift with
  | clear => rfl
  | fork splits => exact splits.kept.2.2.2.2.1.trans cleared
  | _ => exact cleared

/-- Lines are changed to those of a text that the thread may write. -/
theorem writes (shift : Shift roots news stance operation answer after waiting started)
    {workspace : Workspace} (known : ∀ seen, stance.documents.view? = some seen → workspace = seen)
    (file : String) :
    (operation.workspaceAfter workspace).linesOf? file = workspace.linesOf? file ∨
      ∃ text, stance.MayWrite file text ∧
        (operation.workspaceAfter workspace).linesOf? file = some text.splitLines := by
  have tracks {name : String} {text : Text} {document : Document} (may : stance.MayWrite name text)
      (lines : document.lines = text.splitLines) :
      (workspace.track name document).linesOf? file = workspace.linesOf? file ∨
        ∃ text, stance.MayWrite file text ∧
          (workspace.track name document).linesOf? file = some text.splitLines := by
    by_cases same : name = file
    · subst same
      exact .inr ⟨text, may, by rw [Workspace.linesOf?_track, lines]⟩
    · exact .inl (by simp [Workspace.linesOf?, Workspace.track, same])
  cases shift with
  | harmless harmless =>
    left
    rw [Operation.workspaceAfter_of_ne]
    rintro changed rfl
    exact harmless.elim
  | @retain seen changed reading same =>
    left
    obtain rfl := known seen (by rw [reading]; rfl)
    have lines := congrArg (Option.map Prod.snd) (same.lines file)
    change changed.linesOf? file = _
    simpa [Workspace.linesOf?, Function.comp_def] using lines
  | @change seen session name text uri document reading may =>
    obtain rfl := known seen (by rw [reading]; rfl)
    exact tracks may (Document.lines_update document text)
  | @track seen session name uri text told may =>
    obtain rfl := known seen (by rw [told]; rfl)
    exact tracks may rfl
  | _ => exact .inl rfl

end Shift

namespace Ledger

variable {host : Host} {roots : Roots} {ledger next : Ledger} {parcel : Parcel} {tree : FileTree}

/-- A text is written or will be: that of an event, or that of an action that is no more left to a
preview. -/
def Effective (ledger : Ledger) (parcel : Parcel) : Prop :=
  parcel.event = true ∨ ∃ thread : Nat,
    ledger.chronicle.tasks[thread]? = some (some parcel.index) ∧
      (ledger.stances thread).cleared = true ∧ thread ∉ ledger.chronicle.entered

/-- A text came later for the same file. -/
def Superseded (ledger : Ledger) (parcel : Parcel) : Prop :=
  ∃ later, ledger.chronicle.parcelAt later.index = some later ∧
    later.content.file = parcel.content.file ∧ parcel.index < later.index ∧ ledger.Effective later

/-- A text is ahead, and the lines of its file were last changed to its own, or by a later text, or
after it came by something else. -/
def Fulfilled (tree : FileTree) (ledger : Ledger) (parcel : Parcel) : Prop :=
  ledger.Ahead tree.roots parcel ∧ ∃ change,
    ledger.chronicle.latest parcel.content.file = some change ∧
      (change.lines = parcel.lines ∨ ledger.Superseded parcel ∨
        parcel.index < change.arrived ∧
          Belated ledger.chronicle tree parcel.index parcel.content change)

theorem Grown.belated (grown : ledger.Grown next) {index : Nat} {content : BufferContent}
    {change : Change} (belated : Belated ledger.chronicle tree index content change) :
    Belated next.chronicle tree index content change := by
  cases belated with
  | action before task carried file lines =>
    obtain ⟨message, arrived, same⟩ := carried
    exact .action before (grown.tasks task) ⟨message, grown.arrived arrived, same⟩ file lines
  | event before arrived event carried file lines elsewhere =>
    exact .event before (grown.arrived arrived) event carried file lines elsewhere
  | rename task arrived method => exact .rename (grown.tasks task) (grown.arrived arrived) method

theorem Effective.advance (effective : ledger.Effective parcel) (kept : ledger.Kept roots)
    (advances : ledger.Advances host roots next) : next.Effective parcel := by
  have grown := kept.dealt.grown advances
  refine effective.imp_right ?_
  rintro ⟨thread, task, cleared, early⟩
  refine ⟨thread, grown.tasks task, ?_⟩
  have born : thread < ledger.threads := (List.getElem?_eq_some_iff.mp task).1
  cases advances with
  | @act actor operation answer world after waiting started here performed _ shift =>
    constructor
    · change (ledger.seat actor after started thread).cleared = true
      obtain ⟨rfl, same⟩ | ⟨_, same⟩ | ⟨_, last, _⟩ :=
        @seat_cases ledger actor after started thread
      · rw [same]
        exact shift.stays_cleared cleared
      · rw [same]
        exact cleared
      · exact absurd last (Nat.ne_of_lt born)
    · intro entered
      rcases entered_acted performed shift entered with before | ⟨rfl, soon, _⟩
      · exact early before
      · rw [cleared] at soon
        cases soon
  | finish => exact ⟨cleared, early⟩
  | @happen happening =>
    refine ⟨cleared, ?_⟩
    cases happening with
    | deliver peer => cases peer <;> exact early
    | _ => exact early

theorem Superseded.advance (superseded : ledger.Superseded parcel) (kept : ledger.Kept roots)
    (advances : ledger.Advances host roots next) : next.Superseded parcel := by
  obtain ⟨later, came, file, after, effective⟩ := superseded
  have grown := kept.dealt.grown advances
  exact ⟨later, grown.parcelAt came, file, after, effective.advance kept advances⟩

/-- A text of an event counts, and one of an action once what was queued before it was sent. -/
theorem Kept.effective (kept : ledger.Kept roots) (lasting : ledger.Lasting roots) {thread : Nat}
    (owed : parcel ∈ (ledger.stances thread).debts)
    (sure : parcel.event = true ∨
      (ledger.stances thread).editor = false ∧ (ledger.stances thread).cleared = true) :
    ledger.Effective parcel := by
  cases event : parcel.event with
  | true => exact .inl event
  | false =>
    obtain ⟨worker, cleared⟩ := sure.resolve_left (by simp [event])
    have task := (kept.tasked.owed thread parcel owed event).resolve_left (by simp [worker])
    refine .inr ⟨thread, task, cleared, fun entered => ?_⟩
    have queued := (lasting.entered thread entered).2.2 parcel owed
    rw [event] at queued
    cases queued

/-- What a thread may write over a text that is ahead: the same text, a later one, or what is from
before it or a rename. -/
theorem Kept.writes (kept : ledger.Kept tree.roots) (lasting : ledger.Lasting tree.roots)
    (ahead : ledger.Ahead tree.roots parcel)
    (came : ledger.chronicle.parcelAt parcel.index = some parcel) {thread arrived : Nat}
    {text : Text} (may : (ledger.stances thread).MayWrite parcel.content.file text) :
    text.splitLines = parcel.lines ∨ ledger.Superseded parcel ∨
      Belated ledger.chronicle tree parcel.index parcel.content
        ⟨text.splitLines, thread, arrived⟩ := by
  rcases may with edits | ⟨writer, rest, owed, file, rfl, sure⟩
  · obtain ⟨request, message, task, there, method⟩ := kept.tasked.edits thread edits
    exact .inr (.inr (.rename task there method))
  have member : writer ∈ (ledger.stances thread).debts := by simp [owed]
  have own := (kept.counted.debts thread writer member).2
  rcases Nat.lt_trichotomy writer.index parcel.index with earlier | equal | later
  · obtain ⟨message, there, content, _, kind⟩ := Chronicle.parcelAt_eq_some.mp own
    refine .inr (.inr ?_)
    cases event : writer.event with
    | false =>
      obtain ⟨worker, _⟩ := sure.resolve_left (by simp [event])
      have task := (kept.tasked.owed thread writer member event).resolve_left (by simp [worker])
      exact .action earlier task ⟨message, there, content⟩ file rfl
    | true =>
      refine .event earlier there (kind.symm.trans event) content file rfl fun elsewhere => ?_
      obtain ⟨key, mine, first⟩ := ahead
      have above := first writer (.inl ⟨thread, member⟩) event (elsewhere.trans mine)
      omega
  · rw [equal, came] at own
    cases own
    exact .inl rfl
  · exact .inr (.inl ⟨writer, own, file, later, kept.effective lasting member sure⟩)

theorem Fulfilled.advance (fulfilled : ledger.Fulfilled tree parcel)
    (kept : ledger.Kept tree.roots) (lasting : ledger.Lasting tree.roots)
    (came : ledger.chronicle.parcelAt parcel.index = some parcel)
    (taken : parcel.index < ledger.taken) (advances : ledger.Advances host tree.roots next) :
    next.Fulfilled tree parcel := by
  obtain ⟨ahead, change, latest, why⟩ := fulfilled
  have grown := kept.dealt.grown advances
  have stays (superseded : ledger.Superseded parcel) : next.Superseded parcel :=
    superseded.advance kept advances
  have still : change.lines = parcel.lines ∨ next.Superseded parcel ∨
      parcel.index < change.arrived ∧
        Belated next.chronicle tree parcel.index parcel.content change :=
    why.imp_right fun rest => rest.imp stays fun ⟨before, belated⟩ =>
      ⟨before, grown.belated belated⟩
  refine ⟨ahead.advance taken advances, ?_⟩
  cases advances with
  | @act thread operation answer world after waiting started here performed _ shift =>
    have writes := shift.writes (kept.viewed.documents thread) parcel.content.file
    rw [← (World.performed performed).workspace] at writes
    change ∃ change, (if world.workspace.linesOf? parcel.content.file =
      ledger.world.workspace.linesOf? parcel.content.file then _ else _) = some change ∧ _
    split
    · exact ⟨change, latest, still⟩
    · rename_i changed
      obtain ⟨text, may, lines⟩ := writes.resolve_left changed
      have arrived : parcel.index < ledger.chronicle.arrived.length :=
        Nat.lt_of_lt_of_le taken ledger.taken_le
      rw [lines]
      refine ⟨⟨text.splitLines, thread, ledger.chronicle.arrived.length⟩, rfl, ?_⟩
      exact (kept.writes lasting ahead came may).imp_right fun rest =>
        rest.imp stays fun belated => ⟨arrived, grown.belated belated⟩
  | finish => exact ⟨change, latest, still⟩
  | @happen happening =>
    refine ⟨change, ?_, still⟩
    cases happening with
    | deliver peer => cases peer <;> exact latest
    | _ => exact latest

/-- Every text of a message that was taken has to be written, was left to a preview, or is
fulfilled. -/
def Fated (tree : FileTree) (ledger : Ledger) : Prop :=
  ∀ parcel, ledger.chronicle.parcelAt parcel.index = some parcel → parcel.index < ledger.taken →
    ledger.Pending parcel ∨ ledger.chronicle.Entered parcel.index ∨ ledger.Fulfilled tree parcel

/-- A text that a thread has written is fulfilled. -/
theorem Kept.fulfilled (kept : ledger.Kept tree.roots) (lasting : ledger.Lasting tree.roots)
    {thread : Nat} {workspace : Workspace} {rest : List Parcel}
    (reading : (ledger.stances thread).documents = .reading workspace)
    (owed : (ledger.stances thread).debts = parcel :: rest)
    (ready : (ledger.stances thread).Ready tree.roots parcel)
    (written : workspace.linesOf? parcel.content.file = some parcel.lines) :
    ledger.Fulfilled tree parcel := by
  have member : parcel ∈ (ledger.stances thread).debts := by simp [owed]
  have taken := (kept.counted.debts thread parcel member).1
  constructor
  · unfold Stance.Ready at ready
    split at ready
    · rename_i event
      obtain ⟨queue, key, seen, own, empty⟩ := ready
      refine kept.ahead seen own empty taken fun other mine also => ?_
      have sorted := kept.stored.sorted thread
      rw [owed] at sorted mine
      rcases List.mem_cons.mp mine with rfl | later
      · exact le_refl _
      · exact Nat.le_of_lt ((List.pairwise_cons.mp sorted).1 other later event also)
    · rename_i plain
      exact lasting.cleared thread ready parcel member (Bool.eq_false_iff.mpr plain)
  · have here : ledger.world.workspace = workspace :=
      kept.viewed.documents thread workspace (by rw [reading]; rfl)
    rw [← here, lasting.latest] at written
    obtain ⟨change, latest, lines⟩ := Option.map_eq_some_iff.mp written
    exact ⟨change, latest, .inl lines⟩

section Acting

variable {thread : Nat} {operation : Operation} {answer : operation.Answer} {world : World}
  {after : Stance} {waiting : Waiting} {started : Option Stance} (here : thread < ledger.threads)
  (performed : ledger.world.perform host thread operation = some (world, answer))
  (shift : Shift tree.roots ledger.news (ledger.stances thread) operation answer after waiting
    started)

theorem pending_of_owed (owed : parcel ∈ after.debts) :
    (ledger.acted thread operation world after waiting started).Pending parcel := by
  refine .inl ⟨thread, ?_⟩
  change parcel ∈ (ledger.seat thread after started thread).debts
  rw [seat_self]
  exact owed

include here performed shift

/-- What a thread owes: after its step it has still to be written, was left to a preview, or has
just been written. -/
theorem Kept.owed_acted (kept : ledger.Kept tree.roots) (lasting : ledger.Lasting tree.roots)
    (grown : ledger.Grown (ledger.acted thread operation world after waiting started))
    (owed : parcel ∈ (ledger.stances thread).debts) :
    (ledger.acted thread operation world after waiting started).Pending parcel ∨
      (ledger.acted thread operation world after waiting started).chronicle.Entered parcel.index ∨
      ledger.Fulfilled tree parcel := by
  rcases shift.discharges owed with
    still | ⟨child, rfl, handed⟩ | ⟨key, queued⟩ |
    ⟨workspace, rest, reading, debts, ready, written⟩ | ⟨buffer, effects, same, plain, worker⟩
  · exact .inl (pending_of_owed still)
  · refine .inl (.inl ⟨ledger.threads, ?_⟩)
    change parcel ∈ (ledger.seat thread after (some child) ledger.threads).debts
    rw [seat, if_neg (Nat.ne_of_gt here)]
    simpa using handed
  · exact .inl (.inr ⟨key, queued⟩)
  · exact .inr (.inr (kept.fulfilled lasting reading debts ready written))
  · cases same
    have task := (kept.tasked.owed thread parcel owed plain).resolve_left (by simp [worker])
    refine .inr (.inl ⟨thread, ?_, grown.tasks task⟩)
    change thread ∈ if (ledger.world.float.hoverAgain buffer).isSome then _ else _
    have shown : ledger.world.float.hoverAgain buffer = some effects :=
      congrArg Prod.snd (Option.some.inj performed)
    rw [shown]
    exact List.mem_cons_self

theorem Kept.pending_acted (kept : ledger.Kept tree.roots) (lasting : ledger.Lasting tree.roots)
    (grown : ledger.Grown (ledger.acted thread operation world after waiting started))
    (pending : ledger.Pending parcel) :
    (ledger.acted thread operation world after waiting started).Pending parcel ∨
      (ledger.acted thread operation world after waiting started).chronicle.Entered parcel.index ∨
      ledger.Fulfilled tree parcel := by
  rcases pending with ⟨debtor, owed⟩ | ⟨key, queued⟩
  · obtain ⟨rfl, _⟩ | ⟨_, same⟩ | ⟨_, last, _⟩ := @seat_cases ledger thread after started debtor
    · exact kept.owed_acted here performed shift lasting grown owed
    · refine .inl (.inl ⟨debtor, ?_⟩)
      change parcel ∈ (ledger.seat thread after started debtor).debts
      rw [same]
      exact owed
    · rw [kept.manned.unborn debtor (Nat.le_of_eq last.symm)] at owed
      cases owed
  · rcases shift.fetches queued with fetched | waits
    · exact .inl (pending_of_owed fetched)
    · exact .inl (.inr ⟨key, waits⟩)

omit here

/-- The text of a message that is taken has to be written. -/
theorem Kept.pending_received (kept : ledger.Kept tree.roots)
    (came : ledger.chronicle.parcelAt parcel.index = some parcel)
    (fresh : ¬ parcel.index < ledger.taken)
    (taken : parcel.index < (ledger.acted thread operation world after waiting started).taken) :
    (ledger.acted thread operation world after waiting started).Pending parcel := by
  by_cases receives : operation = .receive .editor
  · subst receives
    obtain ⟨_, _, _, message, rfl, _⟩ := shift.receives
    rw [kept.dealt.taken_of_receive performed] at taken
    have last : parcel.index = ledger.taken := by omega
    refine pending_of_owed ?_
    cases shift with
    | harmless harmless => exact harmless.elim
    | receive =>
      rw [last] at came
      exact Option.mem_toList.mpr came
  · rw [taken_of_ne performed receives] at taken
    exact absurd taken fresh

end Acting

theorem Fated.advance (fated : ledger.Fated tree) (kept : ledger.Kept tree.roots)
    (lasting : ledger.Lasting tree.roots) (advances : ledger.Advances host tree.roots next) :
    next.Fated tree := by
  have grown := kept.dealt.grown advances
  intro parcel came taken
  have fulfills (early : parcel.index < ledger.taken) (fulfilled : ledger.Fulfilled tree parcel) :
      next.Fulfilled tree parcel :=
    fulfilled.advance kept lasting (grown.parcelAt_of_lt early ▸ came) early advances
  -- a text that was taken before: what it was, or what became of it in this step
  have before (early : parcel.index < ledger.taken)
      (pending : ledger.Pending parcel → next.Pending parcel ∨
        next.chronicle.Entered parcel.index ∨ ledger.Fulfilled tree parcel) :
      next.Pending parcel ∨ next.chronicle.Entered parcel.index ∨ next.Fulfilled tree parcel := by
    rw [grown.parcelAt_of_lt early] at came
    rcases fated parcel came early with waits | ⟨thread, entered, task⟩ | fulfilled
    · exact (pending waits).imp_right fun done => done.imp_right (fulfills early)
    · exact .inr (.inl ⟨thread, grown.entered entered, grown.tasks task⟩)
    · exact .inr (.inr (fulfills early fulfilled))
  cases advances with
  | act here performed _ shift =>
    by_cases early : parcel.index < ledger.taken
    · exact before early (kept.pending_acted here performed shift lasting grown)
    · exact .inl (kept.pending_received performed shift came early taken)
  | finish => exact before taken .inl
  | @happen happening =>
    rw [taken_of_happening] at taken
    exact before taken .inl

end Ledger

end LanguageBridge
