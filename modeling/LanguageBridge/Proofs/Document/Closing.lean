import LanguageBridge.Proofs.Document.Attended
import LanguageBridge.Proofs.Script.Exchanges

/-!
What is left of a file that is closed. It is tracked no more, whatever comes of telling its server,
and nothing of other files changes. But when the server cannot be told, the file's diagnostics stay,
and so does the session, even if this was its last document.
-/
namespace LanguageBridge

variable {host : Host} {thread : Nat} {world last : World} {session : Session} {file : String}

namespace Workspace

/-- Nothing that is known of other files differs. -/
structure AlikeBeside (file : String) (before after : Workspace) : Prop where
  documents : ∀ other, other ≠ file → after.documents.get? other = before.documents.get? other
  diagnostics : ∀ other, other ≠ file → after.diagnostics.get? other = before.diagnostics.get? other

variable (workspace : Workspace)

theorem alikeBeside_untrack : AlikeBeside file workspace (workspace.untrack file) where
  documents := fun other apart => by simp [untrack, Ne.symm apart]
  diagnostics := fun _ _ => rfl

theorem alikeBeside_forget : AlikeBeside file workspace (workspace.forget file) where
  documents := fun other apart => by simp [forget, Ne.symm apart]
  diagnostics := fun other apart => by simp [forget, Ne.symm apart]

/-- A session has no documents without a file if it has none but that. -/
theorem documentsOf_forget_eq_nil_iff {key : SessionKey} :
    (workspace.forget file).documentsOf key = [] ↔
      ∀ entry ∈ workspace.documentsOf key, entry.1 = file := by
  simp only [documentsOf, forget, Table.erase, List.filter_eq_nil_iff, List.mem_filter]
  constructor
  · rintro none entry ⟨member, own⟩
    by_contra apart
    exact none entry ⟨member, by simpa using apart⟩ own
  · rintro sole entry ⟨member, apart⟩ own
    simp [sole entry ⟨member, own⟩] at apart

end Workspace

/-- What is known of a file and of all others after it was closed in a session. -/
structure Parted (session : Session) (file : String) (outcome : Outcome Nat) (world last : World) :
    Prop where
  untracked : last.workspace.documents.get? file = none
  others : world.workspace.AlikeBeside file last.workspace
  undiagnosed : last.workspace.diagnostics.get? file = none ↔
    (∃ count, outcome = .ok count) ∨ world.workspace.diagnostics.get? file = none
  kept : ∀ failure, outcome = .error failure →
    last.workspace.diagnostics.get? file = world.workspace.diagnostics.get? file
  counted : ∀ count, outcome = .ok count →
    count = (last.workspace.documentsOf session.key).length
  untold : ∀ failure, outcome = .error failure → world.workspace.documents.get? file ≠ none ∧
    (Uri.ofFileName file = .error failure ∨
      failure = .terminated ∧ last.isAlive session.peer = false)

namespace Closing

variable {outcome : Outcome Nat}

theorem of_undisturbed {before : World} (drift : before.Undisturbed world)
    (closing : Closing session file world last outcome) :
    Closing session file before last outcome := by
  cases closing with
  | untracked absent forgot =>
    rw [drift.workspace] at absent forgot
    exact .untracked absent ((drift.withWorkspace _).trans forgot)
  | told tracked named alive forgot =>
    rw [drift.workspace] at tracked forgot
    exact .told tracked named (drift.dead _ alive) (((drift.withWorkspace _).told _).trans forgot)
  | unnamed tracked unnamed untracked =>
    rw [drift.workspace] at tracked untracked
    exact .unnamed tracked unnamed ((drift.withWorkspace _).trans untracked)
  | lost tracked gone untracked =>
    rw [drift.workspace] at tracked untracked
    exact .lost tracked gone ((drift.withWorkspace _).trans untracked)

theorem sessions (closing : Closing session file world last outcome) :
    last.sessions = world.sessions := by
  cases closing with
  | untracked _ forgot => exact forgot.sessions
  | told _ _ _ forgot => exact forgot.sessions
  | unnamed _ _ untracked => exact untracked.sessions
  | lost _ _ untracked => exact untracked.sessions

theorem forgotten {count : Nat} (closing : Closing session file world last (.ok count)) :
    last.workspace = world.workspace.forget file := by
  cases closing with
  | untracked _ forgot => exact forgot.workspace
  | told _ _ _ forgot => exact forgot.workspace

theorem kept {failure : Failure} (closing : Closing session file world last (.error failure)) :
    last.workspace = world.workspace.untrack file := by
  cases closing with
  | unnamed _ _ untracked => exact untracked.workspace
  | lost _ _ untracked => exact untracked.workspace

/-- A document that is closed is the session's last if it was the only one. -/
theorem last_iff {count : Nat} (closing : Closing session file world last (.ok count)) :
    count = 0 ↔ ∀ entry ∈ world.workspace.documentsOf session.key, entry.1 = file := by
  rw [closing.count, closing.forgotten, List.length_eq_zero_iff]
  exact world.workspace.documentsOf_forget_eq_nil_iff

theorem parted (closing : Closing session file world last outcome) :
    Parted session file outcome world last := by
  cases outcome with
  | ok count =>
    have forgot := closing.forgotten
    exact {
      untracked := by simp [forgot, Workspace.forget]
      others := by rw [forgot]; exact world.workspace.alikeBeside_forget
      undiagnosed := by simp [forgot, Workspace.forget]
      kept := by rintro failure ⟨⟩
      counted := by rintro _ ⟨⟩; exact closing.count
      untold := by rintro failure ⟨⟩ }
  | error failure =>
    have same := closing.kept
    have untold : world.workspace.documents.get? file ≠ none ∧
        (Uri.ofFileName file = .error failure ∨
          failure = .terminated ∧ last.isAlive session.peer = false) := by
      cases closing with
      | unnamed tracked unnamed _ => exact ⟨tracked, .inl unnamed⟩
      | lost tracked gone _ => exact ⟨tracked, .inr ⟨rfl, gone⟩⟩
    exact {
      untracked := by simp [same, Workspace.untrack]
      others := by rw [same]; exact world.workspace.alikeBeside_untrack
      undiagnosed := by simp [same, Workspace.untrack]
      kept := by rintro _ ⟨⟩; rw [same]; rfl
      counted := by rintro count ⟨⟩
      untold := by rintro _ ⟨⟩; exact untold }

end Closing

/-- What is known of a file does not change when sessions do. -/
theorem Parted.later {outcome : Outcome Nat} {after : World}
    (parted : Parted session file outcome world last) {sessions : Table SessionKey Session}
    (drift : ({ last with sessions } : World).Undisturbed after) :
    Parted session file outcome world after where
  untracked := by rw [drift.workspace]; exact parted.untracked
  others := by rw [drift.workspace]; exact parted.others
  undiagnosed := by rw [drift.workspace]; exact parted.undiagnosed
  kept := by rw [drift.workspace]; exact parted.kept
  counted := by rw [drift.workspace]; exact parted.counted
  untold := fun failure failed => (parted.untold failure failed).imp_right fun reason =>
    reason.imp_right fun lost => lost.imp_right drift.gone

/-- What becomes of a file and its session when the editor closes it: it is closed in the session,
or the session's server is found to be gone. -/
structure Departed (session : Session) (file : String) (outcome : Outcome Unit)
    (world last : World) : Prop where
  closed : last.workspace.documents.get? file = none →
    ∃ result, outcome = Except.map (fun _ => ()) result ∧ Parted session file result world last
  bereft : last.workspace.documents.get? file ≠ none →
    last.workspace = world.workspace ∧ last.isAlive session.peer = false
  ended : last.sessions.get? session.key = none ↔ outcome = .ok () ∧
    (last.workspace.documents.get? file ≠ none ∨
      ∀ entry ∈ world.workspace.documentsOf session.key, entry.1 = file)
  others : ∀ other, other ≠ session.key → last.sessions.get? other = world.sessions.get? other

theorem Editor.documentClosed_departed {name : DocumentName} {document : Document}
    (tracked : world.workspace.documents.get? name.file = some document)
    (registered : world.sessions.get? document.session = some session)
    (keyed : session.key = document.session) {outcome : Outcome Unit}
    (runs : Job.Runs host thread (documentClosed name) world outcome last) :
    Departed session name.file outcome world last := by
  rcases Job.Runs.of_bind runs with ⟨failure, _, looking⟩ | ⟨found, here, looking, rest⟩
  · rcases Session.trackedContext?_effect tracked looking with
      ⟨_, _, impossible, _⟩ | ⟨impossible, _⟩ <;> cases impossible
  rcases Session.trackedContext?_effect tracked looking with
    ⟨context, same, given, held, known, drift⟩ | ⟨given, bereft, dropped⟩
  · cases given
    obtain rfl : session = same := Option.some.inj (registered.symm.trans known)
    rcases rest.of_bind with ⟨failure, rfl, closing⟩ | ⟨count, there, closing, rest⟩
    · have closing := (Context.didClose_closing held closing).of_undisturbed drift
      refine ⟨fun _ => ⟨.error failure, rfl, closing.parted⟩, ?_, ?_, ?_⟩
      · exact fun some => absurd closing.parted.untracked some
      · rw [closing.sessions, keyed, registered]
        simp
      · exact fun other _ => by rw [closing.sessions]
    have closing := (Context.didClose_closing held closing).of_undisturbed drift
    have empty := closing.last_iff
    split at rest
    · rename_i zero
      rw [Context.attached_eq held, pure_bind] at rest
      have ended : outcome = .ok () ∧ World.Undisturbed
          { there with sessions := there.sessions.erase session.key } last := by
        rcases rest.of_bind with ⟨failure, rfl, ending⟩ | ⟨_, later, ending, rest⟩
        · obtain ⟨⟨_, impossible⟩, _⟩ := Session.close_effect ending
          cases impossible
        · obtain ⟨done, after⟩ := rest.of_pure
          exact ⟨done, (Session.close_effect ending).2.trans after⟩
      obtain ⟨rfl, out⟩ := ended
      have parted := closing.parted.later out
      refine ⟨fun _ => ⟨.ok count, rfl, parted⟩, ?_, ?_, ?_⟩
      · exact fun some => absurd parted.untracked some
      · exact ⟨fun _ => ⟨rfl, .inr (empty.mp zero)⟩, fun _ => by simp [out.sessions]⟩
      · intro other apart
        rw [out.sessions, ← closing.sessions]
        simp [Ne.symm apart]
    · rename_i some
      obtain ⟨rfl, after⟩ := rest.of_pure
      have parted := closing.parted.later after
      have more : ¬ ∀ entry ∈ world.workspace.documentsOf session.key, entry.1 = name.file :=
        fun sole => some (empty.mpr sole)
      refine ⟨fun _ => ⟨.ok count, rfl, parted⟩, ?_, ?_, ?_⟩
      · exact fun some => absurd parted.untracked some
      · rw [after.sessions, closing.sessions, keyed, registered, ← keyed]
        simp only [reduceCtorEq, false_iff, true_and, parted.untracked]
        exact fun sole => sole.elim (absurd rfl) more
      · exact fun other _ => by rw [after.sessions, closing.sessions]
  · cases given
    obtain ⟨rfl, after⟩ := rest.of_pure
    have out := dropped.trans after
    have still : last.workspace.documents.get? name.file ≠ none := by
      rw [out.workspace]
      simp [tracked]
    refine ⟨fun none => absurd none still, fun _ => ⟨out.workspace, ?_⟩, ?_, ?_⟩
    · exact after.gone (bereft session registered)
    · simp [out.sessions, keyed, still]
    · intro other apart
      rw [keyed] at apart
      simp [out.sessions, Ne.symm apart]

theorem Context.didClose_inTurns (context : Context) (file : String) :
    (context.didClose file).InTurns false := by
  refine context.attached_inTurns.bind fun session => .holding ?_
  refine Job.InTurns.ask_bind rfl fun (workspace : Workspace) => ?_
  dsimp only
  split
  · refine Job.InTurns.ask_bind rfl fun _ => (Job.InTurns.ofOutcome _).bind fun uri => ?_
    exact (Job.InTurns.notify ..).bind fun _ => Job.InTurns.ask_bind rfl fun _ => .pure _
  · exact Job.InTurns.ask_bind rfl fun _ => .pure _

/-- Closing a file never gets stuck while no locks are held. Without a session nothing is closed. In
a session the file is tracked no more and all others are as they were, but its diagnostics are
forgotten only if the server could be told. The session whose last document the editor closes goes
out of use exactly if nothing fails. -/
theorem closed_file_forgotten_iff (host : Host) (thread : Nat) (world : World) :
    (∀ (context : Context) (file : String),
      (world.held = [] → ∀ left there, (context.didClose file).run.Reaches host thread
        Script.Surroundings world left there → left.Proceeds host thread there) ∧
      ∀ outcome last, Job.Runs host thread (context.didClose file) world outcome last →
        (context.session = none →
          outcome = .error (.unavailable context.language "no session attached") ∧
            world.Undisturbed last) ∧
        ∀ session, context.session = some session →
          Parted session file outcome world last ∧ last.sessions = world.sessions) ∧
    ∀ (params : Json) (name : DocumentName) (document : Document) (session : Session)
      (outcome : Outcome Unit) (last : World), DocumentName.read params = .ok name →
      world.workspace.documents.get? name.file = some document →
      world.sessions.get? document.session = some session → session.key = document.session →
      Job.Runs host thread (Editor.handleEvent "textDocument/didClose" params) world outcome last →
        Departed session name.file outcome world last := by
  constructor
  · intro context file
    refine ⟨fun free left there reaches => ?_, fun outcome last runs => ⟨fun none => ?_, ?_⟩⟩
    · exact Script.InTurns.proceeds (context.didClose_inTurns file) free reaches
    · rcases Context.of_attached runs with ⟨_, failed, drift⟩ | ⟨session, _, found, _⟩
      · exact ⟨failed, drift⟩
      · rw [none] at found
        cases found
    · intro session held
      have closing := Context.didClose_closing held runs
      exact ⟨closing.parted, closing.sessions⟩
  · intro params name document session outcome last read tracked registered keyed runs
    rw [Editor.handleEvent_didClose read] at runs
    exact Editor.documentClosed_departed tracked registered keyed runs

/-- The session of the documents below. -/
def closingSession : Session where
  key := ⟨"go", "/"⟩
  server := ⟨"go", 1⟩

/-- A session's only document, for which a diagnostic was published. -/
def flaggedDocument : World where
  workspace :=
    { documents := .ofList [("/a.go", .ofText closingSession.key "x".toList)]
      diagnostics := .ofList [("/a.go", [{ span := ⟨⟨0, 0⟩, ⟨0, 1⟩⟩, message := "unused" }])] }
  sessions := .ofList [(closingSession.key, closingSession)]

/-- What the editor says when it closes the document. -/
def closesFlagged : Json := .obj [("text_document", .str "/a.go"), ("language_id", .str "go")]

/-- While the server is there, nothing is left of the document or of its session. -/
theorem told_file_forgotten : ∃ last,
    Job.Runs {} 0 (Editor.handleEvent "textDocument/didClose" closesFlagged) flaggedDocument (.ok ())
      last ∧
    last.workspace.documents.get? "/a.go" = none ∧ last.workspace.diagnostics.get? "/a.go" = none ∧
    last.sessions.get? closingSession.key = none := by
  have ran : ((Editor.handleEvent "textDocument/didClose" closesFlagged).run.run? {} 0
      flaggedDocument).map (fun result =>
        (result.1.toOption, (result.2.workspace.documents.get? "/a.go").isNone)) =
          some (some (), true) := by
    decide +kernel
  obtain ⟨⟨outcome, last⟩, handled, facts⟩ := Option.map_eq_some_iff.mp ran
  cases outcome with
  | error failure => simp [Except.toOption] at facts
  | ok value =>
    have untracked : last.workspace.documents.get? "/a.go" = none := by
      simpa [Except.toOption] using facts
    have runs := Script.runs_of_run? handled
    have departed := (closed_file_forgotten_iff {} 0 flaggedDocument).2 closesFlagged
      ⟨"/a.go", "go"⟩ _ closingSession (.ok ()) last rfl rfl rfl rfl runs
    obtain ⟨result, same, parted⟩ := departed.closed untracked
    cases result with
    | error failure => cases same
    | ok count =>
      refine ⟨last, runs, untracked, parted.undiagnosed.mpr (.inl ⟨count, rfl⟩), ?_⟩
      refine departed.ended.mpr ⟨rfl, .inr ?_⟩
      decide

/-- When the server goes away before it can be told, the diagnostics of the document stay, and so
does the session. -/
theorem untold_file_remembered :
    (¬ ∀ (host : Host) (thread : Nat) (world last : World) (context : Context) (session : Session)
      (file : String) (outcome : Outcome Nat), context.session = some session →
      Job.Runs host thread (context.didClose file) world outcome last →
        last.workspace.documents.get? file = none ∧
        last.workspace.diagnostics.get? file = none) ∧
    ¬ ∀ (host : Host) (thread : Nat) (world last : World) (params : Json) (name : DocumentName)
      (document : Document) (session : Session) (outcome : Outcome Unit),
      DocumentName.read params = .ok name →
      world.workspace.documents.get? name.file = some document →
      world.sessions.get? document.session = some session → session.key = document.session →
      (∀ entry ∈ world.workspace.documentsOf session.key, entry.1 = name.file) →
      Job.Runs host thread (Editor.handleEvent "textDocument/didClose" params) world outcome last →
        last.sessions.get? session.key = none := by
  constructor
  · intro claimed
    have ran : (((Context.ofSession closingSession).didClose "/a.go").run.run? {} 0
        (flaggedDocument.after (.disconnect closingSession.peer))).map (fun result =>
          (result.2.workspace.diagnostics.get? "/a.go").isSome) = some true := by
      decide +kernel
    obtain ⟨⟨outcome, last⟩, closed, kept⟩ := Option.map_eq_some_iff.mp ran
    have forgotten := claimed _ _ _ last _ closingSession _ _ rfl (Script.runs_of_run? closed)
    simp [forgotten.2] at kept
  · intro claimed
    let context : Context :=
      { session := some closingSession, language := "go", file := "/a.go" }
    have found : (Session.trackedContext? "/a.go").run.run? {} 0 flaggedDocument =
        some (.ok (some context), flaggedDocument) := by
      rfl
    have ran : ((context.didClose "/a.go").run.run? {} 0
        (flaggedDocument.after (.disconnect closingSession.peer))).map (fun result =>
          (result.1.isOk, (result.2.sessions.get? closingSession.key).isSome)) =
            some (false, true) := by
      decide +kernel
    obtain ⟨⟨outcome, last⟩, closed, facts⟩ := Option.map_eq_some_iff.mp ran
    cases outcome with
    | ok count => simp [Except.isOk, Except.toBool] at facts
    | error failure =>
      have closing : Job.Runs {} 0 (context.didClose "/a.go") flaggedDocument (.error failure) last :=
        .happen _ (Script.runs_of_run? closed)
      have handled : Job.Runs {} 0 (Editor.documentClosed ⟨"/a.go", "go"⟩) flaggedDocument
          (.error failure) last :=
        .andThen (Script.runs_of_run? found) (Script.Runs.andThen closing (.done _ _))
      have read : DocumentName.read closesFlagged = .ok ⟨"/a.go", "go"⟩ := by rfl
      rw [← Editor.handleEvent_didClose read] at handled
      have ended := claimed _ _ _ last closesFlagged _ _ closingSession _ rfl rfl rfl rfl (by decide)
        handled
      simp [ended] at facts

end LanguageBridge
