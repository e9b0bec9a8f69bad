import Mathlib.Logic.Relation
import LanguageBridge.Proofs.Script.Runs
import LanguageBridge.Proofs.Script.Reaches
import LanguageBridge.Session.Context

/-!
What is said in a run, to the letter, and what is tracked after it. A call is answered once, and its
outcome is read off the answer.
-/
namespace LanguageBridge

/-- What is tracked after a run, and what was said in it. -/
structure World.Becomes (workspace : Workspace) (said : List Sent) (before after : World) :
    Prop where
  workspace : after.workspace = workspace
  traffic : after.traffic = before.traffic ++ said
  dead : ∀ peer, after.isAlive peer = true → before.isAlive peer = true

namespace World

variable {before middle after : World} {workspace further : Workspace} {said more : List Sent}

theorem Undisturbed.becomes (drift : before.Undisturbed after) :
    Becomes before.workspace [] before after where
  workspace := drift.workspace
  traffic := by rw [drift.traffic, List.append_nil]
  dead := drift.dead

theorem Undisturbed.becomes_told {sent : Sent} (drift : (before.told sent).Undisturbed after) :
    Becomes before.workspace [sent] before after :=
  ⟨drift.workspace, drift.traffic, drift.dead⟩

theorem Becomes.trans (first : Becomes workspace said before middle)
    (second : Becomes further more middle after) : Becomes further (said ++ more) before after where
  workspace := second.workspace
  traffic := by rw [second.traffic, first.traffic, List.append_assoc]
  dead := fun peer alive => first.dead peer (second.dead peer alive)

/-- What is said does not change what is tracked. -/
theorem Becomes.tells (first : Becomes workspace said before middle)
    (second : Becomes middle.workspace more middle after) :
    Becomes workspace (said ++ more) before after := by
  have whole := first.trans second
  rwa [first.workspace] at whole

theorem Undisturbed.becomes_tracked (drift : ({ before with workspace } : World).Undisturbed after) :
    Becomes workspace [] before after :=
  ⟨drift.workspace, by rw [drift.traffic, List.append_nil], drift.dead⟩

theorem Becomes.undisturbed (becomes : Becomes workspace said before middle)
    (drift : middle.Undisturbed after) : Becomes workspace said before after where
  workspace := drift.workspace.trans becomes.workspace
  traffic := drift.traffic.trans becomes.traffic
  dead := fun peer alive => becomes.dead peer (drift.dead peer alive)

theorem Undisturbed.becomes_of (drift : before.Undisturbed middle)
    (becomes : Becomes workspace said middle after) : Becomes workspace said before after where
  workspace := becomes.workspace
  traffic := by rw [becomes.traffic, drift.traffic]
  dead := fun peer alive => drift.dead peer (becomes.dead peer alive)

end World

/-- The surroundings did what they did. -/
abbrev World.Meanwhile : World → World → Prop := Relation.ReflTransGen Script.Surroundings

theorem World.Meanwhile.undisturbed {world here : World} (meanwhile : world.Meanwhile here) :
    world.Undisturbed here := by
  induction meanwhile with
  | refl => exact .refl _
  | tail _ moved ih =>
    obtain ⟨happening, rfl⟩ := moved
    exact ih.trans (.happening _ happening)

variable {host : Host} {thread : Nat} {world last : World} {α β : Type}

/-- Before a step the surroundings may act, and nobody else. -/
theorem Script.Runs.of_step_meanwhile {operation : Operation}
    {next : operation.Answer → Script α} {value : α}
    (runs : Runs host thread (.step operation next) world value last) :
    ∃ here later answer, world.Meanwhile here ∧
      here.perform host thread operation = some (later, answer) ∧
      Runs host thread (next answer) later value last := by
  generalize whole : Script.step operation next = script at runs
  induction runs with
  | done => cases whole
  | step performed rest =>
    cases whole
    exact ⟨_, _, _, .refl, performed, rest⟩
  | happen happening _ ih =>
    obtain ⟨here, later, answer, meanwhile, performed, rest⟩ := ih whole
    exact ⟨here, later, answer, .head ⟨happening, rfl⟩ meanwhile, performed, rest⟩

namespace Job

/-- What a call comes to, once it is answered. -/
def readAnswer (method : String) (read : Json → Shaped α) (answer : Outcome Json) : Outcome α := do
  match read (← answer) with
  | .ok value => .ok value
  | .error _ => .error (.malformedResult method)

/-- A call is answered under a ticket, and comes to what its answer is read as. -/
def Answered (world : World) (ticket : Nat) (method : String) (read : Json → Shaped α)
    (outcome : Outcome α) : Prop :=
  ∃ answer, world.answers.get? ticket = some answer ∧ outcome = readAnswer method read answer

/-- What is tracked is read as it is, after whatever the surroundings did. -/
theorem Runs.of_workspace_meanwhile {next : Workspace → Job β} {outcome : Outcome β}
    (runs : Runs host thread (ask .workspace >>= next) world outcome last) :
    ∃ here, world.Meanwhile here ∧ Runs host thread (next world.workspace) here outcome last := by
  obtain ⟨here, later, answer, meanwhile, performed, rest⟩ :=
    Script.Runs.of_step_meanwhile runs
  simp only [World.perform] at performed
  split at performed
  · cases performed
    rw [meanwhile.undisturbed.workspace] at rest
    exact ⟨here, meanwhile, rest⟩
  · cases performed

/-- The disk is read as it is by then. -/
theorem Runs.of_disk_meanwhile {next : FileTree → Job β} {outcome : Outcome β}
    (runs : Runs host thread (ask .disk >>= next) world outcome last) :
    ∃ here, world.Meanwhile here ∧ Runs host thread (next here.tree) here outcome last := by
  obtain ⟨here, later, answer, meanwhile, performed, rest⟩ :=
    Script.Runs.of_step_meanwhile runs
  cases performed
  exact ⟨here, meanwhile, rest⟩

/-- A notification is said, or its peer is gone. -/
theorem Runs.notifies {peer : Peer} {method : String} {params : Json} {outcome : Outcome Unit}
    (runs : Runs host thread (notify peer method params) world outcome last) :
    (outcome = .ok () ∧ World.Becomes world.workspace
        [.notification peer method (Params.ofJson params)] world last) ∨
      (outcome = .error .terminated ∧ last.isAlive peer = false ∧
        World.Becomes world.workspace [] world last) := by
  rcases runs.of_notify with ⟨done, _, told⟩ | ⟨failed, gone, drift⟩
  · exact .inl ⟨done, told.becomes_told⟩
  · exact .inr ⟨failed, gone, drift.becomes⟩

theorem Runs.awaits {ticket : Nat} {outcome : Outcome Json}
    (runs : Runs host thread (ExceptT.mk (Script.ask (.await ticket)) : Job Json) world outcome
      last) :
    last.answers.get? ticket = some outcome ∧ world.Undisturbed last := by
  obtain ⟨here, later, answer, before, performed, rest⟩ := Script.Runs.of_step runs
  obtain ⟨given, found, same⟩ := Option.map_eq_some_iff.mp performed
  obtain ⟨rfl, rfl⟩ := Prod.mk.inj same
  have there := rest.answers found
  obtain ⟨rfl, after⟩ := rest.of_done
  exact ⟨there, before.trans after⟩

/-- A call is made and answered, or its peer is gone. -/
theorem Runs.calls {peer : Peer} {method : String} {params : Json} {read : Json → Shaped α}
    {outcome : Outcome α}
    (runs : Runs host thread (call peer method params read) world outcome last) :
    (∃ ticket, Answered last ticket method read outcome ∧ World.Becomes world.workspace
        [.call peer ticket method (Params.ofJson params)] world last) ∨
      (outcome = .error .terminated ∧ last.isAlive peer = false ∧
        World.Becomes world.workspace [] world last) := by
  unfold call at runs
  have made {given : Outcome Nat} {later : World}
      (first : Runs host thread (ExceptT.mk (Script.ask (.call peer method params)) : Job Nat) world
        given later) :
      (∃ ticket, given = .ok ticket ∧ World.Becomes world.workspace
          [.call peer ticket method (Params.ofJson params)] world later) ∨
        (given = .error .terminated ∧ later.isAlive peer = false ∧
          World.Becomes world.workspace [] world later) := by
    obtain ⟨here, spoken, before, performed, after⟩ := Script.Runs.of_ask first
    simp only [World.perform] at performed
    by_cases alive : here.isAlive peer = true
    · rw [World.say_of_alive _ alive] at performed
      obtain ⟨rfl, rfl⟩ := Prod.mk.inj (Option.some.inj performed)
      refine .inl ⟨here.tickets, rfl, ((before.told _).trans ?_).becomes_told⟩
      exact ⟨after.workspace, after.sessions, after.connected, after.traffic, after.dead⟩
    · rw [World.say_of_dead _ alive] at performed
      obtain ⟨rfl, rfl⟩ := Prod.mk.inj (Option.some.inj performed)
      exact .inr ⟨rfl, after.gone (Bool.eq_false_iff.mpr alive), (before.trans after).becomes⟩
  rcases runs.of_bind with ⟨failure, rfl, first⟩ | ⟨ticket, called, first, others⟩
  · rcases made first with ⟨_, impossible, _⟩ | ⟨same, gone, becomes⟩
    · cases impossible
    · exact .inr ⟨by rw [Except.error.inj same], gone, becomes⟩
  rcases made first with ⟨same, given, becomes⟩ | ⟨impossible, _⟩
  · obtain rfl : ticket = same := Except.ok.inj given
    rcases others.of_bind with ⟨failure, rfl, waiting⟩ | ⟨result, here, waiting, reading⟩
    · obtain ⟨answered, drift⟩ := waiting.awaits
      exact .inl ⟨ticket, ⟨_, answered, rfl⟩, becomes.undisturbed drift⟩
    · obtain ⟨answered, drift⟩ := waiting.awaits
      have there := Script.Runs.answers reading answered
      cases shaped : read result with
      | ok value =>
        simp only [shaped] at reading
        obtain ⟨rfl, after⟩ := reading.of_pure
        refine .inl ⟨ticket, ⟨_, there, ?_⟩, becomes.undisturbed (drift.trans after)⟩
        simp [readAnswer, shaped, bind, Except.bind]
      | error error =>
        simp only [shaped] at reading
        obtain ⟨rfl, after⟩ := reading.of_throw
        refine .inl ⟨ticket, ⟨_, there, ?_⟩, becomes.undisturbed (drift.trans after)⟩
        simp [readAnswer, shaped, bind, Except.bind]
  · cases impossible

end Job

theorem Context.attached_inTurns (context : Context) : context.attached.InTurns false := by
  unfold attached
  split
  · exact .pure _
  · exact .throw _

end LanguageBridge
