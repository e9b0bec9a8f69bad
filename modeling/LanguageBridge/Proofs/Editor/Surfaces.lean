import Mathlib.Data.List.Nodup
import LanguageBridge.Proofs.Editor.Replies
import LanguageBridge.Proofs.Server.Replies

/-!
No floating preview is forgotten. Each surface that the editor has opened is recorded once, whatever
the order in which racing hovers come to it, and each that was recorded is closed once or still
floats.
-/
namespace LanguageBridge

/-- The surface that an effect destroys. -/
def FloatEffect.destroyed? : FloatEffect → Option Surface
  | .destroy surface => some surface
  | _ => none

/-- The buffer that an effect wipes. -/
def FloatEffect.wiped? : FloatEffect → Option Nat
  | .wipe buffer => some buffer
  | _ => none

/-- Whether an effect closes a surface. -/
def FloatEffect.closes : FloatEffect → Bool
  | .focus _ => false
  | _ => true

/-- The surface that floats. -/
def FloatingWindow.surface? : FloatingWindow → Option Surface
  | .shown _ surface => some surface
  | .closed => none

/-- The surface that the editor opened when it was asked to, by its answer. -/
def Sent.opened? (answers : Table Nat (Outcome Json)) : Sent → Option Surface
  | .call .editor ticket method _ =>
    if method = "vim#open_float_win" then (answers.get? ticket).bind Surface.opened? else none
  | _ => none

/-- The surfaces that the editor has opened, in the order in which it was asked to. -/
def World.opened (world : World) : List Surface :=
  world.traffic.filterMap (Sent.opened? world.answers)

namespace Act

/-- The surface that an act recorded. -/
def revealed? : Act → Option Surface
  | ⟨.reveal _ surface, _⟩ => some surface
  | _ => none

/-- The surface that the editor opened because of an act. -/
def opened? (answers : Table Nat (Outcome Json)) (act : Act) : Option Surface :=
  act.sent?.bind (Sent.opened? answers)

end Act

/-- The effects that there were, in order. -/
def Journal.effects (journal : Journal) : List FloatEffect := journal.acts.flatMap Act.effects

/-- What has become of surfaces: each was closed once, by destroying it or by wiping its buffer, or
it floats, and no others were closed or float. -/
structure Accounted (opened : List Surface) (effects : List FloatEffect)
    (float : FloatingWindow) : Prop where
  once : ∀ surface ∈ opened, effects.count (.destroy surface) +
    effects.count (.wipe surface.buffer) + (if float.surface? = some surface then 1 else 0) = 1
  destroyed : ∀ surface, .destroy surface ∈ effects → surface ∈ opened
  wiped : ∀ buffer, .wipe buffer ∈ effects → ∃ surface ∈ opened, surface.buffer = buffer
  floating : ∀ surface, float.surface? = some surface → surface ∈ opened

/-- What has become of surfaces that were recorded: some were destroyed, the buffers of some were
wiped, and one may float. -/
structure Disposed (recorded : List Surface) (effects : List FloatEffect) (float : FloatingWindow)
    (wiped : List Surface) : Prop where
  all : recorded.Perm
    (effects.filterMap FloatEffect.destroyed? ++ wiped ++ float.surface?.toList)
  wipes : effects.filterMap FloatEffect.wiped? = wiped.map (·.buffer)

section Controller

variable {recorded wiped : List Surface} {effects : List FloatEffect} {float : FloatingWindow}

theorem FloatingWindow.effectsOf_cases (anchor : Anchor) (surface : Surface) (event : FloatEvent) :
    effectsOf anchor surface event = [] ∨ effectsOf anchor surface event = [.destroy surface] ∨
      effectsOf anchor surface event = [.wipe surface.buffer, .focus anchor.window] := by
  cases event with
  | cursorMoved | windowClosed =>
    rw [effectsOf]
    split <;> simp
  | bufferEntered =>
    rw [effectsOf]
    split
    · simp
    · split <;> simp

/-- An event leaves a preview alone, has it destroyed, or has its buffer wiped. -/
theorem FloatingWindow.handle_shown (anchor : Anchor) (surface : Surface) (event : FloatEvent) :
    (shown anchor surface).handle event = (shown anchor surface, []) ∨
      (shown anchor surface).handle event = (closed, [.destroy surface]) ∨
      (shown anchor surface).handle event =
        (closed, [.wipe surface.buffer, .focus anchor.window]) := by
  rw [handle]
  rcases effectsOf_cases anchor surface event with same | same | same <;> simp [same]

theorem FloatingWindow.hoverAgain_cases (float : FloatingWindow) (buffer : Nat) :
    (float.hoverAgain buffer).getD [] = [] ∨
      ∃ window, (float.hoverAgain buffer).getD [] = [.focus window] := by
  unfold hoverAgain
  split
  · split
    · exact .inr ⟨_, rfl⟩
    · split <;> exact .inl rfl
  · exact .inl rfl

theorem FloatingWindow.closing_first_of_handle {event : FloatEvent} {effect : FloatEffect}
    (member : effect ∈ (float.handle event).2) (closes : effect.closes = true) :
    ∃ others, (float.handle event).2 = effect :: others := by
  cases float with
  | closed => cases member
  | shown anchor surface =>
    rcases handle_shown anchor surface event with same | same | same <;> rw [same] at member ⊢
    · cases member
    · obtain rfl := List.mem_singleton.mp member
      exact ⟨[], rfl⟩
    · rcases List.mem_cons.mp member with rfl | focus
      · exact ⟨_, rfl⟩
      · obtain rfl := List.mem_singleton.mp focus
        cases closes

theorem FloatingWindow.closing_first_of_reveal {anchor : Anchor} {surface : Surface}
    {effect : FloatEffect} (member : effect ∈ (float.reveal anchor surface).2) :
    ∃ others, (float.reveal anchor surface).2 = effect :: others := by
  cases float with
  | closed => cases member
  | shown former previous =>
    obtain rfl := List.mem_singleton.mp member
    exact ⟨[], rfl⟩

theorem Disposed.reveal (disposed : Disposed recorded effects float wiped) (anchor : Anchor)
    (surface : Surface) : Disposed (recorded ++ [surface])
      (effects ++ (float.reveal anchor surface).2) (float.reveal anchor surface).1 wiped := by
  obtain ⟨all, wipes⟩ := disposed
  refine ⟨(all.append_right [surface]).trans ?_, ?_⟩
  · cases float with
    | closed => simp [FloatingWindow.reveal, FloatingWindow.surface?]
    | shown before previous =>
      simp [FloatingWindow.reveal, FloatingWindow.surface?, FloatEffect.destroyed?,
        List.perm_append_left_iff]
  · cases float <;> simp [FloatingWindow.reveal, FloatEffect.wiped?, List.filterMap_cons, wipes]

theorem Disposed.handle (disposed : Disposed recorded effects float wiped) (event : FloatEvent) :
    ∃ more, Disposed recorded (effects ++ (float.handle event).2) (float.handle event).1
      (wiped ++ more) := by
  obtain ⟨all, wipes⟩ := disposed
  cases float with
  | closed => exact ⟨[], by simpa [FloatingWindow.handle] using all,
      by simpa [FloatingWindow.handle] using wipes⟩
  | shown anchor surface =>
    rcases FloatingWindow.handle_shown anchor surface event with same | same | same <;> rw [same]
    · exact ⟨[], by simpa using all, by simpa using wipes⟩
    · refine ⟨[], all.trans ?_, by simpa [FloatEffect.wiped?, List.filterMap_cons] using wipes⟩
      simp [FloatingWindow.surface?, FloatEffect.destroyed?, List.perm_append_left_iff]
    · refine ⟨[surface], ?_, by simp [FloatEffect.wiped?, List.filterMap_cons, wipes]⟩
      simpa [FloatingWindow.surface?, FloatEffect.destroyed?, List.filterMap_cons] using all

/-- Hovering again closes nothing. -/
theorem Disposed.hoverAgain (disposed : Disposed recorded effects float wiped) (buffer : Nat) :
    Disposed recorded (effects ++ (float.hoverAgain buffer).getD []) float wiped := by
  obtain ⟨all, wipes⟩ := disposed
  rcases float.hoverAgain_cases buffer with none | ⟨window, focus⟩
  · rw [none, List.append_nil]
    exact ⟨all, wipes⟩
  · rw [focus]
    exact ⟨by simpa [FloatEffect.destroyed?, List.filterMap_cons] using all,
      by simpa [FloatEffect.wiped?, List.filterMap_cons] using wipes⟩

/-- Surfaces with buffers of their own that were disposed of are accounted for. -/
theorem Disposed.accounted {opened : List Surface}
    (disposed : Disposed recorded effects float wiped) (every : opened.Perm recorded)
    (own : (opened.map (·.buffer)).Nodup) : Accounted opened effects float := by
  have all := every.trans disposed.all
  have among (surface : Surface) (there : surface ∈ wiped) : surface ∈ opened :=
    all.mem_iff.mpr (by simp [there])
  have destroys (surface : Surface) : effects.count (.destroy surface) =
      (effects.filterMap FloatEffect.destroyed?).count surface := by
    rw [List.count_filterMap, List.count]
    refine List.countP_congr fun effect _ => ?_
    cases effect <;> simp [FloatEffect.destroyed?]
  have wipings (buffer : Nat) : effects.count (.wipe buffer) =
      (wiped.map (·.buffer)).count buffer := by
    rw [← disposed.wipes, List.count_filterMap, List.count]
    refine List.countP_congr fun effect _ => ?_
    cases effect <;> simp [FloatEffect.wiped?]
  constructor
  · intro surface there
    have same (other : Surface) (wipes : other ∈ wiped) :
        (other.buffer == surface.buffer) = true ↔ (other == surface) = true := by
      rw [beq_iff_eq, beq_iff_eq]
      exact ⟨fun buffers => List.inj_on_of_nodup_map own (among other wipes) there buffers,
        congrArg _⟩
    have floats : (if float.surface? = some surface then 1 else 0) =
        float.surface?.toList.count surface := by
      cases float.surface? <;> simp [List.count_singleton]
    have wipes : (wiped.map (·.buffer)).count surface.buffer = wiped.count surface := by
      rw [List.count, List.countP_map]
      exact List.countP_congr same
    rw [destroys, wipings, wipes, floats, ← List.count_append, ← List.count_append,
      ← all.count_eq]
    exact List.count_eq_one_of_mem (.of_map _ own) there
  · intro surface member
    refine all.mem_iff.mpr ?_
    have there : surface ∈ effects.filterMap FloatEffect.destroyed? :=
      List.mem_filterMap.mpr ⟨_, member, rfl⟩
    simp [there]
  · intro buffer member
    have there : buffer ∈ effects.filterMap FloatEffect.wiped? :=
      List.mem_filterMap.mpr ⟨_, member, rfl⟩
    rw [disposed.wipes] at there
    obtain ⟨surface, wipes, same⟩ := List.mem_map.mp there
    exact ⟨surface, among surface wipes, same⟩
  · intro surface floats
    exact all.mem_iff.mpr (by simp [floats])

end Controller

section Threads

variable {licence : Licence} {posture after : Posture} {acts : List Act}
  {answers : Table Nat (Outcome Json)}

/-- The surface that a call has to record: it is opened, and nothing has been recorded of it yet. -/
def Calling.owes (answers : Table Nat (Outcome Json)) : Calling → Option Surface
  | .asked _ ticket true => (answers.get? ticket).bind Surface.opened?
  | .opened surface => some surface
  | _ => none

/-- Who opens a surface owes its record, and pays it. -/
theorem Licence.Allows.owes {act : Act} (allows : licence.Allows posture act.operation)
    (answered : ∀ ticket outcome, act = ⟨.await ticket, outcome⟩ →
      answers.get? ticket = some outcome) :
    (posture.calling.owes answers).toList ++ (act.opened? answers).toList =
      act.revealed?.toList ++ ((posture.after act).calling.owes answers).toList := by
  obtain ⟨operation, answer⟩ := act
  cases allows with
  | @free queue _ permitted =>
    cases operation with
    | call peer method params =>
      cases answer with
      | error => rfl
      | ok ticket =>
        cases peer with
        | server => rfl
        | editor =>
          by_cases opens : method = "vim#open_float_win" <;>
            simp [Act.opened?, Act.sent?, Sent.opened?, Act.revealed?, Posture.after,
              Calling.owes, Operation.opens, opens]
    | reveal | await => cases permitted
    | notify | reply => cases answer <;> rfl
    | acquire lock | release lock => cases lock <;> rfl
    | fork work => cases work <;> rfl
    | _ => rfl
  | prompt prompt =>
    cases operation with
    | workspace | setWorkspace | disk => rfl
    | notify => cases answer <;> rfl
    | _ => cases prompt
  | release | serve => rfl
  | @wait peer ticket window =>
    cases window with
    | false => rfl
    | true =>
      have owed : (answers.get? ticket).bind Surface.opened? = Surface.opened? answer := by
        rw [answered ticket answer rfl]
        rfl
      simp only [Calling.owes, owed, Posture.after, Calling.answered]
      cases Surface.opened? answer <;> rfl
  | reveal => rfl
  | @carry effect _ _ tells =>
    subst tells
    cases effect <;> cases answer <;> rfl

/-- What a thread has opened is what it has recorded, but for what it still owes. -/
theorem Rules.Follows.owes (follows : licence.rules.Follows posture acts after)
    (answered : ∀ ticket outcome, (⟨.await ticket, outcome⟩ : Act) ∈ acts →
      answers.get? ticket = some outcome) :
    (posture.calling.owes answers).toList ++ acts.filterMap (Act.opened? answers) =
      acts.filterMap Act.revealed? ++ (after.calling.owes answers).toList := by
  induction follows with
  | nothing => simp
  | @act posture between after act acts turns _ ih =>
    obtain ⟨allows, rfl⟩ := turns
    have awaited (ticket : Nat) (outcome : Outcome Json) (same : act = ⟨.await ticket, outcome⟩) :
        answers.get? ticket = some outcome :=
      answered ticket outcome (same ▸ List.mem_cons_self)
    have here := allows.owes awaited
    have later := ih fun ticket outcome member =>
      answered ticket outcome (List.mem_cons_of_mem _ member)
    simp only [List.filterMap_eq_flatMap_toList, List.flatMap_cons] at later ⊢
    rw [← List.append_assoc, here, List.append_assoc, later, List.append_assoc]

/-- Who may ask for no windows has opened none. -/
theorem Rules.Follows.opens_nothing (follows : licence.rules.Follows posture acts after)
    (barred : licence.floats = false) : acts.filterMap (Act.opened? answers) = [] := by
  refine follows.filterMap_eq_nil fun act between allows => ?_
  obtain ⟨operation, answer⟩ := act
  cases operation with
  | call peer method params =>
    cases answer with
    | error => rfl
    | ok ticket =>
      cases peer with
      | server => rfl
      | editor =>
        by_cases opens : method = "vim#open_float_win"
        · subst opens
          have floats := (allows.open_window rfl).1
          rw [barred] at floats
          cases floats
        · simp [Act.opened?, Act.sent?, Sent.opened?, opens]
  | notify | reply => cases answer <;> rfl
  | _ => rfl

/-- Who has an effect to carry out does nothing else. -/
theorem Licence.Allows.carries {operation : Operation} {effect : FloatEffect}
    (allows : licence.Allows posture operation) (due : posture.effect = some effect) :
    effect.telling = operation := by
  cases allows with
  | carry tells =>
    cases due
    exact tells
  | _ => cases due

theorem Posture.effect_after {act : Act} {effect : FloatEffect} {others : List FloatEffect}
    (effects : act.effects = effect :: others) : (posture.after act).effect = some effect := by
  obtain ⟨operation, answer⟩ := act
  cases operation with
  | floatEvent | reveal | hoverAgain => exact congrArg List.head? effects
  | _ => cases effects

/-- The first of the effects that there are is carried out before anything else is done. -/
theorem Rules.Follows.carries {before rest : List Act} {act : Act} {effect : FloatEffect}
    {others : List FloatEffect}
    (follows : licence.rules.Follows posture (before ++ act :: rest) after)
    (effects : act.effects = effect :: others) :
    (∃ answer later, rest = ⟨effect.telling, answer⟩ :: later) ∨
      rest = [] ∧ after.effect = some effect := by
  obtain ⟨middle, _, following⟩ := follows.of_append
  cases following with
  | act turns more =>
    have due : (middle.after act).effect = some effect := Posture.effect_after effects
    rw [← turns.2] at due
    cases more with
    | nothing => exact .inr ⟨rfl, due⟩
    | @act _ _ _ next later turned _ =>
      obtain ⟨operation, answer⟩ := next
      obtain rfl := turned.1.carries due
      exact .inl ⟨answer, later, rfl⟩

end Threads

/-- What is done to the preview says what becomes of the surfaces. -/
theorem Disposed.perform {host : Host} {thread : Nat} {operation : Operation}
    {answer : operation.Answer} {before after : World} {recorded wiped : List Surface}
    {effects : List FloatEffect} (disposed : Disposed recorded effects before.float wiped)
    (performed : before.perform host thread operation = some (after, answer)) :
    ∃ more, Disposed (recorded ++ (Act.revealed? ⟨operation, answer⟩).toList)
      (effects ++ Act.effects ⟨operation, answer⟩) after.float (wiped ++ more) := by
  cases operation with
  | floatEvent event =>
    cases performed
    obtain ⟨more, handled⟩ := disposed.handle event
    rw [← List.append_nil recorded] at handled
    exact ⟨more, handled⟩
  | reveal anchor surface =>
    cases performed
    have revealed := disposed.reveal anchor surface
    rw [← List.append_nil wiped] at revealed
    exact ⟨[], revealed⟩
  | hoverAgain buffer =>
    cases performed
    have hovered := disposed.hoverAgain buffer
    rw [← List.append_nil recorded, ← List.append_nil wiped] at hovered
    exact ⟨[], hovered⟩
  | _ =>
    have same : after.float = before.float := (World.moved performed).float
    rw [← List.append_nil recorded, ← List.append_nil effects, ← List.append_nil wiped,
      ← same] at disposed
    exact ⟨[], disposed⟩

/-- The effect that closes a surface is the first of those that there are. -/
theorem World.closing_first {host : Host} {thread : Nat} {operation : Operation}
    {answer : operation.Answer} {before after : World} {effect : FloatEffect}
    (performed : before.perform host thread operation = some (after, answer))
    (member : effect ∈ Act.effects ⟨operation, answer⟩) (closes : effect.closes = true) :
    ∃ others, Act.effects ⟨operation, answer⟩ = effect :: others := by
  cases operation with
  | floatEvent =>
    cases performed
    exact FloatingWindow.closing_first_of_handle member closes
  | reveal =>
    cases performed
    exact FloatingWindow.closing_first_of_reveal member
  | hoverAgain buffer =>
    cases performed
    change effect ∈ (before.float.hoverAgain buffer).getD [] at member
    rcases before.float.hoverAgain_cases buffer with none | ⟨window, focus⟩
    · rw [none] at member
      cases member
    · rw [focus] at member
      obtain rfl := List.mem_singleton.mp member
      cases closes
  | _ => cases member

/-- A preview that is closed has no effects. -/
theorem World.effects_of_closed {host : Host} {thread : Nat} {operation : Operation}
    {answer : operation.Answer} {before after : World}
    (performed : before.perform host thread operation = some (after, answer))
    (closed : before.float = .closed) : Act.effects ⟨operation, answer⟩ = [] := by
  cases operation with
  | floatEvent | reveal | hoverAgain =>
    cases performed
    rw [closed]
    rfl
  | _ => rfl

namespace Journal

variable {setup : Setup} {tree : FileTree} {journal : Journal} {now : System}

/-- What has become of the surfaces that were recorded. -/
theorem Kept.disposed (kept : Kept setup tree journal now) : ∃ wiped,
    Disposed (journal.acts.filterMap Act.revealed?) journal.effects now.world.float wiped := by
  induction kept with
  | begin => exact ⟨[], .nil, rfl⟩
  | did kept here performed ih =>
    obtain ⟨wiped, disposed⟩ := ih
    obtain ⟨more, disposed⟩ := disposed.perform performed
    refine ⟨wiped ++ more, ?_⟩
    rw [effects, acts_did, List.filterMap_append, List.flatMap_append, List.flatMap_singleton]
    exact disposed
  | ended _ _ _ ih => simpa [effects] using ih
  | happened _ happening ih =>
    rw [System.occur_eq]
    simpa [effects, World.after_float] using ih

/-- Each thread has recorded what the editor opened for it, once its action is done. -/
theorem Kept.opened_of (kept : Kept setup tree journal now) (finished : journal.ActionsDone now)
    {thread : Nat} (there : thread < journal.works.length) :
    (journal.actsOf thread).filterMap (Act.opened? now.world.answers) =
      (journal.actsOf thread).filterMap Act.revealed? := by
  obtain ⟨script, here, _, follows, guided⟩ := kept.behaves (List.getElem?_eq_getElem there)
  have balance := follows.owes fun ticket outcome member =>
    kept.answered (mem_acts_of_mem_actsOf member)
  cases work : journal.works[thread] with
  | runAction id method params =>
    obtain ⟨outcome, ended⟩ := finished thread id method params
      (work ▸ List.getElem?_eq_getElem there)
    obtain rfl : script = .done outcome := Option.some.inj (here.symm.trans ended)
    rw [Script.guided_done.mp guided] at balance
    simpa [Calling.owes] using balance
  | _ =>
    rw [work] at follows
    rw [follows.opens_nothing rfl] at balance ⊢
    exact (List.append_eq_nil_iff.mp balance.symm).1.symm

/-- Once the actions are done, the surfaces that the editor has opened are those that were
recorded. -/
theorem Kept.opened_perm (kept : Kept setup tree journal now) (finished : journal.ActionsDone now) :
    now.world.opened.Perm (journal.acts.filterMap Act.revealed?) := by
  have opened : now.world.opened = journal.acts.filterMap (Act.opened? now.world.answers) := by
    rw [World.opened, kept.traffic, List.filterMap_filterMap]
    rfl
  have same : ((List.range journal.works.length).flatMap journal.actsOf).filterMap
        (Act.opened? now.world.answers) =
      ((List.range journal.works.length).flatMap journal.actsOf).filterMap Act.revealed? := by
    rw [List.filterMap_flatMap, List.filterMap_flatMap]
    exact List.flatMap_congr fun thread member =>
      kept.opened_of finished (List.mem_range.mp member)
  rw [opened]
  exact (kept.acts_perm.filterMap _).trans (same ▸ (kept.acts_perm.filterMap _).symm)

/-- A thread carries out an effect: it told the editor next, or that is what it does next. -/
inductive CarriesOut (rest : Journal) (now : System) (thread : Nat) (effect : FloatEffect) : Prop
  | told {answer : effect.telling.Answer} {later : List Act}
      (next : rest.actsOf thread = ⟨effect.telling, answer⟩ :: later)
  | telling {onward : effect.telling.Answer → Script (Outcome Json)}
      (nothing : rest.actsOf thread = [])
      (here : now.threads[thread]? = some (.step effect.telling onward))

/-- The first of the effects that there are is carried out by the thread that has them. -/
theorem Kept.carries_out (kept : Kept setup tree journal now) {before rest : Journal}
    {thread : Nat} {act : Act} {effect : FloatEffect} {others : List FloatEffect}
    (split : journal = before ++ .did thread act :: rest) (effects : act.effects = effect :: others) :
    CarriesOut rest now thread effect := by
  have member : .did thread act ∈ journal := split ▸ List.mem_append_right _ List.mem_cons_self
  have whole : journal.actsOf thread = before.actsOf thread ++ act :: rest.actsOf thread := by
    rw [split, ← List.singleton_append, actsOf, actsBy_append, actsBy_append, actsBy_did]
    simp [actsOf]
  obtain ⟨script, here, _, follows, guided⟩ :=
    kept.behaves (List.getElem?_eq_getElem (kept.thread_lt member))
  rw [whole] at follows
  rcases follows.carries effects with ⟨answer, later, next⟩ | ⟨nothing, due⟩
  · exact .told next
  · cases script with
    | done outcome =>
      rw [Script.guided_done.mp guided] at due
      cases due
    | step operation onward =>
      obtain ⟨answer⟩ := operation.answerable
      obtain ⟨_, _, allows⟩ := kept.allows here answer
      obtain rfl := allows.carries due
      exact .telling nothing here

end Journal

namespace Editor

variable {setup : Setup} {tree : FileTree} {journal : Journal} {now : System}

/-- There are effects only while a preview floats, and those that close it are carried out by the
thread that has them, before anything else. -/
def EffectsHeeded (setup : Setup) (tree : FileTree) (journal : Journal) (now : System) : Prop :=
  ∀ before thread act rest, journal = before ++ .did thread act :: rest →
    (∃ moment world, Journal.Kept setup tree before moment ∧
      moment.world.perform setup.host thread act.operation = some (world, act.answer) ∧
      (moment.world.float = .closed → act.effects = [])) ∧
    ∀ effect ∈ act.effects, effect.closes = true → Journal.CarriesOut rest now thread effect

theorem effects_heeded (kept : Journal.Kept setup tree journal now) :
    EffectsHeeded setup tree journal now := by
  intro before thread act rest split
  obtain ⟨moment, world, earlier, performed⟩ := kept.moment split
  refine ⟨⟨moment, world, earlier, performed, World.effects_of_closed performed⟩, ?_⟩
  intro effect member closes
  obtain ⟨others, effects⟩ := World.closing_first performed member closes
  exact kept.carries_out split effects

/-- Once the actions are done, each surface that the editor has opened was destroyed once, or had
its buffer wiped once, or floats, if they have buffers of their own; no others were closed or float.
While no preview floats there are no effects, and what closes a surface is told to the editor. -/
theorem surfaces_accounted_for (kept : Journal.Kept setup tree journal now)
    (finished : journal.ActionsDone now) (own : (now.world.opened.map (·.buffer)).Nodup) :
    Accounted now.world.opened journal.effects now.world.float ∧
      EffectsHeeded setup tree journal now := by
  obtain ⟨wiped, disposed⟩ := kept.disposed
  exact ⟨disposed.accounted (kept.opened_perm finished) own, effects_heeded kept⟩

/-- The editor tells of something, or asks for it without waiting for a reply. -/
def editorTells (method : String) (params : Json) : Happening :=
  .deliver .editor (.notification true method (Params.ofJson params))

/-- The user hovers over the start of a line. -/
def hoversOver (line : Nat) : Happening :=
  editorTells "textDocument/hover" (.obj [("text_document", .str "/a.go"),
    ("language_id", .str "go"), ("bufnr", .nat 1), ("winid", .nat 1000), ("line", .nat line),
    ("column", .nat 1)])

/-- The server has something to show. -/
def explains (ticket : Nat) : Happening := .answer ticket (.ok (.obj [("contents", .str "text")]))

/-- The editor has opened a window. -/
def opensWindow (ticket : Nat) (surface : Surface) : Happening :=
  .answer ticket (.ok surface.toJson)

/-- Two hovers race: the surface that was asked for first is recorded last. The one is destroyed for
the other, whose window the user closes; then a third hover opens another. -/
def race : Journal × System :=
  Server.afterOpening [hoversOver 1, hoversOver 2, explains 1, explains 2,
    opensWindow 4 ⟨8, 1008⟩, opensWindow 3 ⟨7, 1007⟩,
    editorTells "vlc/winClosed" (.obj [("winid", .nat 1007)]), .answer 5 (.ok .null),
    .answer 6 (.ok .null), hoversOver 3, explains 7, opensWindow 8 ⟨9, 1009⟩]

theorem racing_surfaces_accounted_for : ∃ journal now,
    Journal.Kept soleServer ⟨[], []⟩ journal now ∧
    now.world.opened = [⟨7, 1007⟩, ⟨8, 1008⟩, ⟨9, 1009⟩] ∧
    journal.effects = [.destroy ⟨8, 1008⟩, .wipe 7, .focus 1000] ∧
    now.world.float.surface? = some ⟨9, 1009⟩ ∧
    Accounted now.world.opened journal.effects now.world.float ∧
    EffectsHeeded soleServer ⟨[], []⟩ journal now := by
  have kept : Journal.Kept soleServer ⟨[], []⟩ race.1 race.2 := Server.kept_afterOpening _
  obtain ⟨ended, opened, effects, floats⟩ : race.1.actionsEnded race.2 = true ∧
      race.2.world.opened = [⟨7, 1007⟩, ⟨8, 1008⟩, ⟨9, 1009⟩] ∧
      race.1.effects = [.destroy ⟨8, 1008⟩, .wipe 7, .focus 1000] ∧
      race.2.world.float.surface? = some ⟨9, 1009⟩ := by decide +kernel
  have own : (race.2.world.opened.map (·.buffer)).Nodup := by simp [opened]
  exact ⟨_, _, kept, opened, effects, floats,
    surfaces_accounted_for kept (kept.actionsDone ended) own⟩

end Editor

end LanguageBridge
