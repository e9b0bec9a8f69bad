import LanguageBridge.Proofs.Editor.Surfaces
import LanguageBridge.Proofs.Journal.Cuts

/-!
Previews whose windows the user closes. A preview floats if it was recorded and nothing has ended it
since; the report that its window is closed ends it only if the hover has recorded it by then.
-/
namespace LanguageBridge

/-- The window that the editor reports to be closed. -/
def Message.closedWindow? (message : Message) : Option Nat :=
  message.request?.bind fun (_, method, params) =>
    match method, FloatEvent.readWindowClosed params with
    | "vlc/winClosed", .ok (.windowClosed window) => some window
    | _, _ => none

namespace FloatingWindow

variable {anchor : Anchor} {surface : Surface}

/-- The end of its window ends a preview. -/
theorem effectsOf_windowClosed (anchor : Anchor) (surface : Surface) :
    effectsOf anchor surface (.windowClosed surface.window) =
      [.wipe surface.buffer, .focus anchor.window] :=
  if_pos rfl

/-- A hover goes into the window of the preview that floats, and into no other. -/
theorem exists_focus_iff {float : FloatingWindow} {window : Nat} :
    (∃ buffer, float.hoverAgain buffer = some [.focus window]) ↔
      ∃ surface, float.surface? = some surface ∧ surface.window = window := by
  constructor
  · intro ⟨buffer, focus⟩
    cases float with
    | closed => cases focus
    | shown anchor surface =>
      rw [hoverAgain] at focus
      by_cases here : anchor.buffer = buffer
      · rw [if_pos here] at focus
        cases focus
        exact ⟨surface, rfl, rfl⟩
      · rw [if_neg here] at focus
        split at focus <;> cases focus
  · intro ⟨surface, floats, same⟩
    cases float with
    | closed => cases floats
    | shown anchor shown =>
      cases floats
      exact ⟨anchor.buffer, by rw [hoverAgain, if_pos rfl, same]⟩

theorem surface?_eq_some_iff {float : FloatingWindow} :
    float.surface? = some surface ↔ ∃ anchor, float = .shown anchor surface := by
  cases float <;> simp [surface?]

end FloatingWindow

namespace Act

variable {anchor : Anchor} {surface : Surface}

/-- Whether an act leaves a preview floating. -/
def spares (anchor : Anchor) (surface : Surface) : Act → Bool
  | ⟨.floatEvent event, _⟩ => (FloatingWindow.effectsOf anchor surface event).isEmpty
  | ⟨.reveal .., _⟩ => false
  | _ => true

/-- A preview floats after an act if the act recorded it, or left it alone. -/
theorem floatAfter_eq_shown_iff {act : Act} {before : FloatingWindow} :
    act.floatAfter before = .shown anchor surface ↔
      (∃ answer, act = ⟨.reveal anchor surface, answer⟩) ∨
        before = .shown anchor surface ∧ act.spares anchor surface = true := by
  obtain ⟨operation, answer⟩ := act
  cases operation with
  | floatEvent event =>
    have other : ¬ ∃ given, (⟨.floatEvent event, answer⟩ : Act) = ⟨.reveal anchor surface, given⟩ :=
      by simp
    rw [or_iff_right other, spares, floatAfter]
    cases before with
    | closed => simp [FloatingWindow.handle]
    | shown former previous =>
      constructor
      · intro floats
        rw [FloatingWindow.handle] at floats
        split at floats
        · rename_i nothing
          cases floats
          exact ⟨rfl, by rw [nothing]; rfl⟩
        · cases floats
      · intro left
        obtain ⟨same, nothing⟩ := left
        cases same
        rw [FloatingWindow.handle, List.isEmpty_iff.mp nothing]
  | reveal recorded shown =>
    have whatever : floatAfter before ⟨.reveal recorded shown, answer⟩ = .shown recorded shown := by
      cases before <;> rfl
    rw [whatever]
    constructor
    · intro same
      cases same
      exact .inl ⟨answer, rfl⟩
    · intro alternatives
      cases alternatives with
      | inl same =>
        obtain ⟨_, same⟩ := same
        cases same
        rfl
      | inr spared => cases spared.2
  | _ => simp [floatAfter, spares]

/-- A preview floats after acts if one of them recorded it and the later ones left it alone, or if it
had floated before and all of them left it alone. -/
theorem foldl_floatAfter_eq_shown_iff {acts : List Act} {start : FloatingWindow} :
    acts.foldl floatAfter start = .shown anchor surface ↔
      (∃ first answer last, acts = first ++ ⟨.reveal anchor surface, answer⟩ :: last ∧
        ∀ act ∈ last, act.spares anchor surface = true) ∨
      start = .shown anchor surface ∧ ∀ act ∈ acts, act.spares anchor surface = true := by
  induction acts generalizing start with
  | nil => simp
  | cons act acts ih =>
    rw [List.foldl_cons, ih, floatAfter_eq_shown_iff]
    constructor
    · intro floats
      rcases floats with ⟨first, answer, last, rfl, spared⟩ | ⟨⟨answer, rfl⟩ | ⟨floated, spares⟩, spared⟩
      · exact .inl ⟨act :: first, answer, last, rfl, spared⟩
      · exact .inl ⟨[], answer, acts, rfl, spared⟩
      · exact .inr ⟨floated, List.forall_mem_cons.mpr ⟨spares, spared⟩⟩
    · intro floats
      rcases floats with ⟨first, answer, last, whole, spared⟩ | ⟨floated, spared⟩
      · cases first with
        | nil =>
          obtain ⟨rfl, rfl⟩ := List.cons.inj whole
          exact .inr ⟨.inl ⟨answer, rfl⟩, spared⟩
        | cons _ first =>
          obtain ⟨_, rfl⟩ := List.cons.inj whole
          exact .inl ⟨first, answer, last, rfl, spared⟩
      · obtain ⟨spares, spared⟩ := List.forall_mem_cons.mp spared
        exact .inr ⟨.inr ⟨floated, spares⟩, spared⟩

end Act

namespace Journal

variable {setup : Setup} {tree : FileTree} {journal : Journal} {now : System}

/-- A thread recorded a surface. -/
def Records (journal : Journal) (thread : Nat) (surface : Surface) : Prop :=
  ∃ act, .did thread act ∈ journal ∧ act.revealed? = some surface

/-- A thread recorded a surface, and nothing has ended the preview since. -/
inductive LeavesFloating (journal : Journal) (thread : Nat) (surface : Surface) : Prop
  | mk {before rest : Journal} {anchor : Anchor} {answer : List FloatEffect}
      (split : journal = before ++ .did thread ⟨.reveal anchor surface, answer⟩ :: rest)
      (spared : ∀ act ∈ rest.acts, act.spares anchor surface = true)

/-- What floats after a journal was recorded in it or had floated before, and nothing has ended it
since. -/
theorem surface?_foldl_iff {start : FloatingWindow} {surface : Surface} :
    (journal.acts.foldl Act.floatAfter start).surface? = some surface ↔
      (∃ thread, journal.LeavesFloating thread surface) ∨
      ∃ anchor, start = .shown anchor surface ∧
        ∀ act ∈ journal.acts, act.spares anchor surface = true := by
  rw [FloatingWindow.surface?_eq_some_iff]
  constructor
  · intro ⟨anchor, floats⟩
    rcases Act.foldl_floatAfter_eq_shown_iff.mp floats with ⟨_, answer, _, whole, spared⟩ | before
    · obtain ⟨thread, _, _, split, _, _, rfl⟩ := exists_cut_by whole
      exact .inl ⟨thread, split, spared⟩
    · exact .inr ⟨anchor, before⟩
  · intro floats
    rcases floats with ⟨thread, split, spared⟩ | ⟨anchor, before⟩
    · exact ⟨_, Act.foldl_floatAfter_eq_shown_iff.mpr (.inl ⟨_, _, _, acts_cut split, spared⟩)⟩
    · exact ⟨anchor, Act.foldl_floatAfter_eq_shown_iff.mpr (.inr before)⟩

/-- What a thread recorded is what the editor opened for it, but for what it still has to record. -/
theorem Kept.opened_owing (kept : Kept setup tree journal now) {thread : Nat}
    {script : Script (Outcome Json)} (here : now.threads[thread]? = some script) :
    ∃ owed : Option Surface, (journal.actsOf thread).filterMap (Act.opened? now.world.answers) =
        (journal.actsOf thread).filterMap Act.revealed? ++ owed.toList ∧
      ((∃ outcome, script = .done outcome) → owed = none) := by
  obtain ⟨work, started⟩ := kept.work_of_thread here
  obtain ⟨other, there, _, follows, guided⟩ := kept.behaves started
  obtain rfl : other = script := Option.some.inj (there.symm.trans here)
  have balance := follows.owes fun ticket outcome member =>
    kept.answered (mem_acts_of_mem_actsOf member)
  refine ⟨_, balance, ?_⟩
  intro ⟨outcome, same⟩
  subst same
  rw [Script.guided_done.mp guided]
  rfl

/-- Only surfaces that the editor has opened are recorded, and each at most once. -/
theorem Kept.recorded_subperm (kept : Kept setup tree journal now) :
    (journal.acts.filterMap Act.revealed?).Subperm now.world.opened := by
  have opened : now.world.opened = journal.acts.filterMap (Act.opened? now.world.answers) := by
    rw [World.opened, kept.traffic, List.filterMap_filterMap]
    rfl
  have each (thread : Nat) (member : thread ∈ List.range journal.works.length) :
      ((journal.actsOf thread).filterMap Act.revealed?).Sublist
        ((journal.actsOf thread).filterMap (Act.opened? now.world.answers)) := by
    obtain ⟨script, here, _⟩ :=
      kept.behaves (List.getElem?_eq_getElem (List.mem_range.mp member))
    obtain ⟨owed, balance, _⟩ := kept.opened_owing here
    rw [balance]
    exact List.sublist_append_left _ _
  have all : (((List.range journal.works.length).flatMap journal.actsOf).filterMap
        Act.revealed?).Sublist
      (((List.range journal.works.length).flatMap journal.actsOf).filterMap
        (Act.opened? now.world.answers)) := by
    rw [List.filterMap_flatMap, List.filterMap_flatMap]
    generalize List.range journal.works.length = threads at each
    induction threads with
    | nil => exact .slnil
    | cons thread threads ih =>
      obtain ⟨first, others⟩ := List.forall_mem_cons.mp each
      exact first.append (ih others)
  rw [opened]
  exact ((kept.acts_perm.filterMap _).subperm.trans all.subperm).trans
    (kept.acts_perm.filterMap _).symm.subperm

/-- A preview floats exactly if it was recorded and nothing has ended it since. -/
theorem Kept.floats_iff (kept : Kept setup tree journal now) {surface : Surface} :
    now.world.float.surface? = some surface ↔ ∃ thread, journal.LeavesFloating thread surface := by
  rw [kept.float, surface?_foldl_iff]
  exact or_iff_left fun ⟨_, impossible, _⟩ => by cases impossible

/-- Once the end of its window was told, a preview floats exactly if it was recorded since and
nothing has ended it again. -/
theorem Kept.floats_since_closed (kept : Kept setup tree journal now) {before rest : Journal}
    {thread : Nat} {surface : Surface} {effects : List FloatEffect}
    (split : journal =
      before ++ .did thread ⟨.floatEvent (.windowClosed surface.window), effects⟩ :: rest) :
    now.world.float.surface? = some surface ↔ ∃ worker, rest.LeavesFloating worker surface := by
  rw [kept.float, acts_cut split, List.foldl_append, List.foldl_cons, surface?_foldl_iff]
  refine or_iff_left fun ⟨anchor, floats, _⟩ => ?_
  cases Act.floatAfter_eq_shown_iff.mp floats with
  | inl recorded =>
    obtain ⟨_, other⟩ := recorded
    cases other
  | inr spared =>
    have nothing : (FloatingWindow.effectsOf anchor surface
      (.windowClosed surface.window)).isEmpty = true := spared.2
    rw [FloatingWindow.effectsOf_windowClosed] at nothing
    cases nothing

/-- If no two surfaces share a window, each window is recorded once. -/
theorem Kept.records_once (kept : Kept setup tree journal now)
    (own : (now.world.opened.map (·.window)).Nodup) {before rest : Journal} {thread mover : Nat}
    {act made : Act} {surface other : Surface} (split : journal = before ++ .did thread act :: rest)
    (recorded : act.revealed? = some surface) (another : made.revealed? = some other)
    (same : other.window = surface.window) :
    .did mover made ∉ before ∧ .did mover made ∉ rest := by
  obtain ⟨some, perm, among⟩ := kept.recorded_subperm
  have once : ((journal.acts.filterMap Act.revealed?).map (·.window)).Nodup :=
    (perm.map _).nodup_iff.mp ((among.map _).nodup own)
  rw [acts_cut split, List.filterMap_append, List.filterMap_cons, recorded, List.map_append,
    List.map_cons, List.nodup_middle] at once
  have absent := (List.nodup_cons.mp once).1
  have found {part : Journal} (member : .did mover made ∈ part) :
      surface.window ∈ (part.acts.filterMap Act.revealed?).map (·.window) := by
    rw [← same]
    have among : made ∈ part.acts := mem_actsBy.mpr ⟨mover, rfl, member⟩
    exact List.mem_map_of_mem (List.mem_filterMap.mpr ⟨made, among, another⟩)
  exact ⟨fun member => absent (List.mem_append_left _ (found member)),
    fun member => absent (List.mem_append_right _ (found member))⟩

/-- What a hover has opened is recorded once the hover is done. -/
theorem Kept.records_of_opened (kept : Kept setup tree journal now) {worker : Nat}
    {surface : Surface}
    (opened : surface ∈ (journal.actsOf worker).filterMap (Act.opened? now.world.answers))
    (ended : hasEnded now worker = true) : journal.Records worker surface := by
  obtain ⟨outcome, here⟩ := exists_of_hasEnded ended
  obtain ⟨owed, balance, paid⟩ := kept.opened_owing here
  rw [balance, paid ⟨outcome, rfl⟩, Option.toList_none, List.append_nil] at opened
  obtain ⟨act, member, records⟩ := List.mem_filterMap.mp opened
  obtain ⟨mover, same, done⟩ := mem_actsBy.mp member
  obtain rfl : mover = worker := beq_iff_eq.mp same
  exact ⟨act, done, records⟩

/-- A surface is recorded before or after any act that records none. -/
theorem records_of_cut {before rest : Journal} {thread worker : Nat} {act : Act}
    {surface : Surface} (split : journal = before ++ .did thread act :: rest)
    (apart : act.revealed? = none) (recorded : journal.Records worker surface) :
    before.Records worker surface ∨ rest.Records worker surface := by
  obtain ⟨made, done, records⟩ := recorded
  rw [split] at done
  rcases List.mem_append.mp done with earlier | later
  · exact .inl ⟨made, earlier, records⟩
  · cases List.mem_cons.mp later with
    | inl told =>
      cases told
      rw [apart] at records
      cases records
    | inr since => exact .inr ⟨made, since, records⟩

/-- If no two surfaces share a window, a window that is recorded after an act is recorded there once:
by the thread that has recorded it, and not before the act. -/
theorem Kept.records_alone (kept : Kept setup tree journal now)
    (own : (now.world.opened.map (·.window)).Nodup) {before rest : Journal} {entry : Entry}
    {thread worker : Nat} {surface other : Surface} (split : journal = before ++ entry :: rest)
    (recorded : before.Records worker surface ∨ rest.Records worker surface)
    (again : rest.Records thread other) (same : other.window = surface.window) :
    other = surface ∧ thread = worker ∧ ¬ before.Records worker surface := by
  obtain ⟨act, member, records⟩ := again
  obtain ⟨middle, last, since⟩ := List.append_of_mem member
  have cut : journal = (before ++ entry :: middle) ++ .did thread act :: last := by
    rw [split, since, List.append_assoc, List.cons_append]
  have alone {made : Act} (another : made.revealed? = some surface) :
      .did worker made ∉ before ++ entry :: middle ∧ .did worker made ∉ last :=
    kept.records_once own cut records another same.symm
  have earlier : ¬ before.Records worker surface := by
    intro already
    obtain ⟨made, there, another⟩ := already
    exact (alone another).1 (List.mem_append_left _ there)
  obtain ⟨made, there, another⟩ := recorded.resolve_left earlier
  rw [since] at there
  rcases List.mem_append.mp there with between | later
  · exact absurd (List.mem_append_right _ (List.mem_cons_of_mem _ between)) (alone another).1
  · cases List.mem_cons.mp later with
    | inl found =>
      cases found
      exact ⟨Option.some.inj (records.symm.trans another), rfl, earlier⟩
    | inr after => exact absurd after (alone another).2

end Journal

namespace Editor

variable {setup : Setup} {tree : FileTree} {journal : Journal} {now : System}

/-- The report that the window of a surface is closed was taken to the preview. If the hover that
opened the surface had recorded it by then, the surface floats no more; else it is recorded since, and
floats until something else ends it. As long as it floats, hovers go into its window. -/
inductive ClosingHandled (journal : Journal) (now : System) (worker : Nat) (surface : Surface)
    (leg : Leg) : Prop
  | mk {before rest : Journal} {effects : List FloatEffect}
      (split : journal = before ++
        .did leg.thread ⟨.floatEvent (.windowClosed surface.window), effects⟩ :: rest)
      (taken : before.actsOf leg.thread = [⟨.receive .editor, some leg.message⟩])
      (recorded : before.Records worker surface ∨ rest.Records worker surface)
      (floats : now.world.float.surface? = some surface ↔
        ∃ thread, rest.LeavesFloating thread surface)
      (entered : (∃ buffer, now.world.float.hoverAgain buffer = some [.focus surface.window]) ↔
        ∃ thread other, rest.LeavesFloating thread other ∧ other.window = surface.window)
      (once : (now.world.opened.map (·.window)).Nodup → ∀ thread other,
        rest.Records thread other → other.window = surface.window →
          other = surface ∧ thread = worker ∧ ¬ before.Records worker surface)

/-- The report that a window is closed is taken to the preview first. -/
theorem tells_preview {message : Message} {window : Nat} {acts : List Act}
    (reports : message.closedWindow? = some window)
    (does : (Work.serveEditor.handling setup message).Does acts (.done ())) :
    ∃ effects rest, acts = ⟨.floatEvent (.windowClosed window), effects⟩ :: rest := by
  obtain ⟨⟨id, method, params⟩, asks, shape⟩ := Option.bind_eq_some_iff.mp reports
  rw [handling_eq, asks] at does
  dsimp only at shape does
  split at shape
  · rename_i _ closed read
    cases shape
    rw [Program.dispatch, if_pos (by decide), Program.runEvent_eq] at does
    obtain ⟨outcome, first, second, rfl, comes, _⟩ := Script.Does.of_bind_done does
    have job : Program.eventJob "vlc/winClosed" params =
        (Job.ofShaped (FloatEvent.readWindowClosed params) >>= takeFloatEvent) >>=
          fun _ => pure Json.null := by
      simp [Program.eventJob, handleEvent]
    rw [job, read] at comes
    have taking : (Job.ask (.floatEvent (.windowClosed window)) >>= fun effects =>
        carryOutAll effects >>= fun _ => pure Json.null : Job Json).Comes first outcome := comes
    obtain ⟨effects, rest, rfl, _⟩ := taking.of_ask_bind
    exact ⟨effects, _, rfl⟩
  · cases shape

/-- Once the hover that opened a surface is done, the surface floats after the report that its window
is closed exactly if it was recorded after the report was handled, and nothing has ended it since. -/
theorem closed_window_floats_iff (kept : Journal.Kept setup tree journal now) {worker : Nat}
    {surface : Surface}
    (opened : surface ∈ (journal.actsOf worker).filterMap (Act.opened? now.world.answers))
    (ended : Journal.hasEnded now worker = true) : ∃ handled under,
      Journal.Attended setup journal now .editor .serveEditor handled under ∧
      ∀ leg ∈ handled, leg.message.closedWindow? = some surface.window →
        ClosingHandled journal now worker surface leg := by
  have served : .serveEditor ∈ journal.works := List.mem_cons_self
  obtain ⟨handled, under, attended⟩ := kept.attended served rfl
  refine ⟨handled, under, attended, ?_⟩
  intro leg there reports
  obtain ⟨effects, later, whole⟩ := tells_preview reports (attended.done leg there)
  have own : journal.actsOf leg.thread = [⟨.receive .editor, some leg.message⟩] ++
      ⟨.floatEvent (.windowClosed surface.window), effects⟩ ::
        (later ++ leg.passing .serveEditor) := by
    rw [attended.own leg there, Leg.acts, whole]
    rfl
  obtain ⟨before, rest, split, taken, _⟩ := Journal.exists_cut own
  have floats (other : Surface) (same : other.window = surface.window) :
      now.world.float.surface? = some other ↔ ∃ thread, rest.LeavesFloating thread other :=
    kept.floats_since_closed (same ▸ split)
  have recorded : before.Records worker surface ∨ rest.Records worker surface :=
    Journal.records_of_cut split rfl (kept.records_of_opened opened ended)
  refine .mk split taken recorded (floats surface rfl) ?entered ?once
  case entered =>
    rw [FloatingWindow.exists_focus_iff]
    constructor
    · intro shown
      obtain ⟨other, shown, same⟩ := shown
      obtain ⟨thread, leaves⟩ := (floats other same).mp shown
      exact ⟨thread, other, leaves, same⟩
    · intro left
      obtain ⟨thread, other, leaves, same⟩ := left
      exact ⟨other, (floats other same).mpr ⟨thread, leaves⟩, same⟩
  case once =>
    intro apart thread other again same
    exact kept.records_alone apart split recorded again same

/-- A surface of the editor. -/
def someSurface : Surface := ⟨7, 1007⟩

/-- The user closes the window of the surface. -/
def closesWindow : Happening :=
  editorTells "vlc/winClosed" (.obj [("winid", .nat someSurface.window)])

/-- A hover opens a window, which the user closes once the hover has recorded it. -/
def closedInTime : Journal × System :=
  Server.afterOpening [hoversOver 1, explains 1, opensWindow 2 someSurface, closesWindow,
    .answer 3 (.ok .null), .answer 4 (.ok .null)]

theorem closed_in_time_floats_no_more : ∃ journal now worker,
    Journal.Kept soleServer ⟨[], []⟩ journal now ∧ now.world.float.hoverAgain 1 = none ∧
    someSurface ∈ (journal.actsOf worker).filterMap (Act.opened? now.world.answers) ∧
    ∃ handled under,
      Journal.Attended soleServer journal now .editor .serveEditor handled under ∧
      ∀ leg ∈ handled, leg.message.closedWindow? = some someSurface.window →
        ClosingHandled journal now worker someSurface leg := by
  have kept : Journal.Kept soleServer ⟨[], []⟩ closedInTime.1 closedInTime.2 :=
    Server.kept_afterOpening _
  obtain ⟨asks, opened, ended⟩ : closedInTime.2.world.float.hoverAgain 1 = none ∧
      someSurface ∈ (closedInTime.1.actsOf 4).filterMap
        (Act.opened? closedInTime.2.world.answers) ∧
      Journal.hasEnded closedInTime.2 4 = true := by decide +kernel
  exact ⟨_, _, 4, kept, asks, opened, closed_window_floats_iff kept opened ended⟩

/-- The editor opens a window for a hover and the user closes it. -/
def openedAndClosed : Journal × System :=
  Journal.play soleServer 0 [opensWindow 2 someSurface, closesWindow]
    (Server.afterOpening [hoversOver 1, explains 1])

/-- The thread that serves the editor goes on before the hover does. -/
def closedTooSoon : Journal × System :=
  Journal.settle soleServer 60 (Journal.inTurn soleServer [5, 5, 5] openedAndClosed)

/-- A preview floats on although its window was closed after the editor had opened it, and both the
hover and the report are done with; a hover from its anchor goes into the window that is gone. -/
theorem closed_window_still_floats :
    ¬ ∀ (setup : Setup) (tree : FileTree) (journal opening since : Journal) (now : System)
      (worker ticket : Nat) (surface : Surface) (outcome : Outcome Json) (handled : List Leg)
      (under : Option Message) (leg : Leg), Journal.Kept setup tree journal now →
      journal = opening ++ .happened (.answer ticket outcome) :: since →
      Surface.opened? outcome = some surface →
      surface ∈ (journal.actsOf worker).filterMap (Act.opened? now.world.answers) →
      Journal.hasEnded now worker = true →
      Journal.Attended setup journal now .editor .serveEditor handled under → leg ∈ handled →
      leg.message.closedWindow? = some surface.window →
      .happened (.deliver .editor leg.message) ∈ since →
      ∀ buffer, now.world.float.hoverAgain buffer ≠ some [.focus surface.window] := by
  intro claimed
  have kept : Journal.Kept soleServer ⟨[], []⟩ closedTooSoon.1 closedTooSoon.2 :=
    (((Server.kept_afterOpening _).play 0 _).inTurn _).settle 60
  obtain ⟨opened, ended, focus⟩ :
      someSurface ∈ (closedTooSoon.1.actsOf 4).filterMap
        (Act.opened? closedTooSoon.2.world.answers) ∧
      Journal.hasEnded closedTooSoon.2 4 = true ∧
      closedTooSoon.2.world.float.hoverAgain 1 = some [.focus someSurface.window] := by
    decide +kernel
  obtain ⟨settled, waiting⟩ : closedTooSoon.1.settled closedTooSoon.2 = true ∧
      (closedTooSoon.2.world.waiting .editor).isEmpty = true := by decide +kernel
  have served : .serveEditor ∈ closedTooSoon.1.works := List.mem_cons_self
  obtain ⟨handled, under, attended⟩ := kept.attended served rfl
  obtain ⟨later, split⟩ : openedAndClosed.1 <+: closedTooSoon.1 :=
    (Journal.prefix_of_inTurn _ _).trans (Journal.prefix_of_settle _ _)
  have happened : openedAndClosed.1 = (Server.afterOpening [hoversOver 1, explains 1]).1 ++
      [.happened (opensWindow 2 someSurface)] ++ [.happened closesWindow] := rfl
  rw [happened, List.append_assoc, List.append_assoc] at split
  have came : .notification true "vlc/winClosed"
        (Params.ofJson (.obj [("winid", .nat someSurface.window)])) ∈
      closedTooSoon.1.delivered .editor :=
    List.mem_filterMap.mpr ⟨.happened closesWindow, by rw [← split]; simp, rfl⟩
  obtain ⟨leg, there, same⟩ := attended.exists_leg settled (List.isEmpty_iff.mp waiting) came
  exact claimed _ _ _ _ _ _ 4 2 someSurface _ handled under leg kept split.symm rfl opened ended
    attended there (by rw [same]; rfl) (by rw [same]; exact List.mem_cons_self) 1 focus

end Editor

end LanguageBridge
