import LanguageBridge.Proofs.Precedence.Knowing

/-!
What is tracked of the document is what the servers of its session were told: those that were
introduced before got the text with the change, or have gone, or the text was brought to another
server of the session; those that came later are told what is tracked.
-/
namespace LanguageBridge

namespace Letter

/-- For every server that was introduced while nobody held the documents alone, the document as it
is tracked now for its session was tracked then, or has reached the server, or is on the way there,
or a text was brought to another server of the session. -/
def Follows (letter : Letter) (moments : List Moment) (bearings : Bearings) (now : Moment) : Prop :=
  ∀ session, ∀ moment ∈ moments, moment.Introduced session.server → moment.Unheld →
    ∀ document, letter.document? session.key now = some document →
      (∃ old, letter.document? session.key moment = some old ∧ old.lines = document.lines) ∨
      letter.Reached moments session document.text ∨
      (∃ other ∈ moments, letter.Diverted session document.lines other) ∨
      ∃ thread teller text, (bearings thread).documents = .telling teller text ∧
        teller.key = session.key ∧ teller.server = session.server

variable {letter : Letter} {moments : List Moment} {session other : Session} {text : Text}

theorem Reached.alike {same : Text} (reached : letter.Reached moments session text)
    (alike : text.Alike same) : letter.Reached moments session same :=
  reached.imp_left fun ⟨moment, member, told⟩ => ⟨moment, member, told.alike alike⟩

theorem Reached.same_server (reached : letter.Reached moments other text)
    (same : other.server = session.server) : letter.Reached moments session text := by
  rw [Reached, same] at reached
  exact reached

theorem alike_text {document : Document} (lines : document.lines = text.splitLines) :
    document.text.Alike text := by
  rw [Document.text, lines]
  exact text.alike_joinLines_splitLines

/-- A text that is brought to another server of a session diverts the session's own. -/
theorem Bringing.diverts {carries : Prop} (bringing : letter.Bringing moments other text carries)
    (own : other.key = session.key) (apart : other.server ≠ session.server) {moment : Moment}
    (member : moment ∈ moments) (introduced : moment.Introduced session.server)
    (unheld : moment.Unheld) :
    ∃ moment ∈ moments, letter.Diverted session text.splitLines moment := by
  obtain ⟨first, before, brings, _, covers⟩ := bringing
  have known := covers moment member unheld _ introduced
  exact ⟨first, before, known, other, text, own, apart, rfl, brings⟩

theorem Turns.told {due : Bool} {bearing after : Bearing} {heading : Heading}
    {operation : Operation} {answer : operation.Answer} {child : Option Bearing}
    (turns : letter.Turns due bearing heading operation answer after child)
    (tells : bearing.documents = .telling session text) :
    after.documents = .telling session text ∨ after.documents = .settled session text := by
  cases turns <;> simp_all

theorem Turns.late {due : Bool} {bearing after : Bearing} {heading : Heading}
    {operation : Operation} {answer : operation.Answer} {child : Option Bearing}
    (turns : letter.Turns due bearing heading operation answer after child) :
    after.late = bearing.late := by
  cases turns <;> rfl

namespace Acts

variable {host : Host} {bearings : Bearings} {now next : Moment}
  {past : List Moment} {thread : Nat} {operation : Operation} {answer : operation.Answer}
  {due : Bool} {heading : Heading} {after : Bearing} {child : Option Bearing}
  (acts : letter.Acts host bearings now next thread operation answer due heading after child)

include acts

/-- Where a text is on the way to a server, it still is after an operation, or has got there. -/
theorem follows_telling {count : Nat} (unborn : bearings count = {})
    (seen : bearings.Seen letter now.world)
    (grasps : letter.Grasps (next :: now :: past) after.Carries after.documents)
    {teller : Nat} (tells : (bearings teller).documents = .telling other text)
    (own : other.key = session.key) (same : other.server = session.server) {document : Document}
    (owned : letter.document? session.key now = some document) :
    letter.Reached (next :: now :: past) session document.text ∨
      ∃ thread' teller text, (bearings.turn count thread after child thread').documents =
        .telling teller text ∧ teller.key = session.key ∧ teller.server = session.server := by
  obtain ⟨rfl, turned⟩ | ⟨_, turned⟩ | ⟨_, rfl, _⟩ :=
    bearings.turn_cases count thread after child teller
  · rcases acts.turns.told tells with still | settled
    · exact .inr ⟨teller, other, text, by rw [turned, still], own, same⟩
    · left
      rw [settled] at grasps
      obtain ⟨known, there, lines⟩ := seen.telling teller other text tells
      rw [own] at there
      cases there.symm.trans owned
      exact (grasps.2.reached.alike (alike_text lines).symm).same_server same
  · exact .inr ⟨teller, other, text, by rw [turned, tells], own, same⟩
  · rw [unborn] at tells
    cases tells

/-- A document that was tracked as it is now, before an operation. -/
theorem follows_old {count : Nat} (unborn : bearings count = {})
    (seen : bearings.Seen letter now.world)
    (grasps : letter.Grasps (next :: now :: past) after.Carries after.documents)
    (follows : letter.Follows (now :: past) bearings now) {moment : Moment}
    (member : moment ∈ now :: past) (introduced : moment.Introduced session.server)
    (unheld : moment.Unheld) {document old : Document}
    (owned : letter.document? session.key now = some old) (lines : old.lines = document.lines) :
    (∃ old, letter.document? session.key moment = some old ∧ old.lines = document.lines) ∨
      letter.Reached (next :: now :: past) session document.text ∨
      (∃ other ∈ next :: now :: past, letter.Diverted session document.lines other) ∨
      ∃ thread' teller text, (bearings.turn count thread after child thread').documents =
        .telling teller text ∧ teller.key = session.key ∧ teller.server = session.server := by
  have within := List.subset_cons_self next (now :: past)
  have text : old.text = document.text := congrArg Text.joinLines lines
  rcases follows session moment member introduced unheld old owned with
    ⟨older, there, same⟩ | reached | ⟨other, before, diverted⟩ | ⟨teller, other, given, tells, own,
      same⟩
  · exact .inl ⟨older, there, same.trans lines⟩
  · exact .inr (.inl (text ▸ reached.mono within))
  · exact .inr (.inr (.inl ⟨other, within before, lines ▸ diverted⟩))
  · rcases acts.follows_telling unborn seen grasps tells own same owned with reached | telling
    · exact .inr (.inl (text ▸ reached))
    · exact .inr (.inr (.inr telling))

theorem follows {count : Nat} (unborn : bearings count = {})
    (seen : bearings.Seen letter now.world)
    (before : letter.Grasps (now :: past) (bearings thread).Carries (bearings thread).documents)
    (grasps : letter.Grasps (next :: now :: past) after.Carries after.documents)
    (follows : letter.Follows (now :: past) bearings now) :
    letter.Follows (next :: now :: past) (bearings.turn count thread after child) next := by
  intro session moment member introduced unheld document owned
  rcases List.mem_cons.mp member with rfl | former
  · exact .inl ⟨document, owned, rfl⟩
  have old {old : Document} := @follows_old letter session host bearings now next past thread
    operation answer due heading after child acts count unborn seen grasps follows moment former
    introduced unheld document old
  have within := List.subset_cons_self next (now :: past)
  obtain ⟨later, performed, same⟩ := acts.performed
  have effect := (World.performed performed).workspace
  have workspace : next.world.workspace = later.workspace := by rw [same]
  by_cases sets : ∃ changed, operation = .setWorkspace changed
  · obtain ⟨changed, rfl⟩ := sets
    have put : next.world.workspace = changed := workspace.trans effect
    have written {other : Session} {known : Workspace} {given : Document}
        (tracks : changed = known.track letter.content.file given)
        (its : given.session = other.key) :
        document = given ∧ other.key = session.key := by
      rw [document?, put, tracks] at owned
      obtain ⟨found, own⟩ := Workspace.get?_of_ownedBy? owned
      simp only [Workspace.track, Table.get?_insert, if_true, Option.some.injEq] at found
      subst found
      exact ⟨rfl, its.symm.trans own⟩
    have turns := acts.turns
    cases turns with
    | plain plain => exact plain.elim
    | @retain known _ reading retains =>
      rw [document?, put] at owned
      obtain ⟨found, own⟩ := Workspace.get?_of_ownedBy? owned
      obtain ⟨former, there, session, lines⟩ := retains document found
      have view := seen.documents thread known (by rw [reading]; rfl)
      refine old ?_ lines
      rw [document?, view, Workspace.ownedBy?, there]
      simp [session, own, Option.filter]
    | @change other text known tracked updated comparing mine updates =>
      have its := (Workspace.get?_of_ownedBy? mine).2
      subst updates
      obtain ⟨rfl, own⟩ := written rfl ((tracked.session_update text).trans its)
      rw [comparing] at before
      by_cases server : other.server = session.server
      · exact .inr (.inr (.inr ⟨thread, other, text, by simp, own, server⟩))
      · obtain ⟨first, earlier, diverted⟩ := before.diverts own server former introduced unheld
        refine .inr (.inr (.inl ⟨first, within earlier, ?_⟩))
        exact tracked.lines_update text ▸ diverted
    | @track other text known opened =>
      obtain ⟨rfl, own⟩ := written rfl rfl
      rw [opened] at before
      obtain ⟨bringing, _, _, _, first, earlier, tells⟩ := before
      by_cases server : other.server = session.server
      · refine .inr (.inl (.inl ⟨first, within earlier, ?_⟩))
        exact server ▸ tells.told.alike (Text.alike_joinLines_splitLines text).symm
      · obtain ⟨first, earlier, diverted⟩ := bringing.diverts own server former introduced unheld
        exact .inr (.inr (.inl ⟨first, within earlier, diverted⟩))
  · have stays : next.world.workspace = now.world.workspace := by
      rw [workspace, effect]
      exact Operation.workspaceAfter_of_ne fun changed equal => sets ⟨changed, equal⟩
    exact old (by rw [document?, ← stays]; exact owned) rfl

/-- The content that a thread has brought to a session's server, or has found there, was had. -/
theorem had {session : Session} (locked : bearings.Locked now.world.held)
    (seen : bearings.Seen letter now.world)
    (come : (bearings thread).Carries → now.HasCome letter.index)
    (knows : letter.Knows (now :: past) (bearings thread))
    (before : letter.Grasps (now :: past) (bearings thread).Carries (bearings thread).documents)
    (follows : letter.Follows (now :: past) bearings now) (had : session ∈ after.had) :
    letter.Had (now :: past) session := by
  have turns := acts.turns
  cases turns with
  | @settle other carries brought =>
    rcases List.mem_cons.mp had with rfl | earlier
    · have handed {text : Text}
          (bringing : letter.Bringing (now :: past) session text (bearings thread).Carries)
          (own : text = letter.content.text) :
          ∃ moment ∈ now :: past, letter.Handed session moment := by
        obtain ⟨moment, member, brings, come, _⟩ := bringing
        exact ⟨moment, member, come carries, own ▸ brings⟩
      rcases brought with settled | ⟨known, workspace, document, comparing, owned, lines⟩
      · rw [settled] at before
        exact ⟨handed before.1 rfl, .inl (before.2.mono (fun _ => id) fun _ => carries)⟩
      · rw [comparing] at before
        refine ⟨handed before rfl, ?_⟩
        obtain ⟨moment, member, _, introduced, unheld, told⟩ := knows.known session known
        have view := seen.documents thread workspace (by rw [comparing]; rfl)
        have tracked : letter.document? session.key now = some document := by
          rw [document?, view, owned]
        have kept (reached : letter.Reached (now :: past) session letter.content.text) :
            letter.Kept (now :: past) session :=
          ⟨⟨now, by simp, come carries, document, tracked, lines⟩, reached⟩
        rcases follows session moment member introduced unheld document tracked with
          ⟨old, there, same⟩ | reached | diverted | ⟨teller, other, text, tells, _⟩
        · obtain ⟨first, among, heard⟩ := told old there
          have alike := alike_text (same.trans lines)
          exact .inr (.inl (kept (.inl ⟨first, among, heard.alike alike⟩)))
        · exact .inr (.inl (kept (reached.alike (alike_text lines))))
        · exact .inr (.inr (lines ▸ diverted))
        · have mine : (bearings thread).documents.mode? = some .exclusive := by
            rw [comparing]
            rfl
          have same := locked.alone (locked.documents thread _ mine)
            (locked.documents teller .exclusive (by rw [tells]; rfl))
          rw [same, comparing] at tells
          cases tells
    · exact knows.had session earlier
  | _ => exact knows.had session had

/-- What threads know stays so after an operation, and what the one that carried it out gets to know
is so. -/
theorem knows (locked : bearings.Locked now.world.held) (seen : bearings.Seen letter now.world)
    (registered : ∀ key session, now.world.sessions.get? key = some session →
      letter.Opened (now :: past) session)
    (come : (bearings thread).Carries → now.HasCome letter.index)
    (late : (bearings thread).late = true → now.HasCome letter.index)
    (knows : letter.Knows (now :: past) (bearings thread))
    (before : letter.Grasps (now :: past) (bearings thread).Carries (bearings thread).documents)
    (follows : letter.Follows (now :: past) bearings now) :
    letter.Knows (next :: now :: past) after := by
  have within := List.subset_cons_self next (now :: past)
  refine ⟨fun server member => ?_, fun session member => ?_, fun session member => ?_,
    fun file key member => ?_⟩
  · rcases acts.confirmed member with earlier | introduced
    · obtain ⟨moment, former, introduced⟩ := knows.confirmed server earlier
      exact ⟨moment, within former, introduced⟩
    · exact ⟨next, by simp, introduced⟩
  · rcases acts.known member with earlier | ⟨workspace, opening⟩ | ⟨key, found⟩
    · exact (knows.known session earlier).mono within
    · rw [opening] at before
      obtain ⟨moment, former, about, introduced, unheld, view, told⟩ := before
      subst view
      exact Opened.mono ⟨moment, former, about, introduced, unheld, told rfl⟩ within
    · exact (registered key session found).mono within
  · exact (acts.had locked seen come knows before follows member).mono within
  · rcases acts.found member with earlier | belongs
    · obtain ⟨moment, former, found⟩ := knows.found file key earlier
      exact ⟨moment, within former, acts.turns.late ▸ found⟩
    · exact ⟨now, by simp, fun tardy => late (acts.turns.late ▸ tardy), belongs⟩

end Acts

end Letter

end LanguageBridge
