import LanguageBridge.Proofs.Document.Effects
import LanguageBridge.Proofs.Precedence.Standing

/-!
What threads know is so: which servers were introduced, which documents were opened on them, and
what has come of bringing a text to one, also while it is under way.
-/
namespace LanguageBridge

namespace World

variable {host : Host} {thread : Nat} {world later : World} {peer : Peer} {method : String}
  {params : Json}

theorem traffic_of_notify
    (performed : world.perform host thread (.notify peer method params) = some (later, .ok ())) :
    later.traffic = world.traffic ++ [.notification peer method (Params.ofJson params)] := by
  simp only [perform, say] at performed
  split at performed <;> cases performed
  rfl

theorem gone_of_notify {failure : Failure}
    (performed : world.perform host thread (.notify peer method params) =
      some (later, .error failure)) : world.isAlive peer = false := by
  simp only [perform, say] at performed
  split at performed
  · cases performed
  · rename_i gone
    exact Bool.eq_false_iff.mpr gone

end World

namespace Letter

variable (letter : Letter)

/-- A text is being brought to a session's server: the thread set out to do so at a moment when
every server was introduced that was by the last moment at which nobody held the documents alone,
and when the content had come, if the thread has the content to pass on. -/
def Bringing (moments : List Moment) (session : Session) (text : Text) (carries : Prop) : Prop :=
  ∃ moment ∈ moments, letter.Brings session text moment ∧
    (carries → moment.HasCome letter.index) ∧
    ∀ other ∈ moments, other.Unheld → ∀ server, other.Introduced server →
      moment.Introduced server

/-- What a thread is doing with the documents while it holds them. -/
def Grasps (moments : List Moment) (carries : Prop) : Grip → Prop
  | .opening session workspace told => ∃ moment ∈ moments, moment.About session.reopenHeld ∧
    moment.Introduced session.server ∧ moment.Unheld ∧ moment.world.workspace = workspace ∧
    (told = true → ∀ document,
      workspace.ownedBy? session.key letter.content.file = some document →
        ∃ other ∈ moments, other.Told session.server letter.uri document.text)
  | .comparing session text _ | .telling session text =>
    letter.Bringing moments session text carries
  | .opened session text _ => letter.Bringing moments session text carries ∧
    ∃ before ∈ moments, (carries → before.HasCome letter.index) ∧
      ∃ after ∈ moments, before.Tells session.server letter.uri text after
  | .settled session text => letter.Bringing moments session text carries ∧
    letter.Brought moments carries session text
  | _ => True

variable {letter} {moments more : List Moment} {session : Session} {text : Text}

theorem Opened.mono (opened : letter.Opened moments session) (within : moments ⊆ more) :
    letter.Opened more session := by
  obtain ⟨moment, member, about, introduced, unheld, told⟩ := opened
  refine ⟨moment, within member, about, introduced, unheld, fun document owned => ?_⟩
  obtain ⟨other, before, told⟩ := told document owned
  exact ⟨other, within before, told⟩

theorem Reached.mono (reached : letter.Reached moments session text) (within : moments ⊆ more) :
    letter.Reached more session text :=
  reached.imp (fun ⟨moment, member, told⟩ => ⟨moment, within member, told⟩)
    fun ⟨moment, member, gone⟩ => ⟨moment, within member, gone⟩

theorem Brought.mono {carries carried : Prop}
    (brought : letter.Brought moments carries session text) (within : moments ⊆ more)
    (fewer : carried → carries) : letter.Brought more carried session text :=
  brought.imp
    (fun ⟨before, member, come, after, among, tells⟩ =>
      ⟨before, within member, come ∘ fewer, after, within among, tells⟩)
    fun ⟨moment, member, gone⟩ => ⟨moment, within member, gone⟩

theorem Brought.reached {carries : Prop} (brought : letter.Brought moments carries session text) :
    letter.Reached moments session text :=
  brought.imp_left fun ⟨_, _, _, after, member, tells⟩ => ⟨after, member, tells.told⟩

theorem Kept.mono (kept : letter.Kept moments session) (within : moments ⊆ more) :
    letter.Kept more session := by
  obtain ⟨⟨moment, member, tracks⟩, reached⟩ := kept
  exact ⟨⟨moment, within member, tracks⟩, reached.mono within⟩

theorem Had.mono (had : letter.Had moments session) (within : moments ⊆ more) :
    letter.Had more session := by
  obtain ⟨⟨moment, member, handed⟩, came⟩ := had
  exact ⟨⟨moment, within member, handed⟩, came.imp (·.mono within id) (·.imp (·.mono within)
    fun ⟨moment, member, diverted⟩ => ⟨moment, within member, diverted⟩)⟩

theorem Delivered.mono (delivered : letter.Delivered moments) (within : moments ⊆ more) :
    letter.Delivered more := by
  obtain ⟨session, own, had⟩ := delivered
  exact ⟨session, own, had.mono within⟩

theorem Lost.mono (lost : letter.Lost moments) (within : moments ⊆ more) : letter.Lost more := by
  obtain ⟨moment, member, lost⟩ := lost
  exact ⟨moment, within member, lost⟩

theorem Knows.mono {bearing : Bearing} (knows : letter.Knows moments bearing)
    (within : moments ⊆ more) : letter.Knows more bearing where
  confirmed server member := by
    obtain ⟨moment, member, introduced⟩ := knows.confirmed server member
    exact ⟨moment, within member, introduced⟩
  known session member := (knows.known session member).mono within
  had session member := (knows.had session member).mono within
  found file key member := by
    obtain ⟨moment, among, belongs⟩ := knows.found file key member
    exact ⟨moment, within among, belongs⟩

theorem Bringing.next {carries carried : Prop} (next : Moment) (held : ¬ next.Unheld)
    (bringing : letter.Bringing moments session text carries) (fewer : carried → carries) :
    letter.Bringing (next :: moments) session text carried := by
  obtain ⟨moment, member, brings, come, covers⟩ := bringing
  refine ⟨moment, List.mem_cons_of_mem _ member, brings, fun carried => come (fewer carried), ?_⟩
  intro other among unheld
  rcases List.mem_cons.mp among with rfl | before
  · exact absurd unheld held
  · exact covers other before unheld

/-- Who holds on to the documents goes on with what it is doing. -/
theorem Grasps.next {carries carried : Prop} {grip : Grip} (next : Moment)
    (grasps : letter.Grasps moments carries grip)
    (held : grip.mode? = some .exclusive → ¬ next.Unheld)
    (fewer : grip ≠ .free → carried → carries) :
    letter.Grasps (next :: moments) carried grip := by
  have within := List.subset_cons_self next moments
  cases grip with
  | opening session workspace told =>
    obtain ⟨moment, member, about, introduced, unheld, same, complete⟩ := grasps
    refine ⟨moment, within member, about, introduced, unheld, same, fun told document owned => ?_⟩
    obtain ⟨other, before, heard⟩ := complete told document owned
    exact ⟨other, within before, heard⟩
  | comparing => exact Bringing.next next (held rfl) grasps (fewer nofun)
  | telling => exact Bringing.next next (held rfl) grasps (fewer nofun)
  | opened =>
    obtain ⟨bringing, before, member, come, after, among, tells⟩ := grasps
    exact ⟨bringing.next next (held rfl) (fewer nofun), before, within member,
      fun carried => come (fewer nofun carried), after, within among, tells⟩
  | settled =>
    obtain ⟨bringing, brought⟩ := grasps
    exact ⟨bringing.next next (held rfl) (fewer nofun), brought.mono within (fewer nofun)⟩
  | _ => trivial

end Letter

/-- A notification to a server that is there tells it the notice that it is. -/
theorem Moment.tells_of_notify {host : Host} {thread : Nat} {now next : Moment} {server : ServerId}
    {uri : Uri} {method : String} {params : Json} {later : World} {notice : Notice} {text : Text}
    (performed : now.world.perform host thread (.notify (.server server) method params) =
      some (later, .ok ())) (same : next.world = { later with forked := [] })
    (reads : Notice.read? method params = some notice)
    (tells : notice.told? = some (uri.text, text)) : now.Tells server uri text next := by
  refine ⟨.notification (.server server) method (Params.ofJson params), notice, text, ?_, ?_, tells,
    Text.Alike.refl text⟩
  · have said := World.traffic_of_notify performed
    rw [same]
    exact said
  · rw [Notice.heard?, if_pos rfl, Notice.read?_ofJson, reads]

/-- How many messages of the editor have been taken at a moment. -/
def Moment.taken (moment : Moment) : Nat := moment.chronicle.taken moment.world

/-- The message that carries the content is the one to be taken next; or, for an operation that
takes no message of the editor, it has come. -/
def Letter.Due (letter : Letter) (now : Moment) : Operation → Prop
  | .receive .editor => now.taken = letter.index
  | _ => now.HasCome letter.index

/-- A thread carries out an operation that its bearing allows. -/
structure Letter.Acts (letter : Letter) (host : Host) (bearings : Bearings) (now next : Moment)
    (thread : Nat) (operation : Operation) (answer : operation.Answer) (due : Bool)
    (heading : Heading) (after : Bearing) (child : Option Bearing) : Prop where
  heads : ∃ onward, now.system.threads[thread]? = some (.step operation onward) ∧
    (Script.step operation onward).Heads letter heading
  performed : ∃ later, now.world.perform host thread operation = some (later, answer) ∧
    next.world = { later with forked := [] }
  turns : letter.Turns due (bearings thread) heading operation answer after child
  timely : due = true ↔ letter.Due now operation
  chronicle : next.chronicle = now.chronicle.perform thread operation now.world next.world

namespace Letter.Acts

variable {letter : Letter} {host : Host} {bearings : Bearings} {now next : Moment}
  {past : List Moment} {thread : Nat} {operation : Operation} {answer : operation.Answer}
  {due : Bool} {heading : Heading} {after : Bearing} {child : Option Bearing}
  (acts : letter.Acts host bearings now next thread operation answer due heading after child)

include acts

theorem about {session : Session} (opens : heading = .opens session) :
    now.About session.reopenHeld := by
  obtain ⟨onward, here, heads⟩ := acts.heads
  subst opens
  obtain ⟨rest, same⟩ := heads
  exact ⟨thread, rest, same ▸ here⟩

theorem brings {session : Session} {text : Text} (brings : heading = .brings session text) :
    letter.Brings session text now := by
  obtain ⟨onward, here, heads⟩ := acts.heads
  subst brings
  obtain ⟨rest, same⟩ := heads
  exact ⟨thread, rest, same ▸ here⟩

theorem locked (locked : bearings.Locked now.world.held) (count : Nat) :
    (bearings.turn count thread after child).Locked next.world.held := by
  obtain ⟨later, performed, same⟩ := acts.performed
  have locks := locked.acted performed acts.turns count
  rw [same]
  exact locks

theorem seen (locked : bearings.Locked now.world.held)
    (seen : bearings.Seen letter now.world) (count : Nat) :
    (bearings.turn count thread after child).Seen letter next.world := by
  obtain ⟨later, performed, same⟩ := acts.performed
  have sees := seen.acted performed acts.turns locked count
  rw [same]
  exact ⟨sees.documents, sees.telling, sees.queue⟩

/-- Whoever has the content to pass on while it holds the documents had it before. -/
theorem carries (held : after.documents ≠ .free) (carries : after.Carries) :
    (bearings thread).Carries := by
  have turns := acts.turns
  cases turns <;> simp_all [Bearing.Carries]

theorem confirmed {server : ServerId} (confirmed : server ∈ after.confirmed) :
    server ∈ (bearings thread).confirmed ∨ next.Introduced server := by
  obtain ⟨later, performed, same⟩ := acts.performed
  have turns := acts.turns
  cases turns with
  | @confirm other =>
    rcases List.mem_cons.mp confirmed with rfl | before
    · right
      have said := World.traffic_of_notify performed
      rw [Moment.Introduced, same]
      exact said ▸ List.mem_append_right _ List.mem_cons_self
    · exact .inl before
  | _ => exact .inl confirmed

theorem known {session : Session} (known : session ∈ after.known) :
    session ∈ (bearings thread).known ∨
      (∃ workspace, (bearings thread).documents = .opening session workspace true) ∨
      ∃ key, now.world.sessions.get? key = some session := by
  obtain ⟨later, performed, same⟩ := acts.performed
  have turns := acts.turns
  cases turns with
  | greeted opening =>
    rcases List.mem_cons.mp known with rfl | before
    · exact .inr (.inl ⟨_, opening⟩)
    · exact .inl before
  | @find key found =>
    rcases List.mem_cons.mp known with rfl | before
    · exact .inr (.inr ⟨key, congrArg Prod.snd (Option.some.inj performed)⟩)
    · exact .inl before
  | _ => exact .inl known

theorem found {file : String} {key : SessionKey} (found : (file, key) ∈ after.found) :
    (file, key) ∈ (bearings thread).found ∨
      ∃ language, SessionKey.ofFile now.world.tree language file = .ok key := by
  obtain ⟨later, performed, same⟩ := acts.performed
  have turns := acts.turns
  cases turns with
  | @locate tree language other its belongs =>
    rcases List.mem_cons.mp found with same | before
    · cases same
      have here : tree = now.world.tree := by
        simp only [World.perform] at performed
        exact (congrArg Prod.snd (Option.some.inj performed)).symm
      exact .inr ⟨language, here ▸ belongs⟩
    · exact .inl before
  | _ => exact .inl found

/-- Whoever has read the documents to bring a text sets out to bring it. -/
theorem bringing {session : Session} {text : Text}
    (lasting : ∀ moment ∈ now :: past, moment.Precedes now) (held : ¬ next.Unheld)
    (carries : (bearings thread).Carries → now.HasCome letter.index)
    (brings : heading = .brings session text) :
    letter.Bringing (next :: now :: past) session text (bearings thread).Carries := by
  refine ⟨now, by simp, acts.brings brings, carries, ?_⟩
  intro other member unheld server introduced
  rcases List.mem_cons.mp member with rfl | before
  · exact absurd unheld held
  · exact introduced.stays (lasting other before)

/-- What a thread does with the documents, after an operation. -/
theorem grasps (lasting : ∀ moment ∈ now :: past, moment.Precedes now)
    (locked : bearings.Locked now.world.held)
    (knows : letter.Knows (now :: past) (bearings thread))
    (carries : (bearings thread).Carries → now.HasCome letter.index)
    (grasps : letter.Grasps (now :: past) (bearings thread).Carries (bearings thread).documents) :
    letter.Grasps (next :: now :: past) after.Carries after.documents := by
  have held : after.documents.mode? = some .exclusive → ¬ next.Unheld := by
    intro holds unheld
    have locks := acts.locked locked (thread + 1)
    have mine := locks.documents thread .exclusive (by simpa using holds)
    cases unheld _ mine rfl
  obtain ⟨later, performed, same⟩ := acts.performed
  have stays (kept : after.documents = (bearings thread).documents) :
      letter.Grasps (next :: now :: past) after.Carries after.documents := by
    rw [kept] at held ⊢
    exact grasps.next next held fun held carried => acts.carries (by rwa [kept]) carried
  have within := List.subset_cons_self next (now :: past)
  have turns := acts.turns
  cases turns with
  | share | enter | greeted | read | retain | leave | settle => trivial
  | @greet session workspace told shared confirmed nothing =>
    obtain ⟨moment, before, introduced⟩ := knows.confirmed _ confirmed
    refine ⟨now, by simp, acts.about rfl, introduced.stays (lasting moment before),
      locked.unheld thread (by rw [shared]; rfl), ?_, fun told document owned => ?_⟩
    · simp only [World.perform] at performed
      split at performed <;> cases performed
      rfl
    · rw [nothing told] at owned
      cases owned
  | @reopen session workspace told document opening owned =>
    rw [opening] at grasps
    obtain ⟨moment, before, about, introduced, unheld, view, _⟩ := grasps
    refine ⟨moment, within before, about, introduced, unheld, view, fun _ other again => ?_⟩
    cases owned.symm.trans again
    have tells := Moment.tells_of_notify performed same (Notice.read?_openParams _ _) rfl
    exact ⟨next, by simp, tells.told⟩
  | bring => exact acts.bringing lasting (held rfl) carries rfl
  | change comparing =>
    rw [comparing] at grasps
    exact Bringing.next next (held rfl) grasps id
  | @tellChange session text version outcome telling =>
    rw [telling] at grasps
    refine ⟨Bringing.next next (held rfl) grasps id, ?_⟩
    cases outcome with
    | ok _ => exact .inl ⟨now, by simp, carries, next, by simp,
        Moment.tells_of_notify performed same (Notice.read?_changeParams _ _ _) rfl⟩
    | error failure => exact .inr ⟨now, by simp, World.gone_of_notify performed⟩
  | @tellOpen session text workspace comparing =>
    rw [comparing] at grasps
    have tells := Moment.tells_of_notify performed same (Notice.read?_openParams _ _) rfl
    exact ⟨Bringing.next next (held rfl) grasps id, now, by simp, carries, next, by simp,
      tells.alike text.alike_joinLines_splitLines⟩
  | failOpen comparing =>
    rw [comparing] at grasps
    exact ⟨Bringing.next next (held rfl) grasps id,
      .inr ⟨now, by simp, World.gone_of_notify performed⟩⟩
  | track opened =>
    rw [opened] at grasps
    obtain ⟨bringing, brought⟩ := grasps
    exact ⟨bringing.next next (held rfl) id, Brought.mono (.inl brought) within id⟩
  | _ => exact stays rfl

end Letter.Acts

end LanguageBridge
