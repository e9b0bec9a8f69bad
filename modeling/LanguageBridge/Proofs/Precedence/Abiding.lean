import LanguageBridge.Proofs.Precedence.Threads
import LanguageBridge.Proofs.Precedence.Watching

/-!
Where the content is: with the thread that took the message or took it out of the queue, in the
queue, or it was brought to a server. It gets lost only when it is dropped with the queue or when
its file has moved to another session.
-/
namespace LanguageBridge

namespace Letter

/-- Nothing has to be done any more with the content. -/
def Over (letter : Letter) (moments : List Moment) : Prop :=
  letter.Lost moments ∨ letter.Delivered moments

theorem Over.mono {letter : Letter} {moments more : List Moment} (past : letter.Over moments)
    (within : moments ⊆ more) : letter.Over more :=
  past.imp (·.mono within) (·.mono within)

/-- Content that was taken is with a thread, queued, or brought to a server, and a thread that is
late has not sent the queue before the content was in it. -/
structure Lodged (letter : Letter) (moments : List Moment) (bearings : Bearings) (now : Moment) :
    Prop where
  come : ∀ thread, (bearings thread).Carries → now.HasCome letter.index
  kept : letter.index < now.taken → (∃ thread, (bearings thread).Carries) ∨
    letter.Queued now.world.queue ∨ letter.Over moments
  cleared : ∀ thread, (bearings thread).late = true → ∀ session ∈ (bearings thread).cleared,
    session.key = letter.key → letter.Over moments

/-- Content that was had by a session that it is for is over. -/
theorem Knows.over {letter : Letter} {moments : List Moment} {bearing : Bearing}
    (knows : letter.Knows moments bearing)
    (had : ∃ session ∈ bearing.had, session.key = letter.key) : letter.Over moments := by
  obtain ⟨session, member, own⟩ := had
  exact .inr ⟨session, own, knows.had session member⟩

/-- Messages have come before they are taken. -/
theorem hasCome_of_taken {index : Nat} {now : Moment} (taken : index < now.taken) :
    now.HasCome index :=
  Nat.lt_of_lt_of_le taken (Nat.sub_le ..)

namespace Acts

variable {letter : Letter} {host : Host} {bearings : Bearings} {now next : Moment}
  {past : List Moment} {thread count : Nat} {operation : Operation} {answer : operation.Answer}
  {due : Bool} {heading : Heading} {after : Bearing} {child : Option Bearing}
  (acts : letter.Acts host bearings now next thread operation answer due heading after child)

include acts

/-- Who has the content keeps it, queues it, or has brought it to a server, unless it has moved. -/
theorem carried (knows : letter.Knows (now :: past) (bearings thread))
    (come : now.HasCome letter.index) (carries : (bearings thread).Carries) :
    after.Carries ∨ letter.Queued next.world.queue ∨ letter.Over (now :: past) := by
  obtain ⟨later, performed, same⟩ := acts.performed
  have effect := (World.performed performed).queue
  have turns := acts.turns
  cases turns with
  | lodge _ _ queued =>
    refine .inr (.inl ?_)
    rw [same]
    exact effect ▸ queued
  | letGo empty =>
    rcases carries with owing | hands
    · exact .inl (.inl owing)
    · exact .inr (.inr (knows.over (empty hands)))
  | pass _ _ had own => exact .inr (.inr (knows.over ⟨_, had, own⟩))
  | clear empty =>
    rcases carries with owing | hands
    · exact .inl (.inl owing)
    · obtain ⟨own, had⟩ := empty hands
      exact .inr (.inr (knows.over ⟨_, had, own⟩))
  | @stray tree _ elsewhere =>
    have here : tree = now.world.tree := by
      simp only [World.perform] at performed
      exact (congrArg Prod.snd (Option.some.inj performed)).symm
    exact .inr (.inr (.inl ⟨now, by simp, .inl ⟨come, here ▸ elsewhere⟩⟩))
  | passOn clear =>
    refine .inl (.inr (carries.resolve_left fun owing => ?_))
    rw [owing] at clear
    rcases clear with impossible | impossible <;> cases impossible
  | _ => left; simp_all [Bearing.Carries]

/-- Queued content stays queued, is taken out by a thread, or is dropped. -/
theorem queued (seen : bearings.Seen letter now.world) (come : now.HasCome letter.index)
    (queued : letter.Queued now.world.queue) :
    after.Carries ∨ letter.Queued next.world.queue ∨ letter.Over (now :: past) := by
  obtain ⟨later, performed, same⟩ := acts.performed
  have effect := (World.performed performed).queue
  have put : next.world.queue = later.queue := by rw [same]
  rw [put, effect]
  by_cases sets : ∃ changed, operation = .setQueue changed
  · obtain ⟨changed, rfl⟩ := sets
    have turns := acts.turns
    cases turns with
    | plain plain => exact plain.elim
    | keep sees keeps => exact .inr (.inl (keeps (seen.queue thread _ sees ▸ queued)))
    | @drop queue sees =>
      obtain ⟨onward, here, rest, heads⟩ := acts.heads
      have view := seen.queue thread queue sees
      refine .inr (.inr (.inl ⟨now, by simp, .inr ⟨come, queued, thread, rest, ?_⟩⟩))
      rw [here, view]
      exact congrArg some heads
    | lodge _ _ queued => exact .inr (.inl queued)
    | take => exact .inl (.inr rfl)
    | early _ early =>
      have timely := acts.timely
      rw [early] at timely
      exact absurd (timely.mpr come) nofun
  · rw [Operation.queueAfter_of_ne fun changed equal => sets ⟨changed, equal⟩]
    exact .inr (.inl queued)

/-- Who has just taken the message that carries the content has it. -/
theorem takes {message : Message} (watched : letter.Watched bearings now)
    (receives : (⟨operation, answer⟩ : Σ operation : Operation, operation.Answer) =
      ⟨.receive .editor, some message⟩) (first : now.taken = letter.index) : after.Carries := by
  have turns := acts.turns
  have timely := acts.timely
  cases receives
  have here : due = true := timely.mpr first
  cases turns with
  | plain plain => exact plain.elim
  | receiveDue => exact .inl rfl
  | receive other =>
    rcases other with past | ⟨_, early | nothing⟩
    · have taken := watched.after thread (.inr past)
      omega
    · cases here.symm.trans early
    · cases nothing

/-- Who sends the queue for a session has brought the content to its server, if that was in it. -/
theorem clears {session : Session} (cleared : session ∈ after.cleared) :
    session ∈ (bearings thread).cleared ∨ (session.key = letter.key →
      (bearings thread).queue = .hands ∧ (∃ session ∈ (bearings thread).had,
        session.key = letter.key) ∨
      ∃ queue, (bearings thread).queue = .seen queue ∧ ¬ letter.Queued queue) := by
  have turns := acts.turns
  cases turns with
  | @clear other empty sent =>
    rcases List.mem_cons.mp cleared with rfl | before
    · refine .inr fun own => (sent own).imp_left fun hands => ⟨hands, session, ?_, own⟩
      exact (empty hands).2
    · exact .inl before
  | _ => exact .inl cleared

/-- Content that was taken by the time of an operation is still somewhere after it. -/
theorem kept (unborn : bearings count = {}) (seen : bearings.Seen letter now.world)
    (knows : letter.Knows (now :: past) (bearings thread)) (taken : letter.index < now.taken)
    (lodged : letter.Lodged (now :: past) bearings now) :
    (∃ other, (bearings.turn count thread after child other).Carries) ∨
      letter.Queued next.world.queue ∨ letter.Over (now :: past) := by
  have mine (fate : after.Carries ∨ letter.Queued next.world.queue ∨ letter.Over (now :: past)) :
      (∃ other, (bearings.turn count thread after child other).Carries) ∨
        letter.Queued next.world.queue ∨ letter.Over (now :: past) :=
    fate.imp_left fun carries => ⟨thread, by rwa [Bearings.turn_self]⟩
  rcases lodged.kept taken with ⟨other, carries⟩ | queued | done
  · obtain ⟨rfl, _⟩ | ⟨_, turned⟩ | ⟨_, rfl, _⟩ :=
      bearings.turn_cases count thread after child other
    · exact mine (acts.carried knows (hasCome_of_taken taken) carries)
    · exact .inl ⟨other, by rwa [turned]⟩
    · rw [unborn] at carries
      rcases carries with impossible | impossible <;> cases impossible
  · exact mine (acts.queued seen (hasCome_of_taken taken) queued)
  · exact .inr (.inr done)

theorem lodged (unborn : bearings count = {}) (locked : bearings.Locked now.world.held)
    (seen : bearings.Seen letter now.world)
    (knows : letter.Knows (now :: past) (bearings thread))
    (precedes : now.Precedes next) (watched : letter.Watched bearings now)
    (watches : letter.Watched (bearings.turn count thread after child) next)
    (lodged : letter.Lodged (now :: past) bearings now) :
    letter.Lodged (next :: now :: past) (bearings.turn count thread after child) next := by
  have within := List.subset_cons_self next (now :: past)
  refine ⟨?_, ?_, ?_⟩
  · rintro other (owing | hands)
    · exact hasCome_of_taken (watches.after other (.inl owing))
    · refine Bearings.forall_turn (fun _ bearing => bearing.queue = .hands →
        next.HasCome letter.index) ?_ ?_ ?_ other hands
      · exact fun other _ hands => (lodged.come other (.inr hands)).stays precedes
      · intro hands
        have turns := acts.turns
        have timely := acts.timely
        cases turns with
        | take _ _ _ come => exact Moment.HasCome.stays (timely.mp come) precedes
        | _ => exact (lodged.come thread (.inr (by simp_all))).stays precedes
      · rintro new rfl hands
        rw [acts.turns.blank] at hands
        cases hands
  · intro taken
    have before (taken : letter.index < now.taken) := acts.kept unborn seen knows taken lodged
    rcases acts.taken watched.dealt with ⟨same, _⟩ | ⟨message, receives, more⟩
    · exact (before (same ▸ taken)).imp_right (·.imp_right (·.mono within))
    · rcases Nat.lt_or_ge letter.index now.taken with earlier | least
      · exact (before earlier).imp_right (·.imp_right (·.mono within))
      · exact .inl ⟨thread, by
          rw [Bearings.turn_self]
          exact acts.takes watched receives (by omega)⟩
  · refine Bearings.forall_turn (fun _ bearing => bearing.late = true →
      ∀ session ∈ bearing.cleared, session.key = letter.key →
        letter.Over (next :: now :: past)) ?_ ?_ ?_
    · exact fun other _ late session member own =>
        (lodged.cleared other late session member own).mono within
    · intro late session member own
      rw [acts.turns.late] at late
      rcases acts.clears member with before | sends
      · exact (lodged.cleared thread late session before own).mono within
      · rcases sends own with ⟨_, had⟩ | ⟨queue, sees, nothing⟩
        · exact (knows.over had).mono within
        · -- nobody else has the content: it was passed on, and the queue is held here
          obtain ⟨taken, nobody⟩ := watched.late thread late
          rcases lodged.kept taken with ⟨other, owing | hands⟩ | queued | done
          · exact absurd owing (nobody other)
          · have same := locked.alone (locked.queue thread (by rw [sees]; nofun))
              (locked.queue other (by rw [hands]; nofun))
            rw [same, sees] at hands
            cases hands
          · exact absurd (seen.queue thread queue sees ▸ queued) nothing
          · exact done.mono within
    · rintro new rfl _ session member
      rw [acts.turns.blank] at member
      cases member

end Acts

end Letter

end LanguageBridge

/-!
On every course, whatever happens, the threads have bearings that tell where they stand towards
content of an event.
-/
namespace LanguageBridge

/-- Nothing is done between two moments that matters here. -/
structure Moment.Idles (now next : Moment) : Prop where
  threads : next.system.threads = now.system.threads
  forked : next.world.forked = now.world.forked
  workspace : next.world.workspace = now.world.workspace
  queue : next.world.queue = now.world.queue
  held : next.world.held = now.world.held
  sessions : next.world.sessions = now.world.sessions
  tasks : next.chronicle.tasks = now.chronicle.tasks
  more : ∃ more, next.chronicle.arrived = now.chronicle.arrived ++ more ∧
    next.world.waiting .editor = now.world.waiting .editor ++ more

namespace Moment

variable {now next : Moment}

theorem Idles.taken (idles : now.Idles next) : next.taken = now.taken := by
  obtain ⟨more, arrived, waiting⟩ := idles.more
  rw [Moment.taken, Chronicle.taken, arrived, waiting, List.length_append, List.length_append,
    Nat.add_sub_add_right]
  rfl

theorem Idles.unheld (idles : now.Idles next) : next.Unheld ↔ now.Unheld := by
  rw [Unheld, idles.held]
  rfl

theorem idles_occur (now : Moment) (happening : Happening) :
    now.Idles ⟨now.system.occur happening, now.chronicle.occur happening⟩ := by
  cases happening with
  | answer ticket outcome =>
    constructor <;> simp only [System.occur] <;> first
      | (split <;> rfl)
      | exact ⟨[], by simp [Chronicle.occur], by split <;> simp [World.waiting]⟩
      | rfl
  | deliver peer message =>
    cases peer with
    | editor =>
      constructor <;> first
        | exact ⟨[message], rfl, by simp [World.waiting, System.occur]⟩
        | rfl
    | server id =>
      constructor <;> first
        | exact ⟨[], by simp [Chronicle.occur], by simp [World.waiting, System.occur]⟩
        | rfl
  | endInput | disconnect | change =>
    constructor <;> first
      | exact ⟨[], by simp [Chronicle.occur], by simp [World.waiting, System.occur]⟩
      | rfl

end Moment

namespace Letter

/-- Sessions that are registered are registered for their keys, and their documents were opened. -/
def Registered (letter : Letter) (moments : List Moment) (now : Moment) : Prop :=
  ∀ key session, now.world.sessions.get? key = some session →
    session.key = key ∧ letter.Opened moments session

/-- Threads bear themselves as their bearings say. -/
structure Abides (letter : Letter) (bearings : Bearings) (now : Moment) : Prop where
  bears : ∀ (thread : Nat) (script : Script (Outcome Json)),
    now.system.threads[thread]? = some script →
      script.Bears letter (bearings thread) fun _ _ => True
  unborn : ∀ thread, now.system.threads.length ≤ thread → bearings thread = {}
  tasks : now.chronicle.tasks.length = now.system.threads.length
  forked : now.world.forked = []

/-- The bearings of the threads tell where they stand. -/
structure Sound (letter : Letter) (bearings : Bearings) (now : Moment) (past : List Moment) :
    Prop where
  abides : letter.Abides bearings now
  locked : bearings.Locked now.world.held
  seen : bearings.Seen letter now.world
  knows : ∀ thread, letter.Knows (now :: past) (bearings thread)
  grasps : ∀ thread,
    letter.Grasps (now :: past) (bearings thread).Carries (bearings thread).documents
  follows : letter.Follows (now :: past) bearings now
  watched : letter.Watched bearings now
  lodged : letter.Lodged (now :: past) bearings now
  registered : letter.Registered (now :: past) now

variable {letter : Letter} {bearings : Bearings} {now next : Moment} {past : List Moment}

theorem Follows.idle (follows : letter.Follows (now :: past) bearings now)
    (same : next.world.workspace = now.world.workspace) :
    letter.Follows (next :: now :: past) bearings next := by
  have within := List.subset_cons_self next (now :: past)
  intro session moment member introduced unheld document owned
  rcases List.mem_cons.mp member with rfl | former
  · exact .inl ⟨document, owned, rfl⟩
  · have before : letter.document? session.key now = some document := by
      rw [document?, ← same]
      exact owned
    rcases follows session moment former introduced unheld document before with
      old | reached | ⟨other, earlier, diverted⟩ | telling
    · exact .inl old
    · exact .inr (.inl (reached.mono within))
    · exact .inr (.inr (.inl ⟨other, within earlier, diverted⟩))
    · exact .inr (.inr (.inr telling))

theorem Watched.idle (watched : letter.Watched bearings now) (idles : now.Idles next) :
    letter.Watched bearings next := by
  have taken := idles.taken
  refine ⟨?_, watched.single, ?_, ?_, ?_, ?_⟩
  · obtain ⟨earlier, whole⟩ := watched.dealt
    obtain ⟨more, arrived, waiting⟩ := idles.more
    exact ⟨earlier, by rw [arrived, waiting, whole, List.append_assoc]⟩
  · exact taken ▸ watched.before
  · exact taken ▸ watched.after
  · exact taken ▸ watched.late
  · exact idles.tasks ▸ watched.tasks

theorem Lodged.idle (lodged : letter.Lodged (now :: past) bearings now) (idles : now.Idles next)
    (precedes : now.Precedes next) : letter.Lodged (next :: now :: past) bearings next := by
  have within := List.subset_cons_self next (now :: past)
  refine ⟨fun thread carries => (lodged.come thread carries).stays precedes, fun taken => ?_, ?_⟩
  · rw [idles.queue]
    exact (lodged.kept (idles.taken ▸ taken)).imp_right (·.imp_right (·.mono within))
  · exact fun thread late session member own =>
      (lodged.cleared thread late session member own).mono within

/-- Where threads stand when nothing was done. -/
theorem Sound.idle (sound : letter.Sound bearings now past) (idles : now.Idles next)
    (precedes : now.Precedes next) : letter.Sound bearings next (now :: past) where
  abides :=
    { bears := idles.threads ▸ sound.abides.bears
      unborn := idles.threads ▸ sound.abides.unborn
      tasks := by rw [idles.tasks, idles.threads, sound.abides.tasks]
      forked := idles.forked.trans sound.abides.forked }
  locked := idles.held ▸ sound.locked
  seen :=
    { documents := idles.workspace ▸ sound.seen.documents
      telling := idles.workspace ▸ sound.seen.telling
      queue := idles.queue ▸ sound.seen.queue }
  knows := fun thread => (sound.knows thread).mono (List.subset_cons_self ..)
  grasps := fun thread => by
    refine (sound.grasps thread).next next (fun holds unheld => ?_) fun _ => id
    cases idles.unheld.mp unheld _ (sound.locked.documents thread _ holds) rfl
  follows := sound.follows.idle idles.workspace
  watched := sound.watched.idle idles
  lodged := sound.lodged.idle idles precedes
  registered := fun key session there => by
    obtain ⟨own, opened⟩ := sound.registered key session (idles.sessions ▸ there)
    exact ⟨own, opened.mono (List.subset_cons_self ..)⟩

/-- The content is what the message of its number carries, and that is an event. -/
def Comes (letter : Letter) (now : Moment) : Prop :=
  ∀ message, now.chronicle.arrived[letter.index]? = some message →
    Editor.isEvent message.method = true ∧ message.content? = some letter.content

theorem Comes.earlier (comes : letter.Comes next) (precedes : now.Precedes next) :
    letter.Comes now := by
  intro message there
  obtain ⟨more, whole⟩ := precedes.arrived
  refine comes message ?_
  rw [← whole, List.getElem?_append_left (List.getElem?_eq_some_iff.mp there).1]
  exact there

section Acting

variable {host : Host} {setup : Setup} {thread : Nat} {operation : Operation}
  {answer : operation.Answer} {world : World} {due : Bool}

/-- What the world answers is what threads may expect. -/
theorem Sound.expects (sound : letter.Sound bearings now past) (comes : letter.Comes now)
    (performed : now.world.perform host thread operation = some (world, answer))
    (timely : due = true → letter.Due now operation) : letter.Expects due operation answer := by
  cases operation with
  | session key =>
    cases performed
    exact fun session found => (sound.registered key session found).1
  | receive peer =>
    cases peer with
    | server server => trivial
    | editor =>
      rintro message rfl here
      obtain ⟨earlier, whole⟩ := sound.watched.dealt
      have first : now.taken = letter.index := timely here
      have number : earlier.length = letter.index := by
        rw [← first, Moment.taken, Chronicle.taken, whole]
        simp
      refine comes message ?_
      rw [whole, World.waiting_of_receive performed, ← number]
      simp
  | _ => trivial

variable {heading : Heading} {after : Bearing} {child : Option Bearing}
  (acts : letter.Acts host bearings now next thread operation answer due heading after child)

include acts

/-- Sessions are registered only once their documents were opened. -/
theorem Acts.registered (knows : letter.Knows (now :: past) (bearings thread))
    (registered : letter.Registered (now :: past) now) :
    letter.Registered (next :: now :: past) next := by
  obtain ⟨later, performed, same⟩ := acts.performed
  have effect : next.world.sessions = operation.sessionsAfter now.world := by
    rw [same]
    exact (World.performed performed).sessions
  have kept {key : SessionKey} {session : Session}
      (there : now.world.sessions.get? key = some session) :
      session.key = key ∧ letter.Opened (next :: now :: past) session := by
    obtain ⟨own, opened⟩ := registered key session there
    exact ⟨own, opened.mono (List.subset_cons_self ..)⟩
  have fewer {key other : SessionKey} {session : Session}
      (there : (now.world.sessions.erase other).get? key = some session) :
      session.key = key ∧ letter.Opened (next :: now :: past) session := by
    rw [Table.get?_erase] at there
    split at there
    · cases there
    · exact kept there
  intro key session there
  rw [effect] at there
  have turns := acts.turns
  cases operation with
  | register other added =>
    cases turns with
    | plain plain => exact plain.elim
    | register known =>
      simp only [Operation.sessionsAfter, Table.get?_insert] at there
      split at there
      · rename_i its
        cases there
        exact ⟨its, (knows.known session known).mono (List.subset_cons_self ..)⟩
      · exact kept there
  | dropIfDead other =>
    simp only [Operation.sessionsAfter] at there
    split at there
    · exact fewer there
    · exact kept there
  | unregister other => exact fewer there
  | drain => cases there
  | _ => exact kept there

/-- What a thread does with the documents while another acts. -/
theorem Acts.all_grasps (sound : letter.Sound bearings now past)
    (lasting : ∀ moment ∈ now :: past, moment.Precedes now) (count other : Nat) :
    letter.Grasps (next :: now :: past)
      (bearings.turn count thread after child other).Carries
      (bearings.turn count thread after child other).documents := by
  refine Bearings.forall_turn (fun _ bearing => letter.Grasps (next :: now :: past)
    bearing.Carries bearing.documents) ?_ ?_ ?_ other
  · intro other apart
    refine (sound.grasps other).next next (fun holds unheld => ?_) fun _ => id
    obtain ⟨later, performed, same⟩ := acts.performed
    have still := World.hold_stays performed (sound.locked.documents other _ holds) (.inl apart)
    cases unheld _ (by rw [same]; exact still) rfl
  · exact acts.grasps lasting sound.locked (sound.knows thread) (sound.lodged.come thread)
      (sound.grasps thread)
  · rintro new rfl
    rw [acts.turns.blank]
    trivial

/-- The bearings tell where threads stand after an operation of one of them. -/
theorem Sound.act (sound : letter.Sound bearings now past)
    (lasting : ∀ moment ∈ now :: past, moment.Precedes now) (precedes : now.Precedes next)
    (abides : letter.Abides
      (bearings.turn now.system.threads.length thread after child) next) :
    letter.Sound (bearings.turn now.system.threads.length thread after child) next
      (now :: past) := by
  have unborn := sound.abides.unborn _ (Nat.le_refl now.system.threads.length)
  have own := acts.grasps lasting sound.locked (sound.knows thread) (sound.lodged.come thread)
    (sound.grasps thread)
  have watched := acts.watched unborn rfl sound.abides.tasks sound.watched
  refine
    { abides
      locked := acts.locked sound.locked _
      seen := acts.seen sound.locked sound.seen _
      knows := ?_
      grasps := acts.all_grasps sound lasting _
      follows := acts.follows unborn sound.seen (sound.grasps thread) own sound.follows
      watched
      lodged := acts.lodged unborn sound.locked sound.seen (sound.knows thread) precedes
        sound.watched watched sound.lodged
      registered := acts.registered (sound.knows thread) sound.registered }
  refine Bearings.forall_turn (fun _ bearing => letter.Knows (next :: now :: past) bearing) ?_ ?_ ?_
  · exact fun other _ => (sound.knows other).mono (List.subset_cons_self ..)
  · exact acts.knows sound.locked sound.seen
      (fun key session there => (sound.registered key session there).2)
      (sound.lodged.come thread)
      (fun late => hasCome_of_taken (sound.watched.late thread late).1) (sound.knows thread)
      (sound.grasps thread) sound.follows
  · rintro new rfl
    rw [acts.turns.blank]
    exact ⟨nofun, nofun, nofun, nofun⟩

end Acting

end Letter
end LanguageBridge
