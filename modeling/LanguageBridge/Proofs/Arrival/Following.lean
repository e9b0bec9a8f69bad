import LanguageBridge.Proofs.Arrival.Telling
import LanguageBridge.Proofs.Arrival.Threads

/-!
Ledgers follow the program. On every course on which nobody goes away and no document is closed
there is a ledger whose stances the threads obey, until the user is shown a failure.
-/
namespace LanguageBridge

namespace Ledger

variable {host : Host} {setup : Setup} {roots : Roots} {tree : FileTree} {ledger next : Ledger}
  {system later : System} {chronicle after : Chronicle}

/-- What the world answers is what threads may expect. -/
theorem Kept.expects (kept : ledger.Kept roots) {thread : Nat} {operation : Operation}
    {answer : operation.Answer} {world : World}
    (performed : ledger.world.perform host thread operation = some (world, answer)) :
    Expects roots ledger.news (ledger.stances thread) operation answer := by
  have alive (peer : Peer) : ledger.world.isAlive peer = true := by
    simp [World.isAlive, kept.calm.dead]
  cases operation with
  | workspace =>
    intro _ key starting
    have missing := kept.viewed.missing thread key starting
    simp only [World.perform] at performed
    split at performed <;> cases performed
    refine List.filter_eq_nil_iff.mpr fun entry member own => ?_
    obtain ⟨session, there⟩ := kept.viewed.owned entry member
    rw [of_decide_eq_true own, missing] at there
    cases there
  | setQueue changed =>
    intro queue seen
    exact kept.viewed.queue thread queue seen ▸ kept.stored.lined
  | disk =>
    cases performed
    exact kept.calm.rooted
  | session key =>
    cases performed
    exact kept.viewed.keyed key
  | isAlive peer =>
    cases performed
    exact alive peer
  | notify peer method params =>
    simp only [World.perform, World.say, Sent.peer, alive, if_true] at performed
    cases performed
    rfl
  | receive peer =>
    cases peer with
    | editor =>
      cases answer with
      | none =>
        simp only [World.perform, World.receive] at performed
        split at performed
        · cases performed
        · split at performed
          · rename_i silent
            exact absurd (by simpa using silent) kept.calm.silent
          · cases performed
      | some message =>
        have first : message ∈ ledger.world.waiting .editor := by
          simp [World.waiting_of_receive performed]
        obtain ⟨closes, ends⟩ := kept.calm.editor message first
        have arrived := kept.dealt.arrived_of_receive performed
        refine ⟨message, rfl, closes, ends, ?_, fun parcel came => ?_⟩
        · simp only [news, Chronicle.parcelAt, arrived, Option.bind_eq_bind, Option.bind_some]
          cases message.content? <;> rfl
        · obtain ⟨other, there, _, _, kind⟩ := Chronicle.parcelAt_eq_some.mp came
          rw [arrived] at there
          cases there
          exact kind
    | server server =>
      rintro message rfl
      exact kept.calm.servers server message (by simp [World.waiting_of_receive performed])
  | _ => trivial

/-- A ledger tells where a system stands: all its threads obey their stances. -/
structure Tracks (roots : Roots) (ledger : Ledger) (system : System) : Prop where
  world : system.world = ledger.world
  forked : system.world.forked = []
  threads : system.threads.length = ledger.threads
  obeys : ∀ (thread : Nat) (script : Script (Outcome Json)), system.threads[thread]? = some script →
    script.Obeys roots (ledger.stances thread) fun _ last => last.Unbound

/-- What holds of every ledger that may come about, and of what became of texts and servers. -/
structure Sound (tree : FileTree) (ledger : Ledger) : Prop where
  kept : ledger.Kept tree.roots
  lasting : ledger.Lasting tree.roots
  fated : ledger.Fated tree
  told : ledger.Told

theorem Sound.advance (sound : ledger.Sound tree)
    (advances : ledger.Advances host tree.roots next) : next.Sound tree where
  kept := sound.kept.advance advances
  lasting := sound.lasting.advance sound.kept advances
  fated := sound.fated.advance sound.kept sound.lasting advances
  told := sound.told.advance sound.kept advances

/-- The ledger once the program listens to the editor. -/
def begin (tree : FileTree) : Ledger where
  world := { tree, begun := 1 }
  chronicle := {}
  stances := fun thread => if thread = 0 then { editor := true } else {}
  queued := fun _ => []

/-- A thread has done nothing yet: it takes the editor's messages if it is the first. -/
theorem begin_stances (thread : Nat) :
    (begin tree).stances thread = { editor := decide (thread = 0) } := by
  by_cases first : thread = 0 <;> simp [begin, first]

theorem begin_sound : (begin tree).Sound tree where
  kept :=
    { calm :=
        { dead := rfl
          silent := List.not_mem_nil
          rooted := fun _ _ => rfl
          editor := fun _ member => absurd member List.not_mem_nil
          servers := fun _ _ member => absurd member List.not_mem_nil }
      locked :=
        { holds := fun thread lock mode holds => by
            cases lock <;> simp [Stance.Holds, begin_stances, DocumentsHold.mode?] at holds
          apart := fun _ member => absurd member List.not_mem_nil }
      viewed :=
        { documents := fun _ _ view => by simp [begin_stances, DocumentsHold.view?] at view
          queue := fun _ _ seen => by simp [begin_stances] at seen
          missing := fun _ _ starting => by simp [begin_stances] at starting
          used := fun _ _ uses => by
            simp [Stance.Uses, begin_stances, DocumentsHold.session?] at uses
          keyed := fun _ _ there => by cases there
          owned := fun _ member => absurd member List.not_mem_nil }
      dealt := ⟨[], rfl⟩
      counted :=
        { debts := fun _ _ owed => by simp [begin_stances] at owed
          queued := fun _ _ member => absurd member List.not_mem_nil }
      manned :=
        { unborn := fun thread beyond => by
            have later : thread ≠ 0 := Nat.ne_of_gt beyond
            simp [begin_stances, later]
          single := fun first second one two => by
            simp only [begin_stances, decide_eq_true_eq] at one two
            rw [one, two]
          few := fun thread _ => by simp [begin_stances] }
      newest := fun _ _ _ owed => by simp [begin_stances] at owed
      stored :=
        { lined := fun _ => ⟨rfl, fun _ member => absurd member List.not_mem_nil, .nil⟩
          sorted := fun _ => by simp [begin_stances]
          tended := fun _ _ _ owed => by simp [begin_stances] at owed }
      fresh := fun _ _ fresh => by simp [begin_stances] at fresh
      given :=
        { taken := fun thread _ task => by cases thread <;> simp [begin] at task
          former := fun thread _ _ _ task => by cases thread <;> simp [begin] at task
          action := fun thread _ _ task => by cases thread <;> simp [begin] at task
          once := fun thread _ _ task => by cases thread <;> simp [begin] at task }
      tasked :=
        { owed := fun _ _ owed => by simp [begin_stances] at owed
          edits := fun _ edits => by simp [begin_stances] at edits } }
  lasting :=
    { cleared := fun _ cleared => by simp [begin_stances] at cleared
      plain := fun _ cleared => by simp [begin_stances] at cleared
      entered := fun _ member => absurd member List.not_mem_nil
      latest := fun _ => rfl }
  fated := fun _ came => by cases came
  told :=
    { tracked := fun _ _ found => by cases found
      telling := fun _ _ _ _ _ _ _ telling => by simp [begin_stances] at telling
      told := fun _ _ _ _ _ _ told => by simp [begin_stances] at told }

theorem begin_tracks : (begin tree).Tracks tree.roots (listening setup tree) where
  world := rfl
  forked := rfl
  threads := rfl
  obeys := by
    intro thread script here
    cases thread with
    | zero =>
      cases here
      exact Program.scriptOf_obeys { editor := true } (.serveEditor rfl rfl)
    | succ thread => cases here

theorem Tracks.happen (tracks : ledger.Tracks roots system) (happening : Happening) :
    Tracks roots
      { ledger with
        world := ledger.world.after happening
        chronicle := ledger.chronicle.occur happening }
      (system.occur happening) := by
  obtain ⟨world, threads⟩ := system
  obtain ⟨rfl, forked, number, obeys⟩ := tracks
  have same : (ledger.chronicle.occur happening).tasks.length = ledger.threads := by
    rw [tasks_of_happening]
    rfl
  cases happening with
  | answer ticket outcome =>
    simp only [World.after, System.occur]
    split <;> exact ⟨rfl, forked, number.trans same.symm, obeys⟩
  | _ => exact ⟨rfl, forked, number.trans same.symm, obeys⟩

theorem Tracks.finish (tracks : ledger.Tracks roots system) (thread : Nat) : Tracks roots
    { ledger with world := { ledger.world with finished := thread :: ledger.world.finished } }
    { system with world := { system.world with finished := thread :: system.world.finished } } := by
  obtain ⟨world, threads⟩ := system
  obtain ⟨rfl, forked, number, obeys⟩ := tracks
  exact ⟨rfl, forked, number, obeys⟩

/-- Threads go on obeying after a step of one of them, and one that it starts does. -/
theorem Tracks.act (tracks : ledger.Tracks roots system) {thread : Nat} {operation : Operation}
    {answer : operation.Answer} {onward : operation.Answer → Script (Outcome Json)} {world : World}
    {after : Stance} {waiting : Waiting} {started : Option Stance}
    (here : system.threads[thread]? = some (.step operation onward))
    (performed : ledger.world.perform host thread operation = some (world, answer))
    (shift : Shift roots ledger.news (ledger.stances thread) operation answer after waiting
      started)
    (obeys : (onward answer).Obeys roots after fun _ last => last.Unbound) :
    Tracks roots (ledger.acted thread operation world after waiting started)
      (System.startForked (Program.scriptOf setup)
        { world, threads := system.threads.set thread (onward answer) }) := by
  have forked : world.forked = operation.starting := by
    rw [(World.performed performed).forked, ← tracks.world, tracks.forked, List.nil_append]
  have old : (system.threads.set thread (onward answer)).length = ledger.threads := by
    rw [List.length_set, tracks.threads]
  refine ⟨rfl, rfl, ?_, fun other script there => ?_⟩
  · change (_ ++ world.forked.map (Program.scriptOf setup)).length = _
    rw [threads_acted, List.length_append, old, forked, List.length_map]
    cases operation <;> rfl
  · change (system.threads.set thread (onward answer) ++
      world.forked.map (Program.scriptOf setup))[other]? = some script at there
    change script.Obeys roots (ledger.seat thread after started other) _
    by_cases born : other < ledger.threads
    · rw [List.getElem?_append_left (by rw [old]; exact born), List.getElem?_set] at there
      obtain ⟨own, seated⟩ | ⟨apart, seated⟩ | ⟨_, last, _⟩ :=
        @seat_cases ledger thread after started other
      · have within : thread < system.threads.length := (List.getElem?_eq_some_iff.mp here).1
        rw [if_pos own.symm, if_pos within] at there
        cases there
        rw [seated]
        exact obeys
      · rw [if_neg (Ne.symm apart)] at there
        rw [seated]
        exact tracks.obeys other script there
      · exact absurd last (Nat.ne_of_lt born)
    · have number : thread < ledger.threads := by
        rw [← tracks.threads]
        exact (List.getElem?_eq_some_iff.mp here).1
      have beyond : ledger.threads ≤ other := Nat.not_lt.mp born
      rw [List.getElem?_append_right (by rw [old]; exact beyond), old, forked] at there
      cases operation with
      | fork work =>
        have first : other - ledger.threads = 0 := by
          have within := (List.getElem?_eq_some_iff.mp there).1
          simp [Operation.starting] at within
          omega
        obtain rfl : other = ledger.threads := by omega
        rw [first] at there
        cases there
        have apart : ledger.threads ≠ thread := Nat.ne_of_gt number
        cases shift with
        | harmless harmless => exact harmless.elim
        | fork splits =>
          rw [seat, if_neg apart]
          simpa using Program.scriptOf_obeys _ splits
      | _ => cases there

end Ledger

theorem ErrorShown.append {before after : World} {more : List Sent} (shown : ErrorShown before)
    (traffic : after.traffic = before.traffic ++ more) : ErrorShown after := by
  obtain ⟨message, member⟩ := shown
  exact ⟨message, by rw [traffic]; exact List.mem_append_left _ member⟩

/-- How a course stands: the user was shown a failure, a thread cannot but show one, or a ledger
tells of all threads. -/
inductive Standing (tree : FileTree) (system : System) (chronicle : Chronicle) : Prop
  | shown (shown : ErrorShown system.world)
  | failing {thread : Nat} {script : Script (Outcome Json)}
      (there : system.threads[thread]? = some script) (fails : script.Fails)
  | followed {ledger : Ledger} (tracks : ledger.Tracks tree.roots system)
      (same : ledger.chronicle = chronicle) (sound : ledger.Sound tree)

namespace Standing

variable {setup : Setup} {tree : FileTree} {system next : System} {chronicle : Chronicle}

/-- A thread that cannot but show a failure goes on so, or shows it. -/
theorem step_failing {thread failing : Nat} {script : Script (Outcome Json)} {after : Chronicle}
    (there : system.threads[failing]? = some script) (fails : script.Fails)
    (alive : system.world.dead = []) (moved : Program.step setup system thread = some next) :
    Standing tree next after := by
  have within := (List.getElem?_eq_some_iff.mp there).1
  obtain ⟨_, _, rfl⟩ | ⟨operation, onward, world, answer, here, performed, rfl⟩ :=
    Program.step_cases moved
  · exact .failing there fails
  have kept : (system.threads.set thread (onward answer) ++
      world.forked.map (Program.scriptOf setup))[failing]? =
      if thread = failing then some (onward answer) else some script := by
    rw [List.getElem?_append_left (by simpa using within), List.getElem?_set, there]
    split
    · rename_i own
      rw [if_pos (own ▸ within)]
    · rfl
  by_cases own : thread = failing
  · subst own
    rw [there] at here
    cases here
    rw [if_pos rfl] at kept
    rcases fails with shows | ⟨_, rest⟩
    · have traffic := (World.performed performed).traffic
      cases operation with
      | notify peer method params =>
        cases peer with
        | editor =>
          obtain ⟨rfl, message, rfl⟩ := shows
          refine .shown ⟨message, ?_⟩
          change _ ∈ world.traffic
          rw [traffic]
          simp [Operation.saying, World.isAlive, alive]
        | server => exact shows.elim
      | _ => exact shows.elim
    · exact .failing kept (rest answer)
  · rw [if_neg own] at kept
    exact .failing kept fails

theorem step {thread : Nat} (standing : Standing tree system chronicle)
    (alive : system.world.dead = []) (moved : Program.step setup system thread = some next) :
    Standing tree next (chronicle.step thread system next) := by
  cases standing with
  | shown shown =>
    obtain ⟨_, _, rfl⟩ | ⟨operation, onward, world, answer, here, performed, rfl⟩ :=
      Program.step_cases moved
    · exact .shown shown
    · exact .shown (shown.append (World.performed performed).traffic)
  | failing there fails => exact step_failing there fails alive moved
  | @followed ledger tracks same sound =>
    obtain ⟨_, here, rfl⟩ | ⟨operation, onward, world, answer, here, performed, rfl⟩ :=
      Program.step_cases moved
    · have advances : ledger.Advances setup.host tree.roots _ := .finish thread
      refine .followed (tracks.finish thread) ?_ (sound.advance advances)
      rw [same, Chronicle.step, here]
    · rcases tracks.obeys thread _ here with fails | obeys
      · exact step_failing here fails alive moved
      · rw [tracks.world] at performed
        have expected := sound.kept.expects performed
        obtain ⟨after, waiting, started, shift, rest⟩ := obeys answer ledger.news expected
        have born : thread < ledger.threads := by
          rw [← tracks.threads]
          exact (List.getElem?_eq_some_iff.mp here).1
        refine .followed (tracks.act here performed shift rest) ?_
          (sound.advance (.act born performed expected shift))
        rw [Chronicle.step, here, ← same, tracks.world]
        rfl

theorem lead {after : Chronicle} (standing : Standing tree system chronicle)
    (alive : system.world.dead = [])
    (leads : Leads setup (system, chronicle) (next, after)) : Standing tree next after := by
  cases leads with
  | step thread moved => exact standing.step alive moved
  | happen happening mild =>
    have occurs := system.occur_eq happening
    cases standing with
    | shown shown =>
      obtain ⟨message, member⟩ := shown
      have traffic := (World.Undisturbed.happening system.world happening).traffic
      exact .shown ⟨message, by rw [occurs, traffic]; exact member⟩
    | failing there fails => exact .failing (by rw [occurs]; exact there) fails
    | @followed ledger tracks same sound =>
      rw [tracks.world] at mild
      have advances : ledger.Advances setup.host tree.roots _ := .happen mild
      rw [← same]
      exact .followed (tracks.happen happening) rfl (sound.advance advances)

end Standing

/-- Nobody goes away. -/
theorem Leads.alive {setup : Setup} {system next : System} {chronicle after : Chronicle}
    (leads : Leads setup (system, chronicle) (next, after)) :
    next.world.dead = system.world.dead := by
  cases leads with
  | step thread moved =>
    obtain ⟨_, _, rfl⟩ | ⟨operation, onward, world, answer, here, performed, rfl⟩ :=
      Program.step_cases moved
    · rfl
    · exact (World.performed performed).dead
  | happen happening mild =>
    cases happening with
    | answer =>
      simp only [System.occur]
      split <;> rfl
    | disconnect => exact mild.elim
    | _ => rfl

/-- What may have come of the program is told by a ledger, or the user was or will be shown a
failure. -/
theorem Came.standing {setup : Setup} {tree : FileTree} {system : System} {chronicle : Chronicle}
    (came : Came setup tree system chronicle) :
    system.world.dead = [] ∧ Standing tree system chronicle := by
  have stands (state : System × Chronicle)
      (reached : Relation.ReflTransGen (Leads setup) (listening setup tree, {}) state) :
      state.1.world.dead = [] ∧ Standing tree state.1 state.2 := by
    induction reached with
    | refl => exact ⟨rfl, .followed Ledger.begin_tracks rfl Ledger.begin_sound⟩
    | tail _ leads ih => exact ⟨leads.alive.trans ih.1, ih.2.lead ih.1 leads⟩
  exact stands _ came

end LanguageBridge
