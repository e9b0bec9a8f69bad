import LanguageBridge.Proofs.Session.Callers

/-!
What is true of the threads at every moment: who is past the lock of a key's starts holds it, alone,
and what it has found out of the registry still stands, because nobody else registers a session of
that key.
-/
namespace LanguageBridge.Registry

variable {host : Host} {thread other : Nat} {world after : World} {key : SessionKey}

/-- The session of a key after an operation that does not register one for it. -/
theorem get?_sessionsAfter {operation : Operation}
    (spared : ∀ session, operation ≠ .register key session) :
    (operation.sessionsAfter world).get? key = world.sessions.get? key ∨
      (operation.sessionsAfter world).get? key = none := by
  cases operation with
  | register given session =>
    have apart : given ≠ key := by
      rintro rfl
      exact spared session rfl
    simp [Operation.sessionsAfter, apart]
  | dropIfDead given =>
    simp only [Operation.sessionsAfter]
    split
    · by_cases same : given = key <;> simp [same]
    · exact .inl rfl
  | unregister given =>
    by_cases same : given = key <;> simp [Operation.sessionsAfter, same]
  | drain => exact .inr rfl
  | _ => exact .inl rfl

/-- Only the thread that holds a lock lets go of it. -/
theorem mem_heldAfter {operation : Operation} {held : List Hold} {hold : Hold}
    (here : hold ∈ held) (kept : operation ≠ .release hold.lock ∨ hold.thread ≠ thread) :
    hold ∈ operation.heldAfter thread held := by
  cases operation with
  | acquire => exact List.mem_cons_of_mem _ here
  | release lock =>
    refine List.mem_filter.mpr ⟨here, ?_⟩
    rcases kept with other | other
    · have apart : hold.lock ≠ lock := fun same => other (congrArg Operation.release same.symm)
      simp [apart]
    · simp [other]
  | _ => exact here

theorem admits_of_acquire {lock : Lock} {mode : LockMode} {answer : Unit}
    (performed : world.perform host thread (.acquire lock mode) = some (after, answer)) :
    world.admits lock mode = true := by
  simp only [World.perform] at performed
  split at performed
  · assumption
  · cases performed

theorem Outside.sessionsAfter {operation : Operation} (outside : operation.Outside) :
    operation.sessionsAfter world = world.sessions := by
  cases operation <;> first | rfl | exact outside.elim

namespace Look

variable {look later : Look} {answer : (look.move key).operation.Answer}

/-- Looking goes on with a session that is in use, or with one whose server is gone. -/
theorem goes_on
    (performed : world.perform host thread (look.move key).operation = some (after, answer))
    (went : (look.move key).after answer = .inl later) :
    after = world ∧ ((∃ found, later = .check found ∧ world.sessions.get? key = some found) ∨
      ∃ found, look = .check found ∧ later = .drop ∧ world.isAlive found.peer = false) := by
  cases look with
  | read =>
    cases performed
    cases here : world.sessions.get? key with
    | none =>
      simp only [move, here] at went
      cases went
    | some found =>
      simp only [move, here] at went
      cases went
      exact ⟨rfl, .inl ⟨found, rfl, rfl⟩⟩
  | check found =>
    cases performed
    cases alive : world.isAlive found.peer <;> simp only [move, alive] at went <;> cases went
    exact ⟨rfl, .inr ⟨found, rfl, rfl, alive⟩⟩
  | drop => cases went

/-- What is found has a server that is still there. -/
theorem finds {session : Session}
    (performed : world.perform host thread (look.move key).operation = some (after, answer))
    (went : (look.move key).after answer = .inr (some session)) :
    look = .check session ∧ world.isAlive session.peer = true := by
  cases look with
  | read =>
    cases performed
    cases here : world.sessions.get? key <;> simp only [move, here] at went <;> cases went
  | check found =>
    cases performed
    cases alive : world.isAlive found.peer <;> simp only [move, alive] at went <;> cases went
    exact ⟨rfl, alive⟩
  | drop => cases went

/-- When nothing is found, none was in use or the one in use is dropped if its server is gone. -/
theorem misses
    (performed : world.perform host thread (look.move key).operation = some (after, answer))
    (went : (look.move key).after answer = .inr none) :
    after.sessions.get? key = none ∨ (look = .drop ∧
      ∃ session, world.sessions.get? key = some session ∧
        world.isAlive session.peer = true) := by
  cases look with
  | read =>
    cases performed
    cases here : world.sessions.get? key <;> simp only [move, here] at went <;> cases went
    exact .inl rfl
  | check found =>
    cases performed
    cases alive : world.isAlive found.peer <;> simp only [move, alive] at went <;> cases went
  | drop =>
    have sessions := (World.performed performed).sessions
    simp only [move, Operation.sessionsAfter, World.hasDeadSession] at sessions
    cases here : world.sessions.get? key with
    | none => simp [sessions, here]
    | some session =>
      cases alive : world.isAlive session.peer with
      | true => exact .inr ⟨rfl, session, rfl, alive⟩
      | false => simp [sessions, here, alive]

end Look

namespace Stage

/-- Past the lock of the key's starts. -/
def Locked : Stage → Prop
  | .first _ | .enter => False
  | _ => True

/-- What the registry holds for the key, as far as a thread that has the lock has found out. -/
def Expects (key : SessionKey) (world : World) : Stage → Prop
  | .second (.check found) => ∀ session, world.sessions.get? key = some session → session = found
  | .second .drop => ∀ session, world.sessions.get? key = some session →
      world.isAlive session.peer = false
  | .starting _ => world.sessions.get? key = none
  | _ => True

/-- Sessions may be taken out of use and servers may die. -/
theorem Expects.later {stage : Stage} (expects : stage.Expects key world)
    (sessions : after.sessions.get? key = world.sessions.get? key ∨
      after.sessions.get? key = none)
    (dead : ∀ peer, after.isAlive peer = true → world.isAlive peer = true) :
    stage.Expects key after := by
  have found (session : Session) (here : after.sessions.get? key = some session) :
      world.sessions.get? key = some session := by
    rcases sessions with same | none
    · rwa [← same]
    · rw [none] at here
      cases here
  cases stage with
  | second look =>
    cases look with
    | read => trivial
    | check => exact fun session here => expects session (found session here)
    | drop =>
      intro session here
      have gone := expects session (found session here)
      rw [Bool.eq_false_iff] at gone ⊢
      exact fun alive => gone (dead _ alive)
  | starting left =>
    rcases sessions with same | none
    · exact same.trans expects
    · exact none
  | _ => trivial

variable {start : Starter} {stage later : Stage}

/-- The lock is taken once and not let go of while the call goes on. -/
theorem locked_of_move {answer : (stage.move key start).operation.Answer}
    (went : (stage.move key start).after answer = .inl later) (locked : later.Locked) :
    stage = .enter ∨
      (stage.Locked ∧ (stage.move key start).operation ≠ .release (.starting key)) := by
  rcases stage with look | _ | look | ⟨(_ | session) | ⟨operation, next⟩, outside⟩ | session
  · refine absurd locked ?_
    simp only [move] at went
    split at went <;> cases went <;> exact id
  · exact .inl rfl
  · refine .inr ⟨trivial, ?_⟩
    cases look <;> simp [move, Look.move]
  · cases went
  · exact .inr ⟨trivial, by simp [move]⟩
  · refine .inr ⟨trivial, ?_⟩
    rintro rfl
    exact outside.1.elim
  · cases went

/-- What a thread finds out with its own operations is so. -/
theorem expects_of_move {answer : (stage.move key start).operation.Answer}
    (expects : stage.Expects key world)
    (performed : world.perform host thread (stage.move key start).operation = some (after, answer))
    (went : (stage.move key start).after answer = .inl later) : later.Expects key after := by
  rcases stage with look | _ | look | ⟨(_ | session) | ⟨operation, next⟩, outside⟩ | session
  · simp only [move] at went
    split at went <;> cases went <;> trivial
  · cases went
    trivial
  · simp only [move] at went
    split at went
    · rename_i further on
      cases went
      rcases Look.goes_on performed on with ⟨rfl, ⟨found, rfl, here⟩ | ⟨found, rfl, rfl, gone⟩⟩
      · exact fun session there => Option.some.inj (there.symm.trans here)
      · intro session there
        rwa [expects session there]
    · cases went
      trivial
    · rename_i missed
      cases went
      rcases Look.misses performed missed with none | ⟨rfl, session, here, alive⟩
      · exact none
      · have gone := expects session here
        rw [alive] at gone
        cases gone
  · cases went
  · cases went
    trivial
  · cases went
    have sessions := (World.performed performed).sessions
    simp only [move, Outside.sessionsAfter outside.1] at sessions
    simp only [Expects]
    rw [sessions]
    exact expects
  · cases went

end Stage

/-- A session is registered from one place only: where a start has come to it. -/
theorem registers {caller : Caller} {move : Move Caller} (next : caller.move? = some move)
    {session : Session} (registers : move.operation = .register key session) :
    ∃ call left, caller = Call.place call (.starting left) ∧ call.key = key ∧
      left.script = .done (.ok session) := by
  have looks {given : SessionKey} (look : Look) :
      (look.move given).operation ≠ .register key session := by
    cases look <;> simp [Look.move]
  rcases caller with (_ | ⟨operation, outside, _⟩ | _ | _ | _ | _) | ⟨given, look, _⟩ |
    ⟨given, start, stage, onward⟩ <;> cases next
  · obtain rfl : operation = .register key session := registers
    exact outside.elim
  · exact absurd registers (looks .read)
  · exact absurd registers (looks .read)
  · cases registers
  · cases registers
  · exact absurd registers (looks look)
  · rcases stage with look | _ | look | ⟨(_ | made) | ⟨operation, next⟩, outside⟩ | made
    · exact absurd registers (looks look)
    · cases registers
    · exact absurd registers (looks look)
    · cases registers
    · cases registers
      exact ⟨⟨_, start, onward⟩, _, rfl, rfl, rfl⟩
    · obtain rfl : operation = .register key session := registers
      exact outside.1.elim
    · cases registers

/-- A thread that comes to a place in a call was at the place before. -/
theorem stands_before {caller : Caller} {move : Move Caller} {call : Call} {later : Stage}
    {answer : move.operation.Answer} (next : caller.move? = some move)
    (performed : world.perform host thread move.operation = some (after, answer))
    (came : move.after answer = call.place later) :
    ∃ stage answer, call.Stands stage caller ∧
      world.perform host thread (call.move stage).operation = some (after, answer) ∧
      (call.move stage).after answer = .inl later := by
  have obtains {given : SessionKey} {start : Starter} {stage : Stage}
      {onward : Outcome Session → Client}
      {answer : (Caller.obtainOn given start stage onward).operation.Answer}
      (came : (Caller.obtainOn given start stage onward).after answer = call.place later) :
      call = ⟨given, start, onward⟩ ∧ (stage.move given start).after answer = .inl later := by
    simp only [Caller.obtainOn, Call.place] at came
    split at came
    · cases came
      exact ⟨rfl, by assumption⟩
    · cases came
  have looks {given : SessionKey} {look : Look} {onward : Outcome (Option Session) → Client}
      {answer : (Caller.lookOn given look onward).operation.Answer}
      (came : (Caller.lookOn given look onward).after answer = call.place later) : False := by
    simp only [Caller.lookOn, Call.place] at came
    split at came <;> cases came
  rcases caller with (_ | _ | _ | ⟨given, start, onward⟩ | _ | _) | _ |
    ⟨given, start, stage, onward⟩ <;> cases next
  · cases came
  · exact (looks came).elim
  · obtain ⟨rfl, went⟩ := obtains came
    exact ⟨.first .read, answer, .inr ⟨rfl, rfl⟩, performed, went⟩
  · cases came
  · cases came
  · exact (looks came).elim
  · obtain ⟨rfl, went⟩ := obtains came
    exact ⟨stage, answer, .inl rfl, performed, went⟩

/-- What an event makes of the threads and the world. -/
inductive Callers.Advanced (host : Host) (callers : Callers) : Event → Callers → Prop
  | waited (thread : Nat) : Advanced host callers (.act thread) callers
  | acted {thread : Nat} {move : Move Caller} {world : World} {answer : move.operation.Answer}
      (next : (callers.threads thread).move? = some move)
      (performed : callers.world.perform host thread move.operation = some (world, answer)) :
      Advanced host callers (.act thread)
        ⟨world, Function.update callers.threads thread (move.after answer)⟩
  | happened (happening : Happening) :
      Advanced host callers (.happen happening)
        ⟨callers.world.after happening, callers.threads⟩

theorem Callers.advanced (host : Host) (callers : Callers) (event : Event) :
    Callers.Advanced host callers event (callers.advance host event) := by
  cases event with
  | happen happening => exact .happened happening
  | act thread =>
    simp only [advance, step]
    cases next : (callers.threads thread).move? with
    | none => exact .waited thread
    | some move =>
      cases performed : callers.world.perform host thread move.operation with
      | none => simpa [performed] using Advanced.waited thread
      | some result => simpa [performed] using Advanced.acted next performed

/-- The lock of a key's starts as a thread holds it. -/
def startHold (key : SessionKey) (thread : Nat) : Hold := ⟨.starting key, .exclusive, thread⟩

/-- Who is past the lock of a key's starts holds it, no other thread does, and what it knows of the
registry is so. -/
structure Callers.Sound (callers : Callers) : Prop where
  holds : ∀ thread call stage, callers.threads thread = Call.place call stage → stage.Locked →
    startHold call.key thread ∈ callers.world.held
  alone : ∀ thread other call call' stage stage', callers.threads thread = Call.place call stage →
    callers.threads other = Call.place call' stage' → stage.Locked → stage'.Locked →
    call.key = call'.key → thread = other
  expects : ∀ thread call stage, callers.threads thread = Call.place call stage →
    stage.Expects call.key callers.world

namespace Callers.Sound

variable {callers next : Callers} {event : Event}

theorem ready (world : World) (clients : Nat → Client) : (Callers.ready world clients).Sound where
  holds _ _ _ here := by cases here
  alone _ _ _ _ _ _ here := by cases here
  expects _ _ _ here := by cases here

theorem happened (sound : callers.Sound) (happening : Happening) :
    Sound ⟨callers.world.after happening, callers.threads⟩ := by
  have drift := World.Undisturbed.happening callers.world happening
  refine ⟨fun thread call stage here locked => ?_, sound.alone, fun thread call stage here => ?_⟩
  · rw [World.after_held]
    exact sound.holds thread call stage here locked
  · exact (sound.expects thread call stage here).later (.inl (by rw [drift.sessions])) drift.dead

section Acted

variable {move : Move Caller} {answer : move.operation.Answer} {stage : Stage} {call : Call}

/-- Nobody but its holder lets go of a lock. -/
theorem holds_acted (sound : callers.Sound) (next : (callers.threads thread).move? = some move)
    (performed : callers.world.perform host thread move.operation = some (after, answer))
    (here : Function.update callers.threads thread (move.after answer) other = call.place stage)
    (locked : stage.Locked) : startHold call.key other ∈ after.held := by
  rw [(World.performed performed).held]
  by_cases same : other = thread
  · subst same
    rw [Function.update_self] at here
    obtain ⟨former, given, stands, does, went⟩ := stands_before next performed here
    rw [← (World.performed performed).held, (World.performed does).held]
    rcases Stage.locked_of_move went locked with rfl | ⟨before, keeps⟩
    · exact List.mem_cons_self
    · rcases stands with there | ⟨rfl, _⟩
      · exact mem_heldAfter (sound.holds _ _ _ there before) (.inl keeps)
      · exact before.elim
  · rw [Function.update_of_ne same] at here
    exact mem_heldAfter (sound.holds _ _ _ here locked) (.inr same)

/-- Who acts does not come past a lock that another thread holds. -/
theorem apart_acted (sound : callers.Sound) (next : (callers.threads thread).move? = some move)
    (performed : callers.world.perform host thread move.operation = some (after, answer))
    (here : move.after answer = call.place stage) (locked : stage.Locked) {call' : Call}
    {stage' : Stage} (there : callers.threads other = call'.place stage') (locked' : stage'.Locked)
    (key : call.key = call'.key) : thread = other := by
  obtain ⟨former, given, stands, does, went⟩ := stands_before next performed here
  rcases Stage.locked_of_move went locked with rfl | ⟨before, _⟩
  · have free := admits_of_acquire does
    have held := sound.holds _ _ _ there locked'
    rw [← key] at held
    have admitted := List.all_eq_true.mp free _ held
    simp [startHold] at admitted
  · rcases stands with mine | ⟨rfl, _⟩
    · exact sound.alone _ _ _ _ _ _ mine there before locked' key
    · exact before.elim

theorem alone_acted (sound : callers.Sound) (next : (callers.threads thread).move? = some move)
    (performed : callers.world.perform host thread move.operation = some (after, answer))
    {first second : Nat} {call' : Call} {stage' : Stage}
    (here : Function.update callers.threads thread (move.after answer) first = call.place stage)
    (there : Function.update callers.threads thread (move.after answer) second =
      call'.place stage')
    (locked : stage.Locked) (locked' : stage'.Locked) (key : call.key = call'.key) :
    first = second := by
  by_cases mine : first = thread <;> by_cases yours : second = thread
  · exact mine.trans yours.symm
  · subst mine
    rw [Function.update_self] at here
    rw [Function.update_of_ne yours] at there
    exact apart_acted sound next performed here locked there locked' key
  · subst yours
    rw [Function.update_of_ne mine] at here
    rw [Function.update_self] at there
    exact (apart_acted sound next performed there locked' here locked key.symm).symm
  · rw [Function.update_of_ne mine] at here
    rw [Function.update_of_ne yours] at there
    exact sound.alone _ _ _ _ _ _ here there locked locked' key

/-- Only the thread past the lock registers a session of the key, so what another one knows
stands. -/
theorem expects_acted (sound : callers.Sound) (next : (callers.threads thread).move? = some move)
    (performed : callers.world.perform host thread move.operation = some (after, answer))
    (here : Function.update callers.threads thread (move.after answer) other = call.place stage) :
    stage.Expects call.key after := by
  by_cases same : other = thread
  · subst same
    rw [Function.update_self] at here
    obtain ⟨former, given, stands, does, went⟩ := stands_before next performed here
    refine Stage.expects_of_move ?_ does went
    rcases stands with there | ⟨rfl, _⟩
    · exact sound.expects _ _ _ there
    · trivial
  · rw [Function.update_of_ne same] at here
    by_cases locked : stage.Locked
    · have dead (peer : Peer) (alive : after.isAlive peer = true) :
          callers.world.isAlive peer = true := by
        rwa [World.isAlive, (World.performed performed).dead] at alive
      refine (sound.expects _ _ _ here).later ?_ dead
      rw [(World.performed performed).sessions]
      refine get?_sessionsAfter fun session registering => same ?_
      obtain ⟨call', left, there, key, _⟩ := registers next registering
      exact (sound.alone _ _ _ _ _ _ there here trivial locked key).symm
    · cases stage <;> first | trivial | exact (locked trivial).elim

end Acted

/-- Whatever happens, all stays so. -/
theorem advance (sound : callers.Sound) (host : Host) (event : Event) :
    (callers.advance host event).Sound := by
  have advanced := callers.advanced host event
  generalize callers.advance host event = later at advanced
  cases advanced with
  | waited => exact sound
  | happened happening => exact sound.happened happening
  | acted next performed =>
    exact ⟨fun _ _ _ here locked => holds_acted sound next performed here locked,
      fun _ _ _ _ _ _ here there locked locked' key =>
        alone_acted sound next performed here there locked locked' key,
      fun _ _ _ here => expects_acted sound next performed here⟩

theorem moment {start : Callers} (sound : start.Sound) (host : Host) (events : Nat → Event)
    (count : Nat) : (start.moment host events count).Sound := by
  induction count with
  | zero => exact sound
  | succ count ih => exact ih.advance host (events count)

end Callers.Sound

end LanguageBridge.Registry
