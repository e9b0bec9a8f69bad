import LanguageBridge.Proofs.Session.Sound

/-!
Whoever uses the sessions in common, and whichever servers die: sessions of a key are started one at
a time and only when none is in use, none in use is replaced, and whoever is given a session is given
one that was in use, or that its own start came to.
-/
namespace LanguageBridge.Registry

variable {host : Host} {events : Nat → Event}

/-- A thread is in a call, or about to begin with it. -/
def Call.Within (call : Call) (caller : Caller) : Prop := ∃ stage, call.Stands stage caller

/-- A thread is in one call from a moment to another. -/
structure During (moment : Nat → Callers) (first last thread : Nat) (call : Call) : Prop where
  le : first ≤ last
  within : ∀ count, first ≤ count → count ≤ last → call.Within ((moment count).threads thread)

namespace Callers

/-- The next step of a thread ends its call with an outcome. -/
def Returns (host : Host) (callers : Callers) (thread : Nat) (call : Call)
    (outcome : Outcome Session) : Prop :=
  ∃ stage world answer, callers.threads thread = call.place stage ∧
    callers.world.perform host thread (call.move stage).operation = some (world, answer) ∧
    (call.move stage).after answer = .inr outcome

/-- The session of a key is in use and its server there. -/
def Uses (callers : Callers) (key : SessionKey) (session : Session) : Prop :=
  callers.world.sessions.get? key = some session ∧ callers.world.isAlive session.peer = true

/-- A start of a thread's call is under way; this is left of it. -/
def Starts (callers : Callers) (thread : Nat) (call : Call) (left : Starter) : Prop :=
  callers.threads thread = call.place (.starting left)

end Callers

/-- A thread registers the session that the start of its call has come to. -/
structure Stores (moment : Nat → Callers) (events : Nat → Event) (count thread : Nat) (call : Call)
    (session : Session) : Prop where
  acts : events count = .act thread
  made : ∃ left, (moment count).Starts thread call left ∧ left.script = .done (.ok session)

/-- What the registry promises to all who use it at once. -/
structure Orderly (host : Host) (events : Nat → Event) (moment : Nat → Callers) : Prop where
  /-- Of one key, no two starts are under way at a time. -/
  alone : ∀ count thread other call call' left left', (moment count).Starts thread call left →
    (moment count).Starts other call' left' → call.key = call'.key → thread = other
  /-- A start is under way only while no session of its key is in use. -/
  vacant : ∀ count thread call left, (moment count).Starts thread call left →
    (moment count).world.sessions.get? call.key = none
  /-- A session that is registered takes the place of none. -/
  stored : ∀ count thread call session, Stores moment events count thread call session →
    (moment count).world.sessions.get? call.key = none ∧
    (moment (count + 1)).world.sessions =
      (moment count).world.sessions.insert call.key session
  /-- A session that a call gives was, at some moment of the call, in use and its server there, or
  was registered by the call itself. -/
  given : ∀ last thread call session, (moment last).Returns host thread call (.ok session) →
    ∃ first, During moment first last thread call ∧
      ((moment first).Uses call.key session ∨ Stores moment events first thread call session)
  /-- A call fails only when its start does, and from the beginning of the start to the end of the
  call it does not change which sessions are in use. -/
  failed : ∀ last thread call failure, (moment last).Returns host thread call (.error failure) →
    (∃ left, (moment last).Starts thread call left ∧ left.script = .done (.error failure)) ∧
    ∃ first, first ≤ last ∧ (moment first).Starts thread call call.start ∧
      ∀ count, first ≤ count → count ≤ last →
        (∃ left, (moment count).Starts thread call left) ∧
        (events count = .act thread →
          (moment (count + 1)).world.sessions = (moment count).world.sessions)

namespace Callers

variable {callers start : Callers} {thread : Nat} {call : Call} {left : Starter}

/-- A step of a start changes nothing in the registry, unless it registers what the start came
to. -/
theorem Starts.act (starts : callers.Starts thread call left) (host : Host) :
    (callers.advance host (.act thread)).world.sessions = callers.world.sessions ∨
      ∃ session, left.script = .done (.ok session) ∧
        (callers.advance host (.act thread)).world.sessions =
          callers.world.sessions.insert call.key session ∧
        (callers.advance host (.act thread)).threads thread = call.place (.leave session) := by
  have advanced := callers.advanced host (.act thread)
  generalize callers.advance host (.act thread) = later at advanced ⊢
  cases advanced with
  | waited => exact .inl rfl
  | acted next performed =>
    rw [starts] at next
    rcases left with ⟨(_ | session) | ⟨operation, onward⟩, outside⟩
    · cases next
      exact .inl (World.performed performed).sessions
    · cases next
      exact .inr ⟨session, rfl, (World.performed performed).sessions, Function.update_self ..⟩
    · cases next
      exact .inl ((World.performed performed).sessions.trans (Outside.sessionsAfter outside.1))

/-- What a start has come to is registered at once. -/
theorem Starts.register (starts : callers.Starts thread call left) {session : Session}
    (made : left.script = .done (.ok session)) (host : Host) :
    (callers.advance host (.act thread)).world.sessions =
      callers.world.sessions.insert call.key session := by
  obtain ⟨script, outside⟩ := left
  obtain rfl : script = .done (.ok session) := made
  have next : (callers.threads thread).move? =
      some ⟨.register call.key session, fun _ => call.place (.leave session)⟩ := by
    rw [starts]
    rfl
  simp [advance, step, next, World.perform]

theorem alive_before {first last : Nat} (le : first ≤ last) {peer : Peer}
    (alive : (start.moment host events last).world.isAlive peer = true) :
    (start.moment host events first).world.isAlive peer = true := by
  induction le with
  | refl => exact alive
  | step _ ih =>
    refine ih ?_
    rename_i last _
    simp only [moment] at alive
    have advanced := (start.moment host events last).advanced host (events last)
    generalize (start.moment host events last).advance host (events last) = later at advanced alive
    generalize events last = event at advanced
    cases advanced with
    | waited => exact alive
    | happened happening =>
      exact (World.Undisturbed.happening _ happening).dead peer alive
    | acted _ performed => rwa [World.isAlive, (World.performed performed).dead] at alive

end Callers

section Back

variable {moment : Nat → Callers} {first last thread : Nat} {call : Call} {stage : Stage}

theorem During.refl (within : call.Within ((moment last).threads thread)) :
    During moment last last thread call where
  le := Nat.le_refl last
  within _ low high := Nat.le_antisymm low high ▸ within

theorem During.next (during : During moment first last thread call)
    (within : call.Within ((moment (last + 1)).threads thread)) :
    During moment first (last + 1) thread call where
  le := Nat.le_succ_of_le during.le
  within count low high := by
    rcases Nat.lt_or_eq_of_le high with before | rfl
    · exact during.within count low (Nat.le_of_lt_succ before)
    · exact within

/-- What a place in a call goes back to: the session that is being checked was in use, the one on
the way out was in use and its server there or registered by the call, and a start that goes on has
gone on since its beginning. -/
def Back (moment : Nat → Callers) (events : Nat → Event) (last thread : Nat) (call : Call) :
    Stage → Prop
  | .first (.check found) | .second (.check found) =>
    ∃ first, During moment first last thread call ∧
      (moment first).world.sessions.get? call.key = some found
  | .starting _ =>
    ∃ first, first ≤ last ∧ (moment first).Starts thread call call.start ∧
      ∀ count, first ≤ count → count ≤ last → ∃ left, (moment count).Starts thread call left
  | .leave session =>
    ∃ first, During moment first last thread call ∧
      ((moment first).Uses call.key session ∨ Stores moment events first thread call session)
  | _ => True

/-- A place that is kept goes back to what it went back to. -/
theorem Back.next (back : Back moment events last thread call stage)
    (here : (moment (last + 1)).threads thread = call.place stage) :
    Back moment events (last + 1) thread call stage := by
  have within : call.Within ((moment (last + 1)).threads thread) := ⟨stage, .inl here⟩
  rcases stage with (_ | found | _) | _ | (_ | found | _) | left | session
  · trivial
  · obtain ⟨first, during, there⟩ := back
    exact ⟨first, during.next within, there⟩
  · trivial
  · trivial
  · trivial
  · obtain ⟨first, during, there⟩ := back
    exact ⟨first, during.next within, there⟩
  · trivial
  · obtain ⟨first, le, begun, goes⟩ := back
    refine ⟨first, Nat.le_succ_of_le le, begun, fun count low high => ?_⟩
    rcases Nat.lt_or_eq_of_le high with before | rfl
    · exact goes count low (Nat.le_of_lt_succ before)
    · exact ⟨left, here⟩
  · obtain ⟨first, during, there⟩ := back
    exact ⟨first, during.next within, there⟩

end Back

section Course

variable {start : Callers} {last thread : Nat} {call : Call}

/-- What a thread comes to by its own step, it comes to from where it was. -/
theorem Back.acted {stage later : Stage} {after : World}
    {answer : (call.move stage).operation.Answer}
    (back : Back (start.moment host events) events last thread call stage)
    (stands : call.Stands stage ((start.moment host events last).threads thread))
    (acts : events last = .act thread)
    (here : (start.moment host events (last + 1)).threads thread = call.place later)
    (performed : (start.moment host events last).world.perform host thread
      (call.move stage).operation = some (after, answer))
    (went : (call.move stage).after answer = .inl later) :
    Back (start.moment host events) events (last + 1) thread call later := by
  have within : call.Within ((start.moment host events (last + 1)).threads thread) :=
    ⟨later, .inl here⟩
  have since : During (start.moment host events) last (last + 1) thread call :=
    (During.refl ⟨stage, stands⟩).next within
  rcases stage with look | _ | look | ⟨(_ | session) | ⟨operation, next⟩, outside⟩ | session
  · simp only [Call.move, Stage.move] at went
    split at went
    · rename_i further on
      cases went
      rcases Look.goes_on performed on with ⟨_, ⟨found, rfl, used⟩ | ⟨_, _, rfl, _⟩⟩
      · exact ⟨last, since, used⟩
      · trivial
    · cases went
    · cases went
      trivial
  · cases went
    trivial
  · simp only [Call.move, Stage.move] at went
    split at went
    · rename_i further on
      cases went
      rcases Look.goes_on performed on with ⟨_, ⟨found, rfl, used⟩ | ⟨_, _, rfl, _⟩⟩
      · exact ⟨last, since, used⟩
      · trivial
    · rename_i found
      cases went
      obtain ⟨rfl, alive⟩ := Look.finds performed found
      obtain ⟨first, during, there⟩ := back
      exact ⟨first, during.next within, .inl ⟨there, Callers.alive_before during.le alive⟩⟩
    · cases went
      exact ⟨last + 1, Nat.le_refl _, here, fun count low high =>
        Nat.le_antisymm low high ▸ ⟨call.start, here⟩⟩
  · cases went
  · cases went
    rcases stands with there | ⟨impossible, _⟩
    · exact ⟨last, since, .inr ⟨acts, _, there, rfl⟩⟩
    · cases impossible
  · cases went
    have kept : Back (start.moment host events) events last thread call
        (.starting ⟨next answer, outside.2 answer⟩) := back
    exact kept.next here
  · cases went

/-- Every place in a call goes back to what it stands for. -/
theorem back (host : Host) (world : World) (clients : Nat → Client) (events : Nat → Event)
    (last thread : Nat) (call : Call) (stage : Stage)
    (here : ((Callers.ready world clients).moment host events last).threads thread =
      call.place stage) :
    Back ((Callers.ready world clients).moment host events) events last thread call stage := by
  induction last generalizing stage with
  | zero => cases here
  | succ last ih =>
    have advanced := ((Callers.ready world clients).moment host events last).advanced host
      (events last)
    have same := here
    simp only [Callers.moment] at same
    generalize ((Callers.ready world clients).moment host events last).advance host (events last) =
      later at advanced same
    generalize happens : events last = event at advanced
    cases advanced with
    | waited => exact (ih stage same).next here
    | happened => exact (ih stage same).next here
    | @acted actor move after answer next performed =>
      by_cases own : thread = actor
      · subst own
        simp only [Function.update_self] at same
        obtain ⟨former, given, stands, does, went⟩ := stands_before next performed same
        refine Back.acted ?_ stands happens here does went
        rcases stands with there | ⟨rfl, _⟩
        · exact ih former there
        · trivial
      · simp only [Function.update_of_ne own] at same
        exact (ih stage same).next here

variable (host : Host) (world : World) (clients : Nat → Client) (events : Nat → Event)

end Course

end LanguageBridge.Registry
