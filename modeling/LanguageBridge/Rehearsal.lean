import LanguageBridge.Program

/-!
Running the program against peers that keep to a script of answers. Calls are answered from what was
laid out for them, some are held until they are released, and peers can be made to go away at their
next message. Between two moves of the surroundings every thread runs until it has to wait.
-/
namespace LanguageBridge

/-- The peers that share their answers. -/
inductive PeerGroup
  | editor
  | servers (language : String)
  deriving DecidableEq, Repr

/-- The group of a peer. -/
def Peer.group : Peer → PeerGroup
  | .editor => .editor
  | .server id => .servers id.language

/-- What is sent to a group: a method, or a reply when there is none. -/
structure Cue where
  group : PeerGroup
  method : Option String
  deriving DecidableEq, Repr

/-- A program among peers that keep to a script. `held` calls wait under their tickets. -/
structure Rehearsal where
  setup : Setup := {}
  system : System := {}
  queued : List (Cue × Outcome Json) := []
  permanent : Table Cue (Outcome Json) := ∅
  holds : List Cue := []
  held : List (Cue × Nat) := []
  fatal : List Cue := []

namespace Rehearsal

/-- Answers for the next calls of a kind, in order. -/
def layOut (rehearsal : Rehearsal) (cue : Cue) (outcome : Outcome Json) : Rehearsal :=
  { rehearsal with queued := rehearsal.queued ++ [(cue, outcome)] }

/-- An answer for all calls of a kind that have no other. -/
def layOutAlways (rehearsal : Rehearsal) (cue : Cue) (outcome : Outcome Json) : Rehearsal :=
  { rehearsal with permanent := rehearsal.permanent.insert cue outcome }

/-- The first answer laid out for a kind of call, and the others. -/
def takeQueued (cue : Cue) :
    List (Cue × Outcome Json) → Option (Outcome Json × List (Cue × Outcome Json))
  | [] => none
  | (other, outcome) :: rest =>
    if other = cue then some (outcome, rest)
    else (takeQueued cue rest).map fun (found, others) => (found, (other, outcome) :: others)

/-- Answers a call. -/
def answer (rehearsal : Rehearsal) (cue : Cue) (ticket : Nat) : Rehearsal :=
  match takeQueued cue rehearsal.queued with
  | some (outcome, queued) =>
    { rehearsal with queued, system := rehearsal.system.occur (.answer ticket outcome) }
  | none =>
    let outcome := (rehearsal.permanent.get? cue).getD (.ok .null)
    { rehearsal with system := rehearsal.system.occur (.answer ticket outcome) }

/-- Answers a call that was just made, unless one of its kind is to be held. -/
def respond (rehearsal : Rehearsal) (cue : Cue) (ticket : Nat) : Rehearsal :=
  if rehearsal.holds.contains cue then
    { rehearsal with
      holds := rehearsal.holds.erase cue, held := rehearsal.held ++ [(cue, ticket)] }
  else rehearsal.answer cue ticket

/-- Lets go of the calls of a kind that are held, and of those that were to be. -/
def release (rehearsal : Rehearsal) (cue : Cue) : Rehearsal :=
  let (released, held) := rehearsal.held.partition fun entry => entry.1 = cue
  released.foldl (fun rehearsal entry => rehearsal.answer entry.1 entry.2)
    { rehearsal with held, holds := rehearsal.holds.filter (· ≠ cue) }

/-- The peer that an operation sends something to, and what. -/
def sending? : Operation → Option (Peer × Cue)
  | .call peer method _ => some (peer, ⟨peer.group, some method⟩)
  | .notify peer method _ => some (peer, ⟨peer.group, some method⟩)
  | .reply peer _ _ => some (peer, ⟨peer.group, none⟩)
  | _ => none

/-- What a thread is about to send. -/
def aboutToSend? (rehearsal : Rehearsal) (thread : Nat) : Option (Peer × Cue) :=
  match rehearsal.system.threads[thread]? with
  | some (.step operation _) => sending? operation
  | _ => none

/-- Makes the peer go away that is about to get a message that is to be its end. -/
def foreclose (rehearsal : Rehearsal) (thread : Nat) : Rehearsal :=
  match rehearsal.aboutToSend? thread with
  | some (peer, cue) =>
    if rehearsal.fatal.contains cue && rehearsal.system.world.isAlive peer then
      { rehearsal with
        fatal := rehearsal.fatal.erase cue
        system := rehearsal.system.occur (.disconnect peer) }
    else rehearsal
  | none => rehearsal

/-- One step of a thread, with the answer to a call that it makes. -/
def stepThread (rehearsal : Rehearsal) (thread : Nat) : Option Rehearsal :=
  let rehearsal := rehearsal.foreclose thread
  let ticket := rehearsal.system.world.tickets
  match Program.step rehearsal.setup rehearsal.system thread with
  | none => none
  | some system =>
    let moved := { rehearsal with system }
    if system.world.tickets = ticket then some moved
    else
      match rehearsal.aboutToSend? thread with
      | some (_, cue) => some (moved.respond cue ticket)
      | none => some moved

/-- Lets threads take steps, always the first that can, until none can or the steps are used up. -/
def settleWithin : Nat → Rehearsal → Rehearsal
  | 0, rehearsal => rehearsal
  | steps + 1, rehearsal =>
    match (List.range rehearsal.system.threads.length).findSome? rehearsal.stepThread with
    | some next => settleWithin steps next
    | none => rehearsal

/-- Lets threads take steps until all have to wait. -/
def settle (rehearsal : Rehearsal) : Rehearsal := settleWithin Program.stepLimit rehearsal

/-- Something happens, and the threads run on. -/
def occur (rehearsal : Rehearsal) (happening : Happening) : Rehearsal :=
  { rehearsal with system := rehearsal.system.occur happening }

/-- Starts a thread. -/
def start (rehearsal : Rehearsal) (script : Script (Outcome Json)) : Rehearsal × Nat :=
  let (system, thread) := rehearsal.system.start script
  ({ rehearsal with system }, thread)

/-- Has a job done and gives its outcome, unless it waits for something that does not come. -/
def perform (rehearsal : Rehearsal) (job : Job Json) : Rehearsal × Option (Outcome Json) :=
  let (rehearsal, thread) := rehearsal.start job.run
  let rehearsal := rehearsal.settle
  (rehearsal, rehearsal.system.outcome? thread)

/-- A session of a server that runs somewhere else. -/
def standIn (key : SessionKey) : Job Session := do
  let server ← Job.ask (.connect key.language)
  return { key, server }

end Rehearsal

end LanguageBridge
