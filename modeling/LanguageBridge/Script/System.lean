import LanguageBridge.Script.World

/-!
Threads and the world they share. At every moment any thread that need not wait may take its next
step, and the surroundings may act: peers answer, send or go away, and files change.
-/
namespace LanguageBridge

/-- The threads, by number, and the world. -/
structure System where
  world : World := {}
  threads : List (Script (Outcome Json)) := []

/-- What the surroundings do. -/
inductive Happening
  | answer (ticket : Nat) (outcome : Outcome Json)
  | deliver (peer : Peer) (message : Message)
  | endInput (peer : Peer)
  | disconnect (peer : Peer)
  | change (tree : FileTree)

namespace System

instance : Inhabited System := ⟨{}⟩

/-- Starts a thread and gives its number. -/
def start (system : System) (script : Script (Outcome Json)) : System × Nat :=
  ({ world := { system.world with begun := system.world.begun + 1 }
     threads := system.threads ++ [script] },
    system.threads.length)

/-- Starts the threads that a step has forked. -/
def startForked (program : Work → Script (Outcome Json)) (system : System) : System where
  world := { system.world with forked := [] }
  threads := system.threads ++ system.world.forked.map program

/-- Lets a thread take its next step; `none` when it has to wait or has finished. A thread that has
come to its end takes one more step, which makes it known. -/
def step (host : Host) (program : Work → Script (Outcome Json)) (system : System) (thread : Nat) :
    Option System :=
  match system.threads[thread]? with
  | none => none
  | some (.done _) =>
    if system.world.finished.contains thread then none
    else
      let finished := thread :: system.world.finished
      some { system with world := { system.world with finished } }
  | some (.step operation next) =>
    match system.world.perform host thread operation with
    | none => none
    | some (world, answer) =>
      some (startForked program { world, threads := system.threads.set thread (next answer) })

/-- What the surroundings do. -/
def occur (system : System) (happening : Happening) : System :=
  let world := system.world
  match happening with
  | .answer ticket outcome =>
    if world.answers.contains ticket then system
    else { system with world := { world with answers := world.answers.insert ticket outcome } }
  | .deliver peer message =>
    let waiting := (world.inbox.get? peer).getD []
    { system with world := { world with inbox := world.inbox.insert peer (waiting ++ [message]) } }
  | .endInput peer => { system with world := { world with silent := peer :: world.silent } }
  | .disconnect peer => { system with world := { world with dead := peer :: world.dead } }
  | .change tree => { system with world := { world with tree } }

/-- The outcome of a thread that has finished. -/
def outcome? (system : System) (thread : Nat) : Option (Outcome Json) :=
  match system.threads[thread]? with
  | some (.done outcome) => some outcome
  | _ => none

end System

end LanguageBridge
