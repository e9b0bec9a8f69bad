import Mathlib.Logic.Relation
import LanguageBridge.Program

/-!
The courses that the program may take: its threads take steps in any order, and the surroundings do
what they are allowed to in between.
-/
namespace LanguageBridge

/-- A thread takes a step, or the surroundings do something that they are allowed to. -/
inductive Advance (setup : Setup) (allowed : Happening → Prop) (system : System) : System → Prop
  | step {thread : Nat} {next : System} (moved : Program.step setup system thread = some next) :
      Advance setup allowed system next
  | happen (happening : Happening) (fits : allowed happening) :
      Advance setup allowed system (system.occur happening)

/-- The systems that may come of another. -/
abbrev Course (setup : Setup) (allowed : Happening → Prop) : System → System → Prop :=
  Relation.ReflTransGen (Advance setup allowed)

/-- The program once it listens to the editor. -/
def listening (setup : Setup) (tree : FileTree) : System :=
  (({ world := { tree } } : System).start (Program.scriptOf setup .serveEditor)).1

variable {setup : Setup} {allowed : Happening → Prop} {start system : System}

/-- A thread that has come to its end makes it known, or it carries out an operation and goes on
with the answer, while the threads that were forked start. -/
theorem Program.step_cases {next : System} {thread : Nat}
    (moved : Program.step setup system thread = some next) :
    (∃ outcome, system.threads[thread]? = some (.done outcome) ∧
      next = { system with
        world := { system.world with finished := thread :: system.world.finished } }) ∨
    ∃ (operation : Operation) (onward : operation.Answer → Script (Outcome Json)) (world : World)
      (answer : operation.Answer),
      system.threads[thread]? = some (.step operation onward) ∧
      system.world.perform setup.host thread operation = some (world, answer) ∧
      next = System.startForked (Program.scriptOf setup)
        { world, threads := system.threads.set thread (onward answer) } := by
  unfold Program.step System.step at moved
  split at moved
  · cases moved
  · rename_i outcome here
    split at moved <;> cases moved
    exact .inl ⟨outcome, here, rfl⟩
  · rename_i operation onward here
    split at moved
    · cases moved
    · rename_i world answer performed
      cases moved
      exact .inr ⟨operation, onward, world, answer, here, performed, rfl⟩

theorem Course.happen (course : Course setup allowed start system) (happening : Happening)
    (fits : allowed happening) : Course setup allowed start (system.occur happening) :=
  course.tail (.happen happening fits)

/-- Letting threads take steps is a course. -/
theorem Course.settle (course : Course setup allowed start system) (steps : Nat) :
    Course setup allowed start (Program.settleWithin setup steps system) := by
  induction steps generalizing system with
  | zero => exact course
  | succ steps ih =>
    unfold Program.settleWithin
    split
    · rename_i next found
      obtain ⟨thread, _, moved⟩ := List.exists_of_findSome?_eq_some found
      exact ih (course.tail (.step moved))
    · exact course

end LanguageBridge
