import LanguageBridge.Proofs.Arrival.Chronicle
import LanguageBridge.Proofs.Document.Upkeep
import LanguageBridge.Proofs.Handover.Acting

/-!
Content of the editor's events is handed over in the order in which it came: whoever sends it keeps
the queue meanwhile, and only one thread at a time is given content.
-/
namespace LanguageBridge.Narration

variable {setup : Setup} {tree : FileTree} {key : SessionKey} {now : Narration}

/-- Nobody keeps the queue or waits for it. -/
structure QueueAtRest (now : Narration) : Prop where
  free : ∀ hold ∈ now.world.held, hold.lock ≠ .queue
  awaited : ∀ (thread : Nat) (mode : LockMode) (next : Unit → Annotated (Outcome Json)),
    now.threads[thread]? ≠ some (.step (.acquire .queue mode) next)

/-- Threads that have finished or wait for messages let the queue rest. -/
theorem QueueAtRest.of_rests (free : now.world.held = [])
    (rests : (now.threads.all fun script => script.erase.rests) = true) : now.QueueAtRest where
  free := fun hold member => by rw [free] at member; cases member
  awaited := fun thread mode next there => by
    have resting := List.all_eq_true.mp rests _ (List.mem_of_getElem? there)
    cases resting

/-- What becomes of the content that is given for a session. Nothing is handed over twice or out of
order, and what is queued came after all that was handed over. When the queue is at rest, all
content is handed over, dropped or queued; and whoever dropped some had seen a start fail. -/
structure InOrder (key : SessionKey) (now : Narration) : Prop where
  handed : (now.handed key).Sublist (now.given key)
  queued : (now.handed key ++ now.queued key).Sublist (now.given key)
  settled : now.QueueAtRest → ∃ settled : List (BufferContent × Fate),
    now.given key = settled.map Prod.fst ++ now.queued key ∧
    now.handed key = ofFate .handed settled ∧ now.dropped key = ofFate .dropped settled
  blamed : ∀ before thread contents after,
    now.said = before ++ (thread, .dropped key contents) :: after → (thread, .failed key) ∈ before

theorem ofFate_sublist (fate : Fate) (settled : List (BufferContent × Fate)) :
    (ofFate fate settled).Sublist (settled.map Prod.fst) :=
  List.filter_sublist.map Prod.fst

theorem Accounts.sublist {taken owed : List BufferContent}
    (accounts : now.Accounts key taken owed) :
    (now.handed key ++ now.queued key).Sublist (now.given key) := by
  obtain ⟨settled, given, handed, _⟩ := accounts
  rw [given, handed, List.append_assoc, List.append_assoc]
  refine (ofFate_sublist .handed settled).append ?_
  exact (List.sublist_append_left _ _).trans (List.sublist_append_right _ _)

end Narration

/-- Every operation has an answer. -/
theorem Operation.nonempty_answer (operation : Operation) : Nonempty operation.Answer := by
  cases operation <;> simp only [Operation.Answer] <;>
    first | infer_instance | exact ⟨⟨[], []⟩⟩

namespace Custodies.Sound

variable {setup : Setup} {tree : FileTree} {key : SessionKey} {custodies : Custodies}
  {now : Narration}

/-- When nobody keeps the queue, nothing is taken out of it. -/
theorem takes_nothing (sound : custodies.Sound key now) (rest : now.QueueAtRest) (thread : Nat) :
    (custodies thread).keeping = .free ∧ (custodies thread).taken = [] := by
  have free : (custodies thread).keeping = .free := Classical.byContradiction fun keeps =>
    rest.free _ (sound.locked thread keeps) rfl
  exact ⟨free, Classical.byContradiction fun has => sound.taken thread has free⟩

/-- When nobody waits for the queue either, nothing is still to be passed on. -/
theorem owes_nothing (sound : custodies.Sound key now) (rest : now.QueueAtRest) (thread : Nat) :
    (custodies thread).owed = [] := by
  obtain ⟨free, nothing⟩ := sound.takes_nothing rest thread
  cases there : now.threads[thread]? with
  | none => rw [sound.unborn thread (List.getElem?_eq_none_iff.mp there)]
  | some script =>
    have obeys := sound.obeys thread script there
    cases script with
    | done value => exact obeys.owed
    | step operation next =>
      obtain ⟨answer⟩ := operation.nonempty_answer
      obtain ⟨after, turns, _⟩ := obeys answer
      cases turns with
      | apart _ passed => exact passed free
      | hold => exact absurd there (rest.awaited thread .exclusive next)
      | leave _ owed | passOn _ owed => exact owed
      | _ => simp_all
    | remark said next =>
      obtain ⟨after, remarks, _⟩ := obeys
      cases remarks with
      | elsewhere _ passed => exact passed free
      | given _ owed | failed owed => exact owed
      | _ => simp_all

/-- Threads that stand soundly deal with content in order. -/
theorem inOrder (sound : custodies.Sound key now) : now.InOrder key := by
  obtain ⟨taken, owed, ⟨taker, takes, _⟩, ⟨debtor, owes, _⟩, accounts⟩ := sound.accounts
  refine
    { handed := (List.sublist_append_left _ _).trans accounts.sublist
      queued := accounts.sublist
      settled := fun rest => ?_
      blamed := sound.blamed }
  obtain ⟨settled, given, handed, dropped⟩ := accounts
  refine ⟨settled, ?_, handed, dropped⟩
  have none_taken : taken = [] := takes.symm.trans (sound.takes_nothing rest taker).2
  have none_owed : owed = [] := owes.symm.trans (sound.owes_nothing rest debtor)
  rw [given, none_taken, none_owed, List.append_nil, List.append_nil]

end Custodies.Sound

/-- Whatever the program does may be narrated; and at every moment of a narration the content of
each session is handed over in the order in which it was given, the queue after it, and nothing is
lost but what is dropped after a start that failed. -/
theorem Narration.content_handed_in_order (setup : Setup) (tree : FileTree) (key : SessionKey) :
    (∀ system, Course setup (fun _ => True) (listening setup tree) system →
      ∃ now, Tells setup tree now ∧ now.system = system) ∧
    ∀ now, Tells setup tree now →
      Course setup (fun _ => True) (listening setup tree) now.system ∧ now.InOrder key := by
  refine ⟨fun system course => narrated course, fun now tells => ⟨tells.course, ?_⟩⟩
  obtain ⟨custodies, sound⟩ := Custodies.Sound.of_tells tells key
  exact sound.inOrder

namespace Narration

/-- What a thread does next, a remark or an operation that need not wait, if it does anything. -/
def next? (setup : Setup) (now : Narration) (thread : Nat) : Option Narration :=
  match now.threads[thread]? with
  | some (.remark said rest) => some (now.saying thread said rest)
  | some (.step operation next) =>
    (now.world.perform setup.host thread operation).map fun performed =>
      now.acting setup thread performed.1 (next performed.2)
  | _ => none

/-- Lets threads go on, always the first that can, until none can or the steps are used up. -/
def settle (setup : Setup) : Nat → Narration → Narration
  | 0, now => now
  | steps + 1, now =>
    match (List.range now.threads.length).findSome? (next? setup now) with
    | some next => settle setup steps next
    | none => now

/-- Lets happenings come one after the other, the threads going on after each. -/
def play (setup : Setup) (steps : Nat) (happenings : List Happening) (now : Narration) :
    Narration :=
  happenings.foldl (fun now happening =>
    settle setup steps { now with world := now.world.after happening }) now

theorem Tells.settle (tells : Tells setup tree now) (steps : Nat) :
    Tells setup tree (Narration.settle setup steps now) := by
  induction steps generalizing now with
  | zero => exact tells
  | succ steps ih =>
    unfold Narration.settle
    split
    · rename_i next found
      obtain ⟨thread, _, goes⟩ := List.exists_of_findSome?_eq_some found
      unfold next? at goes
      split at goes
      · rename_i said rest here
        cases goes
        exact ih (tells.tail (.remark here))
      · rename_i operation onward here
        obtain ⟨⟨world, answer⟩, performed, rfl⟩ := Option.map_eq_some_iff.mp goes
        exact ih (tells.tail (.step here performed))
      · cases goes
    · exact tells

/-- What is played is narrated. -/
theorem Tells.play (tells : Tells setup tree now) (steps : Nat) (happenings : List Happening) :
    Tells setup tree (Narration.play setup steps happenings now) := by
  induction happenings generalizing now with
  | nil => exact tells
  | cons happening rest ih => exact ih (settle (tells.tail (.happen happening)) steps)

/-- A start fails, and what was queued for it is dropped; what comes after that waits for the next
start and is handed over in order. -/
theorem dropped_then_handed : ∃ now, Tells soleServer ⟨[], []⟩ now ∧
    now.given ⟨"go", "/"⟩ = [⟨"/a.go", ['x'], "go"⟩, ⟨"/a.go", ['y'], "go"⟩,
      ⟨"/b.go", ['z'], "go"⟩] ∧
    now.dropped ⟨"go", "/"⟩ = [⟨"/a.go", ['x'], "go"⟩] ∧
    now.handed ⟨"go", "/"⟩ = [⟨"/a.go", ['y'], "go"⟩, ⟨"/b.go", ['z'], "go"⟩] ∧
    now.QueueAtRest ∧ now.InOrder ⟨"go", "/"⟩ := by
  let bringing (method file text : String) : Happening :=
    .deliver .editor (.notification true method (Params.ofJson (.obj
      [("text_document", .str file), ("language_id", .str "go"), ("text", .str text)])))
  let happenings : List Happening :=
    [bringing "textDocument/didOpen" "/a.go" "x", .answer 0 (.error (.remote (-32603) "boom")),
      bringing "textDocument/didChange" "/a.go" "y", bringing "textDocument/didOpen" "/b.go" "z",
      .answer 1 (.ok (.obj [("capabilities", .obj [])]))]
  let now := play soleServer 100 happenings (begin soleServer ⟨[], []⟩)
  have tells : Tells soleServer ⟨[], []⟩ now := Tells.play .refl 100 happenings
  have facts : now.given ⟨"go", "/"⟩ = [⟨"/a.go", ['x'], "go"⟩, ⟨"/a.go", ['y'], "go"⟩,
        ⟨"/b.go", ['z'], "go"⟩] ∧
      now.dropped ⟨"go", "/"⟩ = [⟨"/a.go", ['x'], "go"⟩] ∧
      now.handed ⟨"go", "/"⟩ = [⟨"/a.go", ['y'], "go"⟩, ⟨"/b.go", ['z'], "go"⟩] := by
    decide +kernel
  have rest : now.QueueAtRest := .of_rests (by decide +kernel) (by decide +kernel)
  exact ⟨now, tells, facts.1, facts.2.1, facts.2.2, rest,
    ((content_handed_in_order soleServer ⟨[], []⟩ ⟨"go", "/"⟩).2 now tells).2⟩

end Narration

end LanguageBridge
