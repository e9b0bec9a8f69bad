import LanguageBridge.Proofs.Rpc.Conversation
import LanguageBridge.Proofs.Rpc.Waiters
import Mathlib.Data.List.Induction

/-!
The minutes of a connection: which requests were registered, and with which bodies the reader got
through in between. They say who waits, who is given what, and which bodies count at all.
-/
namespace LanguageBridge.Conversation

/-- What the reader has to do with: a request was registered, the reader is through with a body, or
it has failed the requests in flight. -/
inductive Entry
  | request (number index : Nat)
  | body (text : String)
  | failed

/-- Those who wait for a response, in the order in which they came, under their ids. -/
abbrev Waiting := List (RequestId × Nat)

/-- The call or notification that a body is. -/
def inboundOf? (body : String) : Option Message :=
  match Message.ofText body with
  | .ok (.response _) => none
  | .ok message => some message
  | .error _ => none

namespace Entry

/-- An entry that answers whoever waits under an id. -/
def Answers (id : RequestId) : Entry → Prop
  | .request .. => False
  | .body text => (responseOf? text).map Response.id = some id
  | .failed => True

/-- Who waits after an entry. -/
def wait (waiting : Waiting) : Entry → Waiting
  | .request number index => waiting ++ [(.number number, index)]
  | .body text =>
    match responseOf? text with
    | some response => waiting.filter fun entry => entry.1 ≠ response.id
    | none => waiting
  | .failed => []

/-- What an entry gives to those who wait. -/
def gives (waiting : Waiting) : Entry → List (Nat × Response)
  | .request .. => []
  | .body text =>
    match responseOf? text with
    | some response => (Table.find? response.id waiting).toList.map fun index => (index, response)
    | none => []
  | .failed => waiting.map fun entry => (entry.2, .terminated entry.1)

/-- Whether an entry counts. A body that is no message does not, nor does a response under an id
that nobody waits under. -/
def counts (waiting : Waiting) : Entry → Bool
  | .body text =>
    match Message.ofText text with
    | .ok (.response response) => (Table.find? response.id waiting).isSome
    | .ok _ => true
    | .error _ => false
  | _ => true

/-- The body of an entry. -/
def body? : Entry → Option String
  | .body text => some text
  | _ => none

theorem inboundOf?_eq_none {text : String} {response : Response}
    (is : responseOf? text = some response) : inboundOf? text = none := by
  simp [inboundOf?, responseOf?_eq_some_iff.mp is]

theorem counts_of_response {text : String} {response : Response}
    (is : responseOf? text = some response) (waiting : Waiting) :
    (body text).counts waiting = (Table.find? response.id waiting).isSome := by
  simp [counts, responseOf?_eq_some_iff.mp is]

theorem counts_of_other {text : String} (other : responseOf? text = none) (waiting : Waiting) :
    (body text).counts waiting = (inboundOf? text).isSome := by
  cases read : Message.ofText text with
  | error failure => simp [counts, inboundOf?, read]
  | ok message =>
    cases message with
    | response response => simp [responseOf?_eq_some_iff.mpr read] at other
    | call | notification => simp [counts, inboundOf?, read]

theorem find?_of_idle {text : String} {response : Response} {waiting : Waiting}
    (is : responseOf? text = some response) (idle : (body text).counts waiting = false) :
    Table.find? response.id waiting = none := by
  simpa [counts_of_response is] using idle

/-- A body that does not count leaves everybody waiting. -/
theorem wait_of_idle {entry : Entry} {waiting : Waiting} (idle : entry.counts waiting = false) :
    entry.wait waiting = waiting := by
  cases entry with
  | request | failed => cases idle
  | body text =>
    cases is : responseOf? text with
    | some response =>
      have absent : (⟨waiting⟩ : Table RequestId Nat).get? response.id = none :=
        find?_of_idle is idle
      simp only [wait, is]
      exact congrArg Table.entries (Table.erase_of_absent absent)
    | none => simp only [wait, is]

theorem gives_of_idle {entry : Entry} {waiting : Waiting} (idle : entry.counts waiting = false) :
    entry.gives waiting = [] := by
  cases entry with
  | request | failed => cases idle
  | body text =>
    cases is : responseOf? text with
    | some response => simp [gives, is, find?_of_idle is idle]
    | none => simp [gives, is]

theorem inbound_of_idle {entry : Entry} {waiting : Waiting} (idle : entry.counts waiting = false) :
    entry.body?.bind inboundOf? = none := by
  cases entry with
  | request | failed => cases idle
  | body text =>
    change inboundOf? text = none
    cases is : responseOf? text with
    | some response => exact inboundOf?_eq_none is
    | none => simpa [counts_of_other is] using idle

end Entry

/-- Who waits at the end. -/
def waitingAfter (entries : List Entry) : Waiting := entries.foldl Entry.wait []

/-- The entries that count, when some wait already. -/
def countingFrom (waiting : Waiting) : List Entry → List Entry
  | [] => []
  | entry :: rest =>
    if entry.counts waiting then entry :: countingFrom (entry.wait waiting) rest
    else countingFrom (entry.wait waiting) rest

/-- What is given to those who wait, when some wait already. -/
def givenFrom (waiting : Waiting) : List Entry → List (Nat × Response)
  | [] => []
  | entry :: rest => entry.gives waiting ++ givenFrom (entry.wait waiting) rest

/-- The entries that count: not the bodies that are no messages, nor the responses under ids that
are unknown or have been answered. -/
def counting (entries : List Entry) : List Entry := countingFrom [] entries

/-- What callers are given. -/
def givenBy (entries : List Entry) : List (Nat × Response) := givenFrom [] entries

/-- The bodies that the reader got through with. -/
def bodiesOf (entries : List Entry) : List String := entries.filterMap Entry.body?

/-- The calls and notifications among bodies, in order. -/
def inboundAmong (bodies : List String) : List Message := bodies.filterMap inboundOf?

theorem countingFrom_append (waiting : Waiting) (before after : List Entry) :
    countingFrom waiting (before ++ after) =
      countingFrom waiting before ++ countingFrom (before.foldl Entry.wait waiting) after := by
  induction before generalizing waiting with
  | nil => rfl
  | cons entry rest ih =>
    simp only [List.cons_append, countingFrom, List.foldl_cons, ih]
    split <;> rfl

theorem givenFrom_append (waiting : Waiting) (before after : List Entry) :
    givenFrom waiting (before ++ after) =
      givenFrom waiting before ++ givenFrom (before.foldl Entry.wait waiting) after := by
  induction before generalizing waiting with
  | nil => rfl
  | cons entry rest ih => simp only [List.cons_append, givenFrom, List.foldl_cons, ih,
      List.append_assoc]

theorem wait_countingFrom (waiting : Waiting) (entries : List Entry) :
    (countingFrom waiting entries).foldl Entry.wait waiting =
      entries.foldl Entry.wait waiting := by
  induction entries generalizing waiting with
  | nil => rfl
  | cons entry rest ih =>
    cases counted : entry.counts waiting with
    | true => simpa [countingFrom, counted] using ih (entry.wait waiting)
    | false => simpa [countingFrom, counted, Entry.wait_of_idle counted] using ih waiting

theorem countingFrom_sublist (waiting : Waiting) (entries : List Entry) :
    (countingFrom waiting entries).Sublist entries := by
  induction entries generalizing waiting with
  | nil => exact .slnil
  | cons entry rest ih =>
    simp only [countingFrom]
    split
    · exact (ih _).cons_cons entry
    · exact (ih _).cons entry

theorem givenFrom_countingFrom (waiting : Waiting) (entries : List Entry) :
    givenFrom waiting (countingFrom waiting entries) = givenFrom waiting entries := by
  induction entries generalizing waiting with
  | nil => rfl
  | cons entry rest ih =>
    cases counted : entry.counts waiting with
    | true => simp [countingFrom, givenFrom, counted, ih]
    | false =>
      simp [countingFrom, givenFrom, counted, Entry.wait_of_idle counted,
        Entry.gives_of_idle counted, ih]

section Append

variable (entries : List Entry) (entry : Entry)

theorem waitingAfter_append_singleton :
    waitingAfter (entries ++ [entry]) = entry.wait (waitingAfter entries) := by
  simp [waitingAfter]

theorem givenBy_append_singleton :
    givenBy (entries ++ [entry]) = givenBy entries ++ entry.gives (waitingAfter entries) := by
  simp [givenBy, givenFrom_append, givenFrom, waitingAfter]

theorem counting_append_singleton : counting (entries ++ [entry]) =
    counting entries ++ if entry.counts (waitingAfter entries) then [entry] else [] := by
  rw [counting, countingFrom_append]
  rfl

theorem bodiesOf_append_singleton :
    bodiesOf (entries ++ [entry]) = bodiesOf entries ++ entry.body?.toList := by
  cases entry <;> simp [bodiesOf, Entry.body?]

theorem inboundAmong_append_singleton (bodies : List String) (body : String) :
    inboundAmong (bodies ++ [body]) = inboundAmong bodies ++ (inboundOf? body).toList := by
  cases is : inboundOf? body <;> simp [inboundAmong, is]

end Append

theorem inboundAmong_bodiesOf (entries : List Entry) :
    inboundAmong (bodiesOf entries) = entries.filterMap fun entry => entry.body?.bind inboundOf? :=
  List.filterMap_filterMap ..

theorem inbound_countingFrom (waiting : Waiting) (entries : List Entry) :
    inboundAmong (bodiesOf (countingFrom waiting entries)) = inboundAmong (bodiesOf entries) := by
  simp only [inboundAmong_bodiesOf]
  induction entries generalizing waiting with
  | nil => rfl
  | cons entry rest ih =>
    cases counted : entry.counts waiting with
    | true => simp [countingFrom, counted, List.filterMap_cons, ih]
    | false => simp [countingFrom, counted, Entry.inbound_of_idle counted, ih]

/-- Somebody waits under an id exactly if a request was registered under it and nothing has answered
it since. -/
theorem mem_waitingAfter_iff (entries : List Entry) (id : RequestId) (index : Nat) :
    (id, index) ∈ waitingAfter entries ↔
      Since (fun _ entry => ∃ number, entry = .request number index ∧ id = .number number)
        (Entry.Answers id) entries := by
  induction entries using List.reverseRecOn with
  | nil => exact iff_of_false List.not_mem_nil not_since_nil
  | append_singleton entries entry ih =>
    rw [since_append_singleton, ← ih, waitingAfter_append_singleton]
    cases entry with
    | request number other =>
      simp only [Entry.wait, Entry.Answers, not_false_eq_true, and_true, List.mem_append,
        List.mem_singleton, Prod.mk.injEq, Entry.request.injEq]
      refine or_congr_right ⟨?_, ?_⟩
      · rintro ⟨rfl, rfl⟩
        exact ⟨number, ⟨rfl, rfl⟩, rfl⟩
      · rintro ⟨same, ⟨rfl, rfl⟩, named⟩
        exact ⟨named, rfl⟩
    | body text =>
      cases is : responseOf? text with
      | some response => simp [Entry.wait, Entry.Answers, is, ne_comm]
      | none => simp [Entry.wait, Entry.Answers, is]
    | failed => simp [Entry.wait, Entry.Answers]

/-- A response counts exactly if a request was registered under its id before and nothing has
answered that since. -/
theorem counts_response_iff {text : String} {response : Response}
    (is : responseOf? text = some response) (before : List Entry) :
    (Entry.body text).counts (waitingAfter before) = true ↔ ∃ index,
      Since (fun _ entry => ∃ number, entry = .request number index ∧ response.id = .number number)
        (Entry.Answers response.id) before := by
  simp only [← mem_waitingAfter_iff, Entry.counts_of_response is]
  rw [Option.isSome_iff_ne_none, ne_eq, Table.find?_eq_none_iff, not_not]
  simp

/-- The request that the next step of a caller registers. -/
def registers? (connection : Connection) (index : Nat) : Option Nat :=
  match connection.callers[index]?.map Caller.phase with
  | some (.registering number _) => if connection.takesRegistrations then some number else none
  | _ => none

/-- The minutes: the entries, the body whose response the reader is about to look up, and the
messages that were taken out of those that came in. -/
structure Minutes where
  entries : List Entry := []
  inHand : Option String := none
  taken : List Message := []

namespace Minutes

def note (minutes : Minutes) (entry : Entry) : Minutes :=
  { minutes with entries := minutes.entries ++ [entry] }

theorem waitingAfter_note (minutes : Minutes) (entry : Entry) :
    waitingAfter (minutes.note entry).entries = entry.wait (waitingAfter minutes.entries) :=
  waitingAfter_append_singleton _ _

theorem givenBy_note (minutes : Minutes) (entry : Entry) : givenBy (minutes.note entry).entries =
    givenBy minutes.entries ++ entry.gives (waitingAfter minutes.entries) :=
  givenBy_append_singleton _ _

theorem bodiesOf_note (minutes : Minutes) (entry : Entry) :
    bodiesOf (minutes.note entry).entries = bodiesOf minutes.entries ++ entry.body?.toList :=
  bodiesOf_append_singleton _ _

/-- The bodies that count. -/
def counted (minutes : Minutes) : List String := bodiesOf (counting minutes.entries)

theorem counted_note (minutes : Minutes) (entry : Entry) : (minutes.note entry).counted =
    minutes.counted ++ if entry.counts (waitingAfter minutes.entries) then entry.body?.toList
      else [] := by
  simp only [counted, note, counting_append_singleton]
  split
  · exact bodiesOf_append_singleton _ _
  · simp

/-- What a step of a thread adds. The reader is through with a response when it looks up whom it is
for, and with any other body when it has read it. -/
def afterStep (minutes : Minutes) (connection : Connection) : Connection.Thread → Minutes
  | .caller index =>
    match registers? connection index with
    | some number => minutes.note (.request number index)
    | none => minutes
  | .reader =>
    match connection.reader with
    | .reading =>
      match Frame.read connection.ended connection.incoming with
      | .body text _ =>
        if (responseOf? text).isSome then { minutes with inHand := some text }
        else minutes.note (.body text)
      | _ => minutes
    | .answering _ =>
      if connection.registrations = [] then
        { minutes with
          entries := minutes.entries ++ minutes.inHand.toList.map .body
          inHand := none }
      else minutes
    | .failing => if connection.registrations = [] then minutes.note .failed else minutes
    | _ => minutes
  | .writer => minutes

/-- What the surroundings add. -/
def afterEvent (minutes : Minutes) (connection : Connection) : Connection.Event → Minutes
  | .takeInbound => { minutes with taken := minutes.taken ++ connection.inbound.take 1 }
  | _ => minutes

theorem counted_caller (minutes : Minutes) (connection : Connection) (index : Nat) :
    (minutes.afterStep connection (.caller index)).counted = minutes.counted := by
  simp only [afterStep]
  split
  · simp [counted_note, Entry.body?]
  · rfl

theorem counted_event (minutes : Minutes) (connection : Connection) (event : Connection.Event) :
    (minutes.afterEvent connection event).counted = minutes.counted := by
  cases event <;> rfl

end Minutes

/-- Any number of moves of all threads in any order, with the minutes that are taken. -/
inductive Minuted : Conversation → Minutes → Prop
  | start : Minuted {} {}
  | step (minuted : Minuted talk minutes) (thread : Connection.Thread)
      (taken : talk.connection.step thread = some next) :
      Minuted ⟨next, talk.history.afterStep talk.connection thread⟩
        (minutes.afterStep talk.connection thread)
  | event (minuted : Minuted talk minutes) (event : Connection.Event)
      (possible : event.Possible talk.connection) :
      Minuted ⟨talk.connection.occur event, talk.history.afterEvent event⟩
        (minutes.afterEvent talk.connection event)

/-- No one is held to be honest about no ids. -/
theorem honest_of_unknown (talk : Conversation) : Honest (fun _ => False) talk :=
  fun _ _ _ _ _ _ _ _ _ known => known.elim

theorem Minuted.leads {talk : Conversation} {minutes : Minutes} (minuted : Minuted talk minutes) :
    Leads (fun _ => False) {} talk := by
  induction minuted with
  | start => exact .refl
  | step _ thread taken ih => exact ih.tail (.step thread taken)
  | event _ event possible ih => exact ih.tail (.event event possible (honest_of_unknown _))

/-- Every course has its minutes. -/
theorem exists_minuted {known : Nat → Prop} {talk : Conversation} (run : Leads known {} talk) :
    ∃ minutes, Minuted talk minutes := by
  induction run with
  | refl => exact ⟨_, .start⟩
  | tail _ move ih =>
    obtain ⟨minutes, minuted⟩ := ih
    cases move with
    | step thread taken => exact ⟨_, minuted.step thread taken⟩
    | event event possible _ => exact ⟨_, minuted.event event possible⟩

end LanguageBridge.Conversation
