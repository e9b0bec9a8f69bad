import Mathlib.Data.List.Forall2
import LanguageBridge.Proofs.Document.Upkeep
import LanguageBridge.Proofs.Journal.Progress

/-!
Servers get their replies. Every call that has been handled was replied to once, in the order of the
calls, whatever became of what it asked for; the reply to an edit request says whether the edit was
carried out.
-/
namespace LanguageBridge

namespace Script

variable {α : Type} {script : Script α} {first second rest others : List Act} {value other : α}

/-- A script comes to its value where its acts end, whatever is done after. -/
theorem Does.done_unique (does : script.Does first (.done value))
    (again : script.Does second (.done other)) (same : first ++ rest = second ++ others) :
    value = other := by
  induction script generalizing first second with
  | done given =>
    obtain ⟨_, ended⟩ := does.of_done
    obtain ⟨_, endedToo⟩ := again.of_done
    exact (done.inj ended).trans (done.inj endedToo).symm
  | step operation next ih =>
    obtain ⟨answer, later, rfl, onward⟩ := does.of_step_done
    obtain ⟨reply, more, rfl, further⟩ := again.of_step_done
    rw [List.cons_append, List.cons_append] at same
    obtain ⟨head, tail⟩ := List.cons.inj same
    cases head
    exact ih answer onward further tail

end Script

namespace Journal

variable {setup : Setup} {tree : FileTree} {journal : Journal} {now : System}

/-- The replies to a server are those of the threads for its messages. -/
theorem Kept.replies_of_serves (kept : Kept setup tree journal now) (server : ServerId) :
    now.world.repliesTo (.server server) =
      (journal.actsBy (journal.serves (.server server))).filterMap
        (Act.reply? (.server server)) := by
  rw [kept.repliesTo]
  refine filterMap_acts fun thread act member replied => ?_
  obtain ⟨work, posture, started, allows⟩ := kept.allowed member
  have permitted := allows.replied replied
  refine serves_iff.mpr ⟨work, started, ?_⟩
  cases work with
  | serveSession session => exact permitted
  | _ => cases permitted

end Journal

namespace Server

variable {setup : Setup} {tree : FileTree} {session : Session} {journal : Journal} {now : System}
  {acts : List Act}

/-- Carrying out an edit for a server came to an outcome, among what was done about its call. -/
def Applied (session : Session) (edit : WorkspaceEdit) (acts : List Act)
    (outcome : Outcome Unit) : Prop :=
  ∃ asked applying after, acts = asked :: applying ++ after ∧
    (Editor.applyEdit (Context.ofSession session) edit none).Comes applying outcome

theorem Applied.unique {edit : WorkspaceEdit} {outcome other : Outcome Unit}
    (applied : Applied session edit acts outcome) (again : Applied session edit acts other) :
    outcome = other := by
  obtain ⟨_, _, _, rfl, comes⟩ := applied
  obtain ⟨_, _, _, same, comesToo⟩ := again
  exact Script.Does.done_unique comes comesToo (List.cons.inj same).2

/-- The result of a call by what was done about it: an edit request gets the outcome of the edit, or
is told that it could not be read, and everyone else nothing. -/
inductive Replied (session : Session) (params : Json) (acts : List Act) : String → Json → Prop
  | edited {edit : WorkspaceEdit} {outcome : Outcome Unit}
      (read : readEditRequest params = .ok edit) (applied : Applied session edit acts outcome) :
      Replied session params acts "workspace/applyEdit" (editReply outcome)
  | malformed {error : ShapeError} {failure : Failure}
      (unread : readEditRequest params = .error error) :
      Replied session params acts "workspace/applyEdit" (editReply (.error failure))
  | other {method : String} (other : method ≠ "workspace/applyEdit") :
      Replied session params acts method .null

/-- A call that was handled, and a reply to it that is as it has to be. -/
inductive Answered (due : Json → List Act → String → Json → Prop) : Leg → RequestId × Json → Prop
  | call {leg : Leg} {versioned : Bool} {id : RequestId} {method : String} {params : Params}
      {result : Json} (message : leg.message = .call versioned id method params)
      (fits : due params.toJson leg.handling method result) : Answered due leg (id, result)

theorem Answered.mono {due weaker : Json → List Act → String → Json → Prop} {leg : Leg}
    {reply : RequestId × Json} (answered : Answered due leg reply)
    (implies : ∀ {params acts method result}, due params acts method result →
      weaker params acts method result) : Answered weaker leg reply := by
  obtain ⟨message, fits⟩ := answered
  exact .call message (implies fits)

/-- A handler is looked up among those that are registered at the time. -/
theorem comes_of_handlerFor {α : Type} {method : String} {next : Option String → Job α}
    {outcome : Outcome α} (comes : (handlerFor method >>= next).Comes acts outcome) :
    ∃ extensions rest, acts = ⟨.extensions, extensions⟩ :: rest ∧
      (next (Extensions.handler? extensions method)).Comes rest outcome :=
  Script.Does.of_step_done comes

/-- What comes of a server's call before it is replied to. -/
theorem replied_of_prepare {method : String} {params : Json} {outcome : Outcome Json}
    (comes : (prepare session method params).Comes acts outcome) (after : List Act) :
    ∃ result, outcome = .ok result ∧ Replied session params (acts ++ after) method result := by
  obtain ⟨extensions, _, rfl, rest⟩ := comes_of_handlerFor comes
  obtain ⟨result, resulting, forwarding, rfl, asked, rest⟩ := rest.of_ofScript_bind
  refine ⟨result, ?_, ?_⟩
  · generalize Extensions.handler? extensions method = handler at rest
    cases handler with
    | none => exact rest.of_pure.2
    | some handler =>
      obtain ⟨_, _, _, _, _, ending⟩ := rest.of_attempt_bind
      exact ending.of_pure.2
  unfold resultOf at asked
  split at asked
  · rename_i requested
    subst requested
    split at asked
    · rename_i edit read
      obtain ⟨outcome, applying, reporting, rfl, done, ending⟩ := Script.Does.of_bind_done asked
      have applied : Applied session edit
          ([⟨.extensions, extensions⟩] ++ (applying ++ reporting ++ forwarding) ++ after) outcome :=
        ⟨⟨.extensions, extensions⟩, applying, reporting ++ forwarding ++ after, by simp, done⟩
      suffices same : result = editReply outcome from same ▸ .edited read applied
      cases outcome with
      | ok _ => exact Script.done.inj ending.of_done.2
      | error failure =>
        obtain ⟨_, _, _, _, _, last⟩ := Script.Does.of_bind_done ending
        exact Script.done.inj last.of_done.2
    · rename_i error unread
      obtain ⟨_, same⟩ := asked.of_done
      obtain rfl := Script.done.inj same
      exact .malformed unread
  · rename_i other
    obtain ⟨_, same⟩ := asked.of_done
    obtain rfl := Script.done.inj same
    exact .other other

/-- Until a call is replied to there is nothing but failures to tell of. -/
theorem prepare_reports (session : Session) (method : String) (params : Json) :
    (prepare session method params).Behaves { reports := true } false :=
  prepare_behaves session method params rfl

/-- What is no call is handled without a reply. -/
theorem handle_reports (setup : Setup) (session : Session) {message : Message}
    (call : ¬ message.isCall = true) :
    (handle setup session message).Behaves { reports := true } false :=
  handle_behaves setup session message (fun is => absurd is call) rfl

/-- A call that was handled while its server was there was replied to, and nothing else was. -/
theorem answered_of_handled {leg : Leg} {outcome : Outcome Unit}
    (comes : (handle setup session leg.message).Comes leg.handling outcome)
    (heard : ∀ act ∈ leg.handling, act.unheard? ≠ some session.peer) :
    List.Forall₂ (Answered (Replied session)) ([leg].filter (·.message.isCall))
      (leg.handling.filterMap (Act.reply? session.peer)) := by
  by_cases call : leg.message.isCall = true
  · rw [List.filter_singleton, call]
    obtain ⟨thread, message, acts, next⟩ := leg
    cases message with
    | call versioned id method params =>
      dsimp only at comes heard ⊢
      rw [handle_call] at comes
      rcases comes.of_bind with ⟨failure, _, failing⟩ | ⟨result, preparing, _, rfl, prepared, rest⟩
      · obtain ⟨_, impossible, _⟩ := replied_of_prepare failing []
        cases impossible
      obtain rfl := rest.of_reply
      obtain ⟨_, same, replied⟩ :=
        replied_of_prepare prepared [⟨.reply session.peer id result, outcome⟩]
      cases same
      have quiet := (prepare_reports session method params.toJson).does prepared
      rw [List.filterMap_append, Journal.replies_of_silent quiet.1 (by simp)]
      cases outcome with
      | error failure => exact absurd rfl (heard _ (List.mem_append_right _ List.mem_cons_self))
      | ok _ =>
        have said : [(⟨.reply session.peer id result, (.ok () : Outcome Unit)⟩ : Act)].filterMap
            (Act.reply? session.peer) = [(id, result)] := by
          simp [Act.reply?, Act.sent?, Sent.reply?]
        rw [said]
        exact .cons (.call rfl replied) .nil
    | notification | response => cases call
  · have quiet := (handle_reports setup session call).does comes
    rw [Journal.replies_of_silent quiet.1 (by simp), List.filter_singleton, Bool.eq_false_iff.mpr call]
    exact .nil

/-- Nothing is replied to a server while its message is still under way. -/
theorem no_reply_under_way {message : Message} {operation : Operation}
    {onward : operation.Answer → Script Unit}
    (does : ((Work.serveSession session).handling setup message).Does acts
      (.step operation onward)) : acts.filterMap (Act.reply? session.peer) = [] := by
  have halves : (handle setup session message).run.Halves (fun _ => .done ()) acts _ :=
    Script.Does.of_bind does
  cases halves with
  | beyond _ _ rest => cases rest.of_done.2
  | amid handles =>
    by_cases call : message.isCall = true
    · cases message with
      | call versioned id method params =>
        rw [handle_call] at handles
        cases Script.Does.of_bind handles with
        | amid prepares =>
          have quiet := (prepare_reports session method params.toJson).does prepares
          exact Journal.replies_of_silent quiet.1 (by simp)
        | @beyond value _ _ whole prepared rest =>
          have quiet := (prepare_reports session method params.toJson).does prepared
          cases value with
          | error failure => cases rest.of_done.2
          | ok result =>
            rcases rest.of_step with ⟨rfl, _⟩ | ⟨_, _, _, ending⟩
            · rw [whole, List.append_nil]
              exact Journal.replies_of_silent quiet.1 (by simp)
            · cases ending.of_done.2
      | notification | response => cases call
    · have quiet := (handle_reports setup session call).does handles
      exact Journal.replies_of_silent quiet.1 (by simp)

/-- While a server's messages are not all handled, one of its threads goes on. -/
theorem goes_on (kept : Journal.Kept setup tree journal now) {handled : List Leg}
    {under : Option Message}
    (attended : Journal.Attended setup journal now session.peer (.serveSession session) handled under)
    (more : under.isSome ∨
      now.world.waiting session.peer ≠ [] ∧ session.peer ∉ now.world.silent) :
    ∃ thread, journal.serves session.peer thread = true ∧ journal.GoesOn setup now thread := by
  obtain ⟨thread, rest, serves, _, rests⟩ := attended.order
  refine ⟨thread, serves, ?_⟩
  cases rests with
  | ready able =>
    rcases more with impossible | ⟨waiting, _⟩
    · cases impossible
    · exact .moves (able waiting)
  | ended silent =>
    rcases more with impossible | ⟨_, speaks⟩
    · cases impossible
    · exact absurd silent speaks
  | @under message acts operation onward own here does =>
    have each : ((Work.serveSession session).handling setup message).Each Operation.Attends :=
      Script.Each.bind (handle_attends session message) fun _ => trivial
    obtain ⟨acted, ahead⟩ := each.does does
    refine kept.goes_on here ahead.1 fun act member => ?_
    rw [own, List.mem_cons] at member
    rcases member with rfl | handling
    · exact .inr ⟨_, rfl⟩
    · exact .inl (acted act handling)

/-- A server that is there gets one reply for each call that was handled, in the order of the calls
and with their ids, and no other. -/
theorem replied_in_order (kept : Journal.Kept setup tree journal now)
    (alive : now.world.isAlive session.peer = true) {handled : List Leg} {under : Option Message}
    (attended : Journal.Attended setup journal now session.peer (.serveSession session) handled
      under) : List.Forall₂ (Answered (Replied session)) (handled.filter (·.message.isCall))
        (now.world.repliesTo session.peer) := by
  have replies : now.world.repliesTo session.peer =
      (journal.actsBy (journal.serves session.peer)).filterMap (Act.reply? session.peer) :=
    kept.replies_of_serves session.server
  rw [replies, attended.filterMap (fun _ => rfl) (fun _ => rfl) no_reply_under_way fun does =>
    Journal.replies_of_silent ((Program.ending_behaves {} _).does does).1 (by simp)]
  have heard (leg : Leg) (there : leg ∈ handled) (act : Act) (member : act ∈ leg.handling) :
      act.unheard? ≠ some session.peer := attended.heard kept alive there member
  have done := attended.done
  clear attended
  induction handled with
  | nil => exact .nil
  | cons leg later ih =>
    obtain ⟨does, others⟩ := List.forall_mem_cons.mp done
    obtain ⟨outcome, first, second, same, comes, ending⟩ := Script.Does.of_bind_done does
    obtain ⟨rfl, _⟩ := ending.of_done
    rw [List.append_nil] at same
    have here := answered_of_handled (same ▸ comes) (heard leg List.mem_cons_self)
    have rest := ih (fun other there => heard other (List.mem_cons_of_mem _ there)) others
    rw [← List.singleton_append, List.filter_append]
    exact List.rel_append here rest

/-- The reply that a call is due: an edit request is told that the edit was applied exactly if it
could be read and carrying the edit out succeeded, and everyone else nothing. -/
inductive Due (session : Session) (params : Json) (acts : List Act) : String → Json → Prop
  | edit {result : Json} {applied : Bool} (told : result.get? "applied" = some (.bool applied))
      (tried : ∀ edit, readEditRequest params = .ok edit →
        ∃ outcome, Applied session edit acts outcome)
      (exactly : applied = true ↔ ∃ edit, readEditRequest params = .ok edit ∧
        Applied session edit acts (.ok ())) :
      Due session params acts "workspace/applyEdit" result
  | other {method : String} (other : method ≠ "workspace/applyEdit") :
      Due session params acts method .null

theorem Replied.due {params : Json} {method : String} {result : Json}
    (replied : Replied session params acts method result) :
    Due session params acts method result := by
  cases replied with
  | other other => exact .other other
  | @edited edit outcome read applied =>
    have same (other : WorkspaceEdit) (also : readEditRequest params = .ok other) : other = edit :=
      Except.ok.inj (also.symm.trans read)
    have tried (other : WorkspaceEdit) (also : readEditRequest params = .ok other) :
        ∃ outcome, Applied session other acts outcome := ⟨outcome, same other also ▸ applied⟩
    cases outcome with
    | ok _ => exact .edit rfl tried (iff_of_true rfl ⟨edit, read, applied⟩)
    | error failure =>
      refine .edit rfl tried (iff_of_false Bool.false_ne_true ?_)
      rintro ⟨other, also, succeeded⟩
      obtain rfl := same other also
      cases applied.unique succeeded
  | malformed unread =>
    refine .edit rfl ?_ (iff_of_false Bool.false_ne_true ?_)
    · rintro edit impossible
      cases unread.symm.trans impossible
    · rintro ⟨edit, impossible, _⟩
      cases unread.symm.trans impossible

/-- A server that is there gets one reply for each call that was handled, in the order of the calls
and with their ids, and no other; an edit request is told that the edit was applied exactly if it
was. Its messages are handled in order, and as long as there are more one of the threads for them
goes on. -/
theorem calls_answered (kept : Journal.Kept setup tree journal now)
    (served : .serveSession session ∈ journal.works)
    (alive : now.world.isAlive session.peer = true) : ∃ handled under,
      Journal.Attended setup journal now session.peer (.serveSession session) handled under ∧
      List.Forall₂ (Answered (Due session)) (handled.filter (·.message.isCall))
        (now.world.repliesTo session.peer) ∧
      (under.isSome ∨ now.world.waiting session.peer ≠ [] ∧ session.peer ∉ now.world.silent →
        ∃ thread, journal.serves session.peer thread = true ∧
          journal.GoesOn setup now thread) := by
  obtain ⟨handled, under, attended⟩ := kept.attended served rfl
  refine ⟨handled, under, attended, ?_, goes_on kept attended⟩
  exact (replied_in_order kept alive attended).imp fun _ _ answered => answered.mono (·.due)

/-- The session of the only server there is. -/
def soleSession : Session := { key := ⟨"go", "/"⟩, server := ⟨"go", 1⟩, ownsProcess := true }

/-- The start of a document. -/
def documentStart : Json := .obj [("line", .nat 0), ("character", .nat 0)]

/-- A letter is put in front of a document. -/
def letterInFront : Json :=
  .obj [("newText", .str "b"), ("range", .obj [("start", documentStart), ("end", documentStart)])]

/-- A server asks for an edit. -/
def asksForEdit (id : Nat) (edit : Json) : Happening :=
  .deliver soleSession.peer
    (.call true (.number id) "workspace/applyEdit" (Params.ofJson (.obj [("edit", edit)])))

/-- A document is opened and its server starts; then other things happen. -/
def afterOpening (happenings : List Happening) : Journal × System :=
  Journal.play soleServer 60
    ([.deliver .editor (.notification true "textDocument/didOpen" (Params.ofJson (.obj
        [("text_document", .str "/a.go"), ("language_id", .str "go"), ("text", .str "x")]))),
      .answer 0 (.ok (.obj [("capabilities", .obj [])]))] ++ happenings)
    ([], listening soleServer ⟨[], []⟩)

theorem kept_afterOpening (happenings : List Happening) : Journal.Kept soleServer ⟨[], []⟩
    (afterOpening happenings).1 (afterOpening happenings).2 :=
  Journal.Kept.played _ _ 60 _

/-- Whether a thread serves the only server there is. -/
def servesSole (journal : Journal) : Bool :=
  journal.works.any fun
    | .serveSession ⟨key, server, .obj [], true⟩ =>
      decide (key = soleSession.key) && decide (server = soleSession.server)
    | _ => false

theorem soleSession_serves {journal : Journal} (there : servesSole journal = true) :
    .serveSession soleSession ∈ journal.works := by
  obtain ⟨work, member, same⟩ := List.any_eq_true.mp there
  split at same
  · obtain ⟨rfl, rfl⟩ := by simpa using same
    exact member
  · cases same

/-- Whether a reply says that something was applied. -/
def appliedIn? (reply : RequestId × Json) : Option Bool :=
  (reply.2.get? "applied").bind fun json => (Json.readBool json).toOption

theorem get?_of_appliedIn? {id : RequestId} {result : Json} {applied : Bool}
    (told : appliedIn? (id, result) = some applied) :
    result.get? "applied" = some (.bool applied) := by
  obtain ⟨json, found, read⟩ := Option.bind_eq_some_iff.mp told
  rw [show result.get? "applied" = some json from found]
  cases json with
  | bool value =>
    cases read
    rfl
  | _ => cases read

/-- A request without an edit is refused, another call gets nothing, and then an edit is carried
out: each is replied to in its turn. -/
def threeCalls : Journal × System :=
  afterOpening [asksForEdit 1 .null,
    .deliver soleSession.peer (.call true (.number 2) "client/registerCapability" .none),
    asksForEdit 3 (.obj [("changes", .obj [("file:///a.go", .arr [letterInFront])])]),
    .answer 1 (.ok (.nat 3))]

theorem edits_answered_in_turn : ∃ journal now, Journal.Kept soleServer ⟨[], []⟩ journal now ∧
    (now.world.repliesTo soleSession.peer).map (fun reply => (reply.1, appliedIn? reply)) =
      [(.number 1, some false), (.number 2, none), (.number 3, some true)] ∧
    ∃ handled under, Journal.Attended soleServer journal now soleSession.peer
        (.serveSession soleSession) handled under ∧
      List.Forall₂ (Answered (Due soleSession)) (handled.filter (·.message.isCall))
        (now.world.repliesTo soleSession.peer) := by
  have kept : Journal.Kept soleServer ⟨[], []⟩ threeCalls.1 threeCalls.2 := kept_afterOpening _
  obtain ⟨alive, serves, replies⟩ : threeCalls.2.world.isAlive soleSession.peer = true ∧
      servesSole threeCalls.1 = true ∧
      (threeCalls.2.world.repliesTo soleSession.peer).map
        (fun reply => (reply.1, appliedIn? reply)) =
      [(.number 1, some false), (.number 2, none), (.number 3, some true)] := by decide +kernel
  obtain ⟨handled, under, attended, answered, _⟩ :=
    calls_answered kept (soleSession_serves serves) alive
  exact ⟨_, _, kept, replies, handled, under, attended, answered⟩

end Server

end LanguageBridge
