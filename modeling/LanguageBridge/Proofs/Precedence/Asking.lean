import LanguageBridge.Proofs.Document.Upkeep
import LanguageBridge.Proofs.Precedence.Abiding

/-!
The bearings go along with every story.
-/
namespace LanguageBridge

namespace Letter

variable {letter : Letter} {bearings : Bearings} {now next : Moment} {past : List Moment}
  {host : Host} {setup : Setup} {tree : FileTree} {thread : Nat} {operation : Operation}
  {answer : operation.Answer} {due : Bool} {heading : Heading} {bearing after : Bearing}
  {child : Option Bearing}

/-- Who is started stands where the work allows. -/
theorem Turns.suits {work : Work}
    (turns : letter.Turns due bearing heading operation answer after child)
    (forks : operation = .fork work) : ∃ new, child = some new ∧ work.Suits new := by
  cases turns with
  | plain plain => exact (forks ▸ plain : Operation.Plain (.fork work)).elim
  | passOn clear =>
    cases forks
    exact ⟨_, rfl, _, clear, rfl⟩
  | dispatch clear =>
    cases forks
    exact ⟨_, rfl, _, rfl⟩
  | start other =>
    cases forks
    refine ⟨_, rfl, ?_⟩
    cases work <;> first | exact other.elim | rfl
  | _ => cases forks

theorem Turns.alone (turns : letter.Turns due bearing heading operation answer after child)
    (other : ∀ work, operation ≠ .fork work) : child = none := by
  cases turns with
  | passOn | dispatch | start => exact absurd rfl (other _)
  | _ => rfl

/-- Threads go on bearing themselves well after a step of one of them, and one that it starts
does. -/
theorem Abides.act {onward : operation.Answer → Script (Outcome Json)} {world : World}
    (abides : letter.Abides bearings now)
    (here : now.system.threads[thread]? = some (.step operation onward))
    (performed : now.world.perform host thread operation = some (world, answer))
    (turns : letter.Turns due (bearings thread) heading operation answer after child)
    (bears : (onward answer).Bears letter after fun _ _ => True)
    (system : next.system = System.startForked (Program.scriptOf setup)
      { world, threads := now.system.threads.set thread (onward answer) })
    (chronicle : next.chronicle = now.chronicle.perform thread operation now.world next.world) :
    letter.Abides (bearings.turn now.system.threads.length thread after child) next := by
  have forked : world.forked = operation.starting := by
    rw [(World.performed performed).forked, abides.forked, List.nil_append]
  have threads : next.system.threads = now.system.threads.set thread (onward answer) ++
      operation.starting.map (Program.scriptOf setup) := by
    rw [system, ← forked]
    rfl
  have within : thread < now.system.threads.length := (List.getElem?_eq_some_iff.mp here).1
  have tasks : next.chronicle.tasks.length = next.system.threads.length := by
    rw [chronicle, threads, List.length_append, List.length_set, List.length_map,
      ← abides.tasks]
    cases operation with
    | fork work => exact List.length_append
    | _ => rfl
  have none_left : next.world.forked = [] := by
    rw [Moment.world, system]
    rfl
  refine ⟨fun other script there => ?_, fun other beyond => ?_, tasks, none_left⟩
  · rw [threads] at there
    by_cases born : other < now.system.threads.length
    · rw [List.getElem?_append_left (by simpa using born), List.getElem?_set] at there
      obtain ⟨own, turned⟩ | ⟨apart, turned⟩ | ⟨_, last, _⟩ :=
        bearings.turn_cases now.system.threads.length thread after child other
      · rw [if_pos own.symm, if_pos within] at there
        cases there
        rw [turned]
        exact bears
      · rw [if_neg (Ne.symm apart)] at there
        rw [turned]
        exact abides.bears other script there
      · exact absurd last (Nat.ne_of_lt born)
    · have beyond : now.system.threads.length ≤ other := Nat.not_lt.mp born
      rw [List.getElem?_append_right (by simpa using beyond), List.length_set] at there
      by_cases forks : ∃ work, operation = .fork work
      · obtain ⟨work, rfl⟩ := forks
        obtain ⟨new, rfl, suits⟩ := turns.suits rfl
        have first : other - now.system.threads.length = 0 := by
          have few := (List.getElem?_eq_some_iff.mp there).1
          simp [Operation.starting] at few
          omega
        obtain rfl : other = now.system.threads.length := by omega
        rw [first] at there
        cases there
        have apart : now.system.threads.length ≠ thread := Nat.ne_of_gt within
        simpa [Bearings.turn, apart] using Program.scriptOf_bears suits
      · cases operation with
        | fork work => exact absurd ⟨work, rfl⟩ forks
        | _ => cases there
  · rw [threads, List.length_append, List.length_set] at beyond
    obtain ⟨rfl, _⟩ | ⟨_, turned⟩ | ⟨_, last, new, begun, _⟩ :=
      bearings.turn_cases now.system.threads.length thread after child other
    · omega
    · rw [turned]
      exact abides.unborn other (by omega)
    · exfalso
      by_cases forks : ∃ work, operation = .fork work
      · obtain ⟨work, rfl⟩ := forks
        simp [Operation.starting] at beyond
        omega
      · rw [turns.alone (not_exists.mp forks)] at begun
        cases begun

/-- The bearings when the program starts: the first thread takes the editor's messages. -/
def start : Bearings := fun thread => if thread = 0 then { watch := .before } else {}

theorem start_eq (thread : Nat) :
    start thread = { watch := if thread = 0 then .before else .none } := by
  by_cases first : thread = 0 <;> simp [start, first]

theorem Sound.start : letter.Sound Letter.start ⟨listening setup tree, {}⟩ [] where
  abides :=
    { bears := by
        intro thread script there
        cases thread with
        | zero =>
          cases there
          exact Program.scriptOf_bears ⟨_, .inl rfl, rfl⟩
        | succ thread => cases there
      unborn := by
        intro thread beyond
        have later : thread ≠ 0 := Nat.ne_of_gt beyond
        simp [start_eq, later]
      tasks := rfl
      forked := rfl }
  locked :=
    { documents := fun _ _ holds => by simp [start_eq, Grip.mode?] at holds
      queue := fun _ holds => by simp [start_eq] at holds
      apart := fun _ member => absurd member List.not_mem_nil }
  seen :=
    { documents := fun _ _ sees => by simp [start_eq, Grip.view?] at sees
      telling := fun _ _ _ tells => by simp [start_eq] at tells
      queue := fun _ _ sees => by simp [start_eq] at sees }
  knows := fun thread => by
    rw [start_eq]
    constructor <;> simp
  grasps := fun thread => by
    rw [start_eq]
    trivial
  follows := fun _ _ _ _ _ _ owned => by cases owned
  watched :=
    { dealt := ⟨[], rfl⟩
      single := fun first second one two => by
        simp only [start_eq] at one two
        split at one <;> split at two <;> simp_all
      before := fun _ _ => Nat.zero_le _
      after := fun thread past => by
        simp only [start_eq] at past
        split at past <;> simp at past
      late := fun _ late => by simp [start_eq] at late
      tasks := fun thread later task => by
        cases thread <;> simp at task }
  lodged :=
    { come := fun thread carries => by
        simp only [start_eq, Bearing.Carries] at carries
        split at carries <;> simp at carries
      kept := fun taken => by cases taken
      cleared := fun _ late => by simp [start_eq] at late }
  registered := fun _ _ there => by cases there

end Letter

/-- At every moment of a story the threads have bearings that tell where they stand towards content
of an event. -/
theorem Story.sound {letter : Letter} {setup : Setup} {tree : FileTree} {now : Moment}
    {past : List Moment} (story : Story setup tree (now :: past)) (comes : letter.Comes now) :
    ∃ bearings, letter.Sound bearings now past := by
  generalize whole : now :: past = moments at story
  induction story generalizing now past with
  | begin =>
    cases whole
    exact ⟨_, .start⟩
  | @step before earlier next thread story moved ih =>
    cases whole
    have precedes := Moment.precedes_step moved
    obtain ⟨bearings, sound⟩ := ih (comes.earlier precedes) rfl
    obtain ⟨outcome, here, rfl⟩ | ⟨operation, onward, world, answer, here, performed, same⟩ :=
      Program.step_cases moved
    · refine ⟨bearings, sound.idle ?_ precedes⟩
      constructor <;> first
        | exact ⟨[], by simp [Chronicle.step, here], by simp [World.waiting]⟩
        | rfl
        | simp [Chronicle.step, here]
    · obtain ⟨due, timely⟩ : ∃ due : Bool, due = true ↔ letter.Due before operation := by
        classical exact ⟨decide (letter.Due before operation), decide_eq_true_iff⟩
      have expects := sound.expects (comes.earlier precedes) performed timely.mp
      obtain ⟨heading, after, child, heads, turns, bears⟩ :=
        sound.abides.bears thread _ here answer due expects
      have chronicle : before.chronicle.step thread before.system next =
          before.chronicle.perform thread operation before.world next.world := by
        rw [Chronicle.step, here]
      have acts : letter.Acts setup.host bearings before
          ⟨next, before.chronicle.step thread before.system next⟩ thread operation answer due
          heading after child :=
        { heads := ⟨onward, here, heads⟩
          performed := ⟨world, performed, by rw [same]; rfl⟩
          turns, timely, chronicle }
      exact ⟨_, sound.act acts story.lasting precedes
        (sound.abides.act here performed turns bears same chronicle)⟩
  | @happen before earlier happening story ih =>
    cases whole
    have precedes := before.precedes_occur happening
    obtain ⟨bearings, sound⟩ := ih (comes.earlier precedes) rfl
    exact ⟨bearings, sound.idle (before.idles_occur happening) precedes⟩

end LanguageBridge

/-!
What a server was told before it is asked about a document: the content that had come by then, or
later content, unless that was lost on the way. Where it gets lost is where the queue is dropped,
where a server is replaced, and where files change their projects.
-/
namespace LanguageBridge

/-- An event brought content for a document, and for an action that came later a server that is
there is about to be asked about the document. -/
structure Moment.Asks (now : Moment) (index : Nat) (content : BufferContent) (uri : Uri)
    (server : ServerId) : Prop where
  event : ∃ message, now.chronicle.arrived[index]? = some message ∧
    Editor.isEvent message.method = true ∧ message.content? = some content
  named : Uri.ofFileName content.file = .ok uri
  action : ∃ (thread later : Nat) (method : String) (params : Json)
    (next : Outcome Nat → Script (Outcome Json)),
    now.chronicle.tasks[thread]? = some (some later) ∧ index < later ∧
      now.system.threads[thread]? = some (.step (.call (.server server) method params) next) ∧
      method ∈ documentRequests ∧ params.AsksAbout uri
  alive : now.world.isAlive (.server server) = true

namespace Letter

/-- A file is tracked for a session at a moment with the lines that a message brought which is not
older than the content. -/
def UpToDate (letter : Letter) (key : SessionKey) (later : Nat) (other : BufferContent)
    (moment : Moment) : Prop :=
  letter.index ≤ later ∧ Carries moment.chronicle later other ∧ other.file = letter.content.file ∧
    ∃ document, letter.document? key moment = some document ∧
      document.lines = other.text.splitLines

/-- A session may be asked about the document: its documents were opened on its server, and after
the content came a file of the document's name belonged to it. -/
structure Concerns (letter : Letter) (moments : List Moment) (session : Session) : Prop where
  opened : ∃ moment ∈ moments, moment.About session.reopenHeld ∧ moment.Introduced session.server
  belongs : ∃ moment ∈ moments, moment.HasCome letter.index ∧ ∃ language file named,
    Uri.ofFileName file = .ok named ∧ named.text = letter.uri.text ∧
      SessionKey.ofFile moment.world.tree language file = .ok session.key

/-- What became of content until the server of a session was asked about its document. -/
inductive Fate (letter : Letter) (moments : List Moment) (session : Session) : Prop
  /-- It was told to the server after it had come, or later content was. -/
  | told {later : Nat} {other : BufferContent} {before after : Moment}
      (newer : letter.index ≤ later) (carries : Carries before.chronicle later other)
      (file : other.file = letter.content.file) (earlier : before ∈ moments)
      (heard : after ∈ moments)
      (tells : before.Tells session.server letter.uri other.text after)
  /-- The document was tracked with it, or with later content, and the server was told of that. -/
  | tracked {later : Nat} {other : BufferContent} {before after : Moment}
      (current : letter.UpToDate session.key later other before) (earlier : before ∈ moments)
      (heard : after ∈ moments) (told : after.Told session.server letter.uri other.text)
  /-- The file belonged to another session at some time. -/
  | moved {moment : Moment} (member : moment ∈ moments) (moved : letter.Moved moment)
  /-- The queue was dropped with it. -/
  | dropped {moment : Moment} (member : moment ∈ moments) (dropped : letter.Dropped moment)
  /-- A text of its lines was brought to another server of the session, although this one had been
  introduced. -/
  | diverted {moment : Moment} (member : moment ∈ moments)
      (diverted : letter.Diverted session letter.content.text.splitLines moment)
  /-- It was brought to another server before this one was introduced, but when the documents were
  opened on this one, the file was tracked neither with it nor with later content. -/
  | missed {other : Session} {before after : Moment} (own : other.key = session.key)
      (apart : other.server ≠ session.server) (earlier : before ∈ moments)
      (handed : letter.Handed other before) (unknown : ¬ before.Introduced session.server)
      (opening : after ∈ moments) (about : after.About session.reopenHeld)
      (introduced : after.Introduced session.server) (come : after.HasCome letter.index)
      (stale : ∀ later other, ¬ letter.UpToDate session.key later other after)

variable {letter : Letter} {bearings : Bearings} {now : Moment} {past : List Moment}
  {session : Session} {setup : Setup} {tree : FileTree} {thread : Nat}

theorem Turns.asks {due : Bool} {bearing after : Bearing} {heading : Heading}
    {operation : Operation} {answer : operation.Answer} {child : Option Bearing}
    {server : ServerId} {method : String} {params : Json}
    (turns : letter.Turns due bearing heading operation answer after child)
    (asks : operation = .call (.server server) method params)
    (document : method ∈ documentRequests) : ∃ session file uri, session.server = server ∧
      bearing.Serves session file ∧ Uri.ofFileName file = .ok uri ∧ params.AsksAbout uri := by
  cases turns with
  | plain plain =>
    subst asks
    exact absurd document plain
  | @ask session file uri _ _ _ serves named about =>
    injection asks with peer same what
    subst what
    exact ⟨session, file, uri, by injection peer, serves, named, about⟩
  | _ => cases asks

/-- A message that has come carries at every later moment what it did. -/
theorem Comes.carries {moment : Moment} (comes : letter.Comes moment)
    (come : moment.HasCome letter.index) :
    Carries moment.chronicle letter.index letter.content :=
  ⟨_, List.getElem?_eq_getElem come, (comes _ (List.getElem?_eq_getElem come)).2⟩

theorem Comes.of_asks {server : ServerId}
    (asks : now.Asks letter.index letter.content letter.uri server) : letter.Comes now := by
  obtain ⟨message, arrived, event, carried⟩ := asks.event
  intro other there
  cases arrived.symm.trans there
  exact ⟨event, carried⟩

section Story

variable (story : Story setup tree (now :: past))
  (alive : now.world.isAlive (.server session.server) = true)

include story alive

theorem not_gone {moment : Moment} (member : moment ∈ now :: past) :
    ¬ moment.Gone session.server := fun gone =>
  absurd (gone.stays (story.lasting moment member)) (by simp [Moment.Gone, alive])

/-- What became of content that was brought to the server itself. -/
theorem Had.fate (comes : letter.Comes now) (own : session.key = letter.key) {other : Session}
    (its : other.key = letter.key) (same : other.server = session.server)
    (had : letter.Had (now :: past) other) : letter.Fate (now :: past) session := by
  have carries {moment : Moment} (member : moment ∈ now :: past)
      (come : moment.HasCome letter.index) :=
    (comes.earlier (story.lasting moment member)).carries come
  obtain ⟨_, brought | kept | diverted⟩ := had
  · rcases brought with ⟨before, member, come, after, among, tells⟩ | ⟨moment, member, gone⟩
    · exact .told (Nat.le_refl _) (carries member (come trivial)) rfl member among (same ▸ tells)
    · exact absurd (same ▸ gone) (not_gone story alive member)
  · obtain ⟨⟨before, member, come, document, tracked, lines⟩, reached⟩ := kept
    rcases reached with ⟨after, among, told⟩ | ⟨moment, among, gone⟩
    · refine .tracked ⟨Nat.le_refl _, carries member come, rfl, document, ?_, lines⟩ member among
        (same ▸ told)
      rw [own, ← its]
      exact tracked
    · exact absurd (same ▸ gone) (not_gone story alive among)
  · obtain ⟨moment, member, introduced, third, text, key, apart, lines, brings⟩ := diverted
    exact .diverted member ⟨same ▸ introduced, third, text, key.trans (its.trans own.symm),
      same ▸ apart, lines, brings⟩

omit alive in
/-- What became of content that was brought to another server of the session. -/
theorem Had.fate_elsewhere (own : session.key = letter.key) {other : Session}
    (its : other.key = letter.key) (apart : other.server ≠ session.server)
    (opened : letter.Opened (now :: past) session) (had : letter.Had (now :: past) other) :
    letter.Fate (now :: past) session := by
  obtain ⟨⟨before, earlier, come, brings⟩, _⟩ := had
  have keys : other.key = session.key := its.trans own.symm
  by_cases known : before.Introduced session.server
  · exact .diverted earlier ⟨known, other, letter.content.text, keys, apart, rfl, brings⟩
  obtain ⟨after, opening, about, introduced, _, told⟩ := opened
  have precedes : before.Precedes after := by
    refine (story.comparable earlier opening).resolve_right fun sooner => ?_
    exact known (introduced.stays sooner)
  by_cases current : ∃ later other, letter.UpToDate session.key later other after
  · obtain ⟨later, newer, current⟩ := current
    obtain ⟨_, _, _, document, tracked, lines⟩ := id current
    obtain ⟨moment, member, heard⟩ := told document tracked
    exact .tracked current opening member (heard.alike (alike_text lines))
  · exact .missed keys apart earlier ⟨come, brings⟩ known opening about introduced
      (come.stays precedes) fun later newer given => current ⟨later, newer, given⟩

end Story

/-- The session whose server is asked about the document by a thread that was started for a message
after the content. -/
theorem asked {server : ServerId} (story : Story setup tree (now :: past))
    (asks : now.Asks letter.index letter.content letter.uri server) :
    ∃ session : Session, session.server = server ∧ letter.Concerns (now :: past) session ∧
      letter.Opened (now :: past) session ∧
      (session.key = letter.key → letter.Over (now :: past)) := by
  obtain ⟨bearings, sound⟩ := story.sound (.of_asks asks)
  obtain ⟨thread, later, method, params, next, task, before, here, document, about⟩ := asks.action
  obtain ⟨_, _, _, _, turns, _⟩ :=
    sound.abides.bears thread _ here (.error .terminated) true trivial
  obtain ⟨session, file, named, own, serves, reads, asked⟩ := turns.asks rfl document
  have late := sound.watched.tasks thread later task before
  have knows := sound.knows thread
  have opened := knows.known session serves.known
  obtain ⟨moment, member, come, language, belongs⟩ := knows.found file session.key serves.found
  have same : named.text = letter.uri.text := by
    obtain ⟨_, one⟩ := asked
    obtain ⟨_, two⟩ := about
    have equal := one.symm.trans two
    simp only [Json.obj.injEq, List.cons.injEq, Prod.mk.injEq, Uri.toJson, Json.str.injEq,
      true_and, and_true] at equal
    exact equal.1
  have begun : ∃ moment ∈ now :: past, moment.About session.reopenHeld ∧
      moment.Introduced session.server := by
    obtain ⟨first, among, opens, introduced, _⟩ := opened
    exact ⟨first, among, opens, introduced⟩
  exact ⟨session, own, ⟨begun, moment, member, come late, language, file, named, reads, same,
    belongs⟩, opened, sound.lodged.cleared thread late session serves.cleared⟩

end Letter

/-- Before a server is asked about a document, it was told of the content that had come for the
document before the action, or of later content: since it came, or because the document is tracked
with it and the server had been told the same. Otherwise the content was lost where the queue was
dropped with it, because its file belonged to another session, because its text went to another
server of the session, or because it had gone to an earlier server and was not tracked any more when
its documents were opened. -/
theorem Story.content_precedes_request {setup : Setup} {tree : FileTree} {now : Moment}
    {past : List Moment} (story : Story setup tree (now :: past)) {index : Nat}
    {content : BufferContent} {uri : Uri} {server : ServerId}
    (asks : now.Asks index content uri server) :
    ∃ session : Session, session.server = server ∧
      (Letter.mk index content uri session.key asks.named).Concerns (now :: past) session ∧
      (Letter.mk index content uri session.key asks.named).Fate (now :: past) session := by
  let place := SessionKey.ofFile now.world.tree content.language content.file
  let letter (key : SessionKey) := Letter.mk index content uri key asks.named
  obtain ⟨session, rfl, concerns, opened, done⟩ :=
    (letter (place.toOption.getD default)).asked story asks
  refine ⟨session, rfl, ⟨concerns.opened, concerns.belongs⟩, ?_⟩
  have comes : (letter session.key).Comes now := .of_asks asks
  by_cases own : place = .ok session.key
  · have key : place.toOption.getD default = session.key := by rw [own]; rfl
    rw [key] at opened done
    rcases done rfl with ⟨moment, member, moved | dropped⟩ | ⟨other, its, had⟩
    · exact .moved member moved
    · exact .dropped member dropped
    · by_cases same : other.server = session.server
      · exact had.fate story asks.alive comes rfl its same
      · exact had.fate_elsewhere story rfl its same opened
  · obtain ⟨message, arrived, _⟩ := asks.event
    exact .moved List.mem_cons_self ⟨(List.getElem?_eq_some_iff.mp arrived).1, own⟩

/-- The server and the method of a request about a document that a script is about to make. -/
def Script.asks? {α : Type} (uri : Uri) : Script α → Option (ServerId × String)
  | .step (.call (.server server) method
      (.obj (("textDocument", .obj [("uri", .str text)]) :: _))) _ =>
    if text = uri.text then some (server, method) else none
  | _ => none

theorem Script.of_asks? {α : Type} {uri : Uri} {script : Script α} {server : ServerId}
    {method : String} (asks : script.asks? uri = some (server, method)) :
    ∃ params next, script = .step (.call (.server server) method params) next ∧
      params.AsksAbout uri := by
  unfold asks? at asks
  split at asks
  · split at asks
    · rename_i same
      cases asks
      exact ⟨_, _, rfl, _, by rw [Uri.toJson, same]⟩
    · cases asks
  · cases asks

/-- A document is opened, and a definition in it asked for, while its server starts; `before`
happens then, and a few steps after `last` the program is about to ask the server. -/
def aboutToLocate (before : List Happening) (last : Happening) (steps : Nat) : Moment :=
  let opening : Message := .notification true "textDocument/didOpen" (Params.ofJson (.obj
    [("text_document", .str "/a.go"), ("language_id", .str "go"), ("text", .str "x")]))
  let locating : Message := .call true (.number 1) "textDocument/definition" (Params.ofJson (.obj
    [("text_document", .str "/a.go"), ("language_id", .str "go"), ("line", .nat 1),
      ("column", .nat 1)]))
  let state := Chronicle.play soleServer steps [last]
    (Chronicle.play soleServer 60
      (.deliver .editor opening :: .deliver .editor locating :: before)
      (listening soleServer ⟨[], []⟩, {}))
  ⟨state.1, state.2⟩

theorem aboutToLocate_possible (before : List Happening) (last : Happening) (steps : Nat) :
    (aboutToLocate before last steps).Possible soleServer ⟨[], []⟩ :=
  Moment.Possible.play (Moment.Possible.play ⟨_, .begin⟩ 60 _) steps [last]

/-- A server's answer to the first request. -/
def accepted (ticket : Nat) : Happening := .answer ticket (.ok (.obj [("capabilities", .obj [])]))

/-- What may be read off such a moment. -/
theorem aboutToLocate_asks {before : List Happening} {last : Happening} {steps : Nat}
    {server : ServerId}
    (arrived : (aboutToLocate before last steps).chronicle.arrived.map
        (fun message => (message.method, message.content?)) =
      [("textDocument/didOpen", some ⟨"/a.go", ['x'], "go"⟩), ("textDocument/definition", none)])
    (action : (aboutToLocate before last steps).chronicle.tasks[4]? = some (some 1) ∧
      ((aboutToLocate before last steps).system.threads[4]?).bind
          (·.asks? (.ofPath "/a.go".toList)) = some (server, "textDocument/definition") ∧
      (aboutToLocate before last steps).world.isAlive (.server server) = true) :
    (aboutToLocate before last steps).Asks 0 ⟨"/a.go", ['x'], "go"⟩ (.ofPath "/a.go".toList)
      server := by
  obtain ⟨task, asks, alive⟩ := action
  obtain ⟨script, there, asks⟩ := Option.bind_eq_some_iff.mp asks
  obtain ⟨params, next, rfl, about⟩ := Script.of_asks? asks
  refine ⟨?_, by decide +kernel, ⟨4, 1, _, params, next, task, by decide, there, by decide, about⟩,
    alive⟩
  have first := congrArg (·[0]?) arrived
  simp only [List.getElem?_map, List.getElem?_cons_zero] at first
  obtain ⟨message, here, same⟩ := Option.map_eq_some_iff.mp first
  obtain ⟨method, carried⟩ := Prod.mk.inj same
  exact ⟨message, here, by rw [method]; decide, carried⟩

/-- A definition is asked for in a document that was opened while its server started. -/
theorem definition_after_start : ∃ (now : Moment) (past : List Moment) (session : Session)
    (asks : now.Asks 0 ⟨"/a.go", ['x'], "go"⟩ (.ofPath "/a.go".toList) ⟨"go", 1⟩),
    Story soleServer ⟨[], []⟩ (now :: past) ∧ session.server = ⟨"go", 1⟩ ∧
      (Letter.mk 0 ⟨"/a.go", ['x'], "go"⟩ _ session.key asks.named).Fate (now :: past)
        session := by
  obtain ⟨past, story⟩ := aboutToLocate_possible [] (accepted 0) 25
  have asks := @aboutToLocate_asks [] (accepted 0) 25 ⟨"go", 1⟩ (by decide +kernel)
    (by decide +kernel)
  obtain ⟨session, own, _, fate⟩ := story.content_precedes_request asks
  exact ⟨_, past, session, asks, story, own, fate⟩

/-- When a server's start fails, a request that starts it again reaches the new server although the
document that came before was never told to it. -/
theorem definition_overtakes_document :
    ¬ ∀ (setup : Setup) (tree : FileTree) (now : Moment) (past : List Moment) (index : Nat)
      (content : BufferContent) (uri : Uri) (server : ServerId),
      Story setup tree (now :: past) → now.Asks index content uri server →
      (∀ message ∈ now.chronicle.arrived, message.method ≠ "textDocument/didClose") →
      ∃ newer other, index ≤ newer ∧ Carries now.chronicle newer other ∧
        other.file = content.file ∧ now.Told server uri other.text := by
  intro claimed
  let failed : Happening := .answer 0 (.error (.remote (-32603) "boom"))
  let now := aboutToLocate [failed] (accepted 1) 11
  obtain ⟨past, story⟩ := aboutToLocate_possible [failed] (accepted 1) 11
  have arrived : now.chronicle.arrived.map (fun message => (message.method, message.content?)) =
      [("textDocument/didOpen", some ⟨"/a.go", ['x'], "go"⟩),
        ("textDocument/definition", none)] := by decide +kernel
  have asks := @aboutToLocate_asks [failed] (accepted 1) 11 ⟨"go", 2⟩ arrived (by decide +kernel)
  have opens : ∀ message ∈ now.chronicle.arrived, message.method ≠ "textDocument/didClose" := by
    decide +kernel
  have silent : now.world.noticesTo ⟨"go", 2⟩ = [] := by decide +kernel
  obtain ⟨_, _, _, _, _, notice, told, _⟩ := claimed _ _ now past _ _ _ _ story asks opens
  rw [silent] at told
  cases told

end LanguageBridge
