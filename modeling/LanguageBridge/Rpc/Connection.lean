import LanguageBridge.Rpc.Frame
import LanguageBridge.Rpc.Pending

/-!
A connection as threads that take turns: callers, one reader and one writer. A caller takes an id,
registers it with the reader, looks whether the connection is alive, hands its message to the writer
and waits. The reader takes in registrations only when a response has come, and when input ends it
marks the connection dead and fails everybody it knows of. The writer marks it dead when it cannot
write.
-/
namespace LanguageBridge

/-- What has come for a caller: nothing yet, a response, or the news that none will come. -/
inductive Mail
  | awaited
  | given (response : Response)
  | abandoned
  deriving Repr

/-- What a caller does next; one that waits for no response has no id. -/
inductive CallerPhase
  | numbering (method : String) (params : Params)
  | registering (id : Nat) (message : Message)
  | checking (id : Option Nat) (message : Message)
  | sending (id : Option Nat) (message : Message)
  | waiting (id : Nat)
  | finished (outcome : Outcome Json)

/-- A caller and its mail. -/
structure Caller where
  phase : CallerPhase
  mail : Mail := .awaited

/-- What the reader does next. -/
inductive ReaderPhase
  | reading
  | answering (response : Response)
  | stopping
  | failing
  | closing
  | stopped

/-- What the writer does next. -/
inductive WriterPhase
  | writing
  | stopping
  | stopped
  deriving DecidableEq, Repr

/-- The state of a connection. `incoming` holds bytes that have come and were not read, `written`
the bodies that the other side has got, and `broken` says that it takes no more. -/
structure Connection where
  nextId : Nat := 0
  alive : Bool := true
  callers : List Caller := []
  registrations : List (Nat × Nat) := []
  pending : Pending Nat := .empty
  reader : ReaderPhase := .reading
  writer : WriterPhase := .writing
  outgoing : List Message := []
  written : List String := []
  broken : Bool := false
  incoming : List UInt8 := []
  ended : Bool := false
  inbound : List Message := []

namespace Connection

instance : Inhabited Connection := ⟨{}⟩

/-- The threads of a connection. -/
inductive Thread
  | caller (index : Nat)
  | reader
  | writer
  deriving DecidableEq, Repr

/-- What the surroundings do: a caller begins, bytes come in, input ends, output breaks, or somebody
takes the first message that came in. -/
inductive Event
  | call (method : String) (params : Params)
  | post (message : Message)
  | receive (bytes : List UInt8)
  | endInput
  | breakOutput
  | takeInbound

/-- Changes one caller. -/
def setCaller (connection : Connection) (index : Nat) (change : Caller → Caller) : Connection :=
  { connection with callers := connection.callers.modify index change }

/-- Moves a caller to its next phase. -/
def move (connection : Connection) (index : Nat) (phase : CallerPhase) : Connection :=
  connection.setCaller index fun caller => { caller with phase }

/-- Puts mail for a caller in its place. -/
def deliver (connection : Connection) (index : Nat) (mail : Mail) : Connection :=
  connection.setCaller index fun caller => { caller with mail }

/-- Whether the reader still takes registrations. -/
def takesRegistrations (connection : Connection) : Bool :=
  match connection.reader with
  | .stopped => false
  | _ => true

/-- One step of a caller. -/
def stepCaller (index : Nat) (caller : Caller) (connection : Connection) : Option Connection :=
  match caller.phase with
  | .numbering method params =>
    let id := connection.nextId
    some (({ connection with nextId := id + 1 } : Connection).move index
      (.registering id (.call true (.number id) method params)))
  | .registering id message =>
    if connection.takesRegistrations then
      some (({ connection with
        registrations := connection.registrations ++ [(id, index)] } : Connection).move index
        (.checking (some id) message))
    else some (connection.move index (.finished (.error .terminated)))
  | .checking id message =>
    if connection.alive then some (connection.move index (.sending id message))
    else some (connection.move index (.finished (.error .terminated)))
  | .sending id message =>
    if connection.writer = .writing then
      let phase : CallerPhase :=
        match id with
        | some id => .waiting id
        | none => .finished (.ok .null)
      some (({ connection with outgoing := connection.outgoing ++ [message] } : Connection).move
        index phase)
    else some (connection.move index (.finished (.error .terminated)))
  | .waiting _ =>
    match caller.mail with
    | .awaited => none
    | .given response => some (connection.move index (.finished response.outcome))
    | .abandoned => some (connection.move index (.finished (.error .terminated)))
  | .finished _ => none

/-- Takes in the oldest registration; one whose id is in flight already is abandoned. -/
def takeRegistration (connection : Connection) (id index : Nat) (rest : List (Nat × Nat)) :
    Connection :=
  let connection := { connection with registrations := rest }
  match connection.pending.insert (.number id) index with
  | .ok pending => { connection with pending }
  | .error _ => connection.deliver index .abandoned

/-- Hands a response to the caller it is for; one that nobody waits for is dropped. -/
def answer (connection : Connection) (response : Response) : Connection :=
  match connection.pending.resolve response with
  | .ok (pending, index) =>
    ({ connection with pending } : Connection).deliver index (.given response)
  | .error _ => connection

/-- Fails every request in flight. -/
def failPending (connection : Connection) : Connection :=
  let (pending, given) := connection.pending.failAll
  given.foldl (fun connection entry => connection.deliver entry.1 (.given entry.2))
    { connection with pending }

/-- Abandons the callers whose registrations were never taken in. -/
def abandonRegistrations (connection : Connection) : Connection :=
  connection.registrations.foldl (fun connection entry => connection.deliver entry.2 .abandoned)
    { connection with registrations := [] }

/-- What the reader does with the body of a frame; one that is no message is dropped. -/
def readBody (connection : Connection) (body : String) : Connection :=
  match Message.ofText body with
  | .ok (.response response) => { connection with reader := .answering response }
  | .ok message => { connection with inbound := connection.inbound ++ [message] }
  | .error _ => connection

/-- One step of the reader. -/
def stepReader (connection : Connection) : Option Connection :=
  match connection.reader with
  | .reading =>
    match Frame.read connection.ended connection.incoming with
    | .body body rest => some (({ connection with incoming := rest } : Connection).readBody body)
    | .ended | .failed _ => some { connection with reader := .stopping }
    | .starved => none
  | .answering response =>
    match connection.registrations with
    | (id, index) :: rest => some (connection.takeRegistration id index rest)
    | [] => some { connection.answer response with reader := .reading }
  | .stopping => some { connection with alive := false, reader := .failing }
  | .failing =>
    match connection.registrations with
    | (id, index) :: rest => some (connection.takeRegistration id index rest)
    | [] => some { connection.failPending with reader := .closing }
  | .closing => some { connection.abandonRegistrations with reader := .stopped }
  | .stopped => none

/-- One step of the writer. -/
def stepWriter (connection : Connection) : Option Connection :=
  match connection.writer with
  | .writing =>
    match connection.outgoing with
    | [] => none
    | message :: rest =>
      if connection.broken then some { connection with outgoing := [], writer := .stopping }
      else
        some { connection with outgoing := rest, written := connection.written ++ [message.text] }
  | .stopping => some { connection with alive := false, writer := .stopped }
  | .stopped => none

/-- One step of a thread, if it can take one. -/
def step (thread : Thread) (connection : Connection) : Option Connection :=
  match thread with
  | .caller index =>
    match connection.callers[index]? with
    | some caller => connection.stepCaller index caller
    | none => none
  | .reader => connection.stepReader
  | .writer => connection.stepWriter

/-- What the surroundings do. -/
def occur (event : Event) (connection : Connection) : Connection :=
  match event with
  | .call method params =>
    { connection with callers := connection.callers ++ [{ phase := .numbering method params }] }
  | .post message =>
    { connection with callers := connection.callers ++ [{ phase := .checking none message }] }
  | .receive bytes => { connection with incoming := connection.incoming ++ bytes }
  | .endInput => { connection with ended := true }
  | .breakOutput => { connection with broken := true }
  | .takeInbound => { connection with inbound := connection.inbound.tail }

/-- The threads there are, in the order in which they take turns here. -/
def threads (connection : Connection) : List Thread :=
  (List.range connection.callers.length).map .caller ++ [.writer, .reader]

/-- A step of the first thread that can take one. -/
def stepFirst (connection : Connection) : Option Connection :=
  connection.threads.findSome? fun thread => connection.step thread

/-- Lets threads take steps until none can, or until the steps are used up. -/
def settleWithin : Nat → Connection → Connection
  | 0, connection => connection
  | steps + 1, connection =>
    match connection.stepFirst with
    | some next => settleWithin steps next
    | none => connection

/-- More steps than the threads can take before something new comes in. -/
def stepBound (connection : Connection) : Nat :=
  8 * (connection.callers.length + 1) * (connection.incoming.length + 2) +
    2 * connection.outgoing.length

/-- Lets the threads take steps until none can. -/
def settle (connection : Connection) : Connection :=
  settleWithin connection.stepBound connection

end Connection

end LanguageBridge
