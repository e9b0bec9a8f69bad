import LanguageBridge.Program
import LanguageBridge.Rpc.Frame

/-!
The program at the editor's end of its connection: bytes come in, are taken apart into frames, and
each frame's message is given to the threads, which run until all of them wait again.
-/
namespace LanguageBridge

/-- The program while it listens to the editor. `unread` are bytes that hold no whole frame yet;
once the input is `closed`, nothing more is taken. -/
structure Serving where
  setup : Setup := {}
  system : System := {}
  unread : List UInt8 := []
  closed : Bool := false

/-- The messages of what was said to a peer; its calls are numbered from `calls` on. -/
def messagesTo (peer : Peer) (calls : Nat) : List Sent → List Message
  | [] => []
  | .call other _ method params :: rest =>
    if other = peer then
      .call true (.number calls) method params :: messagesTo peer (calls + 1) rest
    else messagesTo peer calls rest
  | .notification other method params :: rest =>
    if other = peer then .notification true method params :: messagesTo peer calls rest
    else messagesTo peer calls rest
  | .reply other id result :: rest =>
    if other = peer then .response (.success true id result) :: messagesTo peer calls rest
    else messagesTo peer calls rest

/-- The tickets of the calls made to a peer, in the order of their numbers. -/
def ticketsTo (peer : Peer) (sent : List Sent) : List Nat :=
  sent.filterMap fun
    | .call other ticket _ _ => if other = peer then some ticket else none
    | _ => none

namespace Serving

/-- The program once it listens. -/
def begin (setup : Setup) (tree : FileTree) : Serving :=
  let world : World := { tree }
  let system := (({ world } : System).start (Program.scriptOf setup .serveEditor)).1
  { setup, system := Program.settle setup system }

/-- All that has been written to the editor. -/
def messages (serving : Serving) : List Message :=
  messagesTo .editor 0 serving.system.world.traffic

/-- Something happens, and the threads run on. -/
def occur (serving : Serving) (happening : Happening) : Serving :=
  { serving with system := Program.settle serving.setup (serving.system.occur happening) }

/-- Gives a response to the call of its number; one without a call is dropped. -/
def answer (serving : Serving) (response : Response) : Serving :=
  match response.id with
  | .number index =>
    match (ticketsTo .editor serving.system.world.traffic)[index]? with
    | some ticket => serving.occur (.answer ticket response.outcome)
    | none => serving
  | _ => serving

/-- Takes the body of a frame; one that is no message is dropped. -/
def take (serving : Serving) (body : String) : Serving :=
  match Message.ofText body with
  | .error _ => serving
  | .ok (.response response) => serving.answer response
  | .ok message => serving.occur (.deliver .editor message)

/-- The calls of the editor or a server that wait for their answers. -/
def unanswered (serving : Serving) (peer : Peer) : List Nat :=
  (ticketsTo peer serving.system.world.traffic).filter fun ticket =>
    !serving.system.world.answers.contains ticket

/-- A peer has gone, and the calls that wait for it fail. -/
def lose (serving : Serving) (peer : Peer) : Serving :=
  (serving.unanswered peer).foldl
    (fun serving ticket => serving.occur (.answer ticket (.error .terminated)))
    { serving with system := serving.system.occur (.disconnect peer) }

/-- The editor has gone: what waits for it fails, and the program ends its work. -/
def finish (serving : Serving) : Serving :=
  { (serving.lose .editor).occur (.endInput .editor) with unread := [], closed := true }

/-- Takes the frames that have come, at most `count`; a fault in one ends the input. -/
def takeFrames (ended : Bool) : Nat → Serving → Serving
  | 0, serving => serving
  | count + 1, serving =>
    match Frame.read ended serving.unread with
    | .body text rest => takeFrames ended count (take { serving with unread := rest } text)
    | .starved => serving
    | .ended | .failed _ => serving.finish

/-- Takes more bytes of the input. -/
def feed (serving : Serving) (bytes : List UInt8) : Serving :=
  if serving.closed then serving
  else
    let unread := serving.unread ++ bytes
    takeFrames false (unread.length + 1) { serving with unread }

/-- The input has come to its end. -/
def close (serving : Serving) : Serving :=
  if serving.closed then serving else takeFrames true (serving.unread.length + 1) serving

end Serving

end LanguageBridge
