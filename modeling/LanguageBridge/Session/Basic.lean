import LanguageBridge.Json.Basic
import LanguageBridge.Rpc.Message
import LanguageBridge.SessionKey

/-!
Sessions, the two sides that the program talks to, and what it says to them.
-/
namespace LanguageBridge

/-- A server among those started for its language, counted from one. -/
structure ServerId where
  language : String
  number : Nat
  deriving DecidableEq, Repr, Inhabited

/-- Somebody the program talks to. -/
inductive Peer
  | editor
  | server (id : ServerId)
  deriving DecidableEq, Repr, Inhabited

/-- A server in use: what it is for, what it can do, and whether its process is ours to end. -/
structure Session where
  key : SessionKey
  server : ServerId
  capabilities : Json := .obj []
  ownsProcess : Bool := false
  deriving Repr, Inhabited

/-- The server of a session as somebody to talk to. -/
def Session.peer (session : Session) : Peer := .server session.server

/-- Something that was said to a peer; a call has a ticket, under which its answer comes. -/
inductive Sent
  | call (peer : Peer) (ticket : Nat) (method : String) (params : Params)
  | notification (peer : Peer) (method : String) (params : Params)
  | reply (peer : Peer) (id : RequestId) (result : Json)
  deriving Repr

namespace Sent

def peer : Sent → Peer
  | .call peer .. => peer
  | .notification peer .. => peer
  | .reply peer .. => peer

end Sent

end LanguageBridge
