import LanguageBridge.Host
import LanguageBridge.Script.Basic

/-!
What a job is about: the session it may use, the file and language it concerns, and the buffer and
window of the editor it came from.
-/
namespace LanguageBridge

/-- What never changes while the program runs: its settings and the machine it runs on. -/
structure Setup where
  settings : Settings := {}
  host : Host := {}
  deriving Repr

/-- What a job is about. -/
structure Context where
  session : Option Session := none
  language : String := ""
  file : String := ""
  buffer : Nat := 0
  window : Nat := 0
  deriving Repr, Inhabited

namespace Context

/-- The context of work for a session. -/
def ofSession (session : Session) : Context where
  session := some session
  language := session.key.language

/-- The context of work at a cursor, without a session. -/
def ofCursor (cursor : CursorPlace) : Context where
  language := cursor.language
  file := cursor.file
  buffer := cursor.buffer
  window := cursor.window

/-- The session of a context; without one its language has no server. -/
def attached (context : Context) : Job Session :=
  match context.session with
  | some session => return session
  | none => throw (.unavailable context.language "no session attached")

end Context

end LanguageBridge
