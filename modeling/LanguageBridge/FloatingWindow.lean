import LanguageBridge.Position

/-!
The life of the window that floats hover answers. The window itself is the editor's: every change
of state gives the effects that the editor has to carry out.
-/
namespace LanguageBridge

/-- The buffer and window of a floating preview. -/
structure Surface where
  buffer : Nat
  window : Nat
  deriving DecidableEq, Repr

/-- Where the cursor stood when the preview was asked for. -/
structure Anchor where
  buffer : Nat
  window : Nat
  position : EditorPosition
  deriving DecidableEq, Repr

/-- What the editor tells about cursor, buffers and windows. -/
inductive FloatEvent
  | cursorMoved (buffer window : Nat) (position : EditorPosition)
  | bufferEntered (buffer window : Nat)
  | windowClosed (window : Nat)
  deriving DecidableEq, Repr

/-- What the editor has to do: close a window with its buffer, wipe a buffer whose window is gone,
or move the cursor into a window. -/
inductive FloatEffect
  | destroy (surface : Surface)
  | wipe (buffer : Nat)
  | focus (window : Nat)
  deriving DecidableEq, Repr

/-- Whether a preview floats, and where. -/
inductive FloatingWindow
  | closed
  | shown (anchor : Anchor) (surface : Surface)
  deriving DecidableEq, Repr, Inhabited

def Surface.toJson (surface : Surface) : Json :=
  .obj [("bufnr", .nat surface.buffer), ("winid", .nat surface.window)]

def Surface.read : Json → Shaped Surface :=
  (mk <$> .required "bufnr" Json.readNat64 <*> .required "winid" Json.readNat64 :
    Record Surface).read "struct Surface"

namespace FloatingWindow

def isShown : FloatingWindow → Bool
  | .shown .. => true
  | .closed => false

/-- Records a new preview; the one before it is destroyed. -/
def reveal (window : FloatingWindow) (anchor : Anchor) (surface : Surface) :
    FloatingWindow × List FloatEffect :=
  match window with
  | .shown _ previous => (.shown anchor surface, [.destroy previous])
  | .closed => (.shown anchor surface, [])

/-- What another hover in a buffer does while a preview floats: from the anchor it goes into the
preview, inside the preview nothing; `none` when the server has to be asked. -/
def hoverAgain (window : FloatingWindow) (buffer : Nat) : Option (List FloatEffect) :=
  match window with
  | .shown anchor surface =>
    if anchor.buffer = buffer then some [.focus surface.window]
    else if surface.buffer = buffer then some []
    else none
  | .closed => none

/-- The effects by which an event ends a preview, none when it goes on. -/
def effectsOf (anchor : Anchor) (surface : Surface) : FloatEvent → List FloatEffect
  | .cursorMoved buffer _ position =>
    if buffer = anchor.buffer ∧ position ≠ anchor.position then [.destroy surface] else []
  | .bufferEntered buffer window =>
    if buffer = surface.buffer ∨ window = surface.window then []
    else if buffer ≠ anchor.buffer ∨ window ≠ anchor.window then [.destroy surface]
    else []
  | .windowClosed window =>
    if window = surface.window then [.wipe surface.buffer, .focus anchor.window] else []

/-- Takes in an event; a preview that has effects to carry out is over. -/
def handle (window : FloatingWindow) (event : FloatEvent) : FloatingWindow × List FloatEffect :=
  match window with
  | .closed => (.closed, [])
  | .shown anchor surface =>
    match effectsOf anchor surface event with
    | [] => (.shown anchor surface, [])
    | effects => (.closed, effects)

end FloatingWindow

end LanguageBridge
