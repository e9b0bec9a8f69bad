import LanguageBridge.SessionKey
import LanguageBridge.Text.Lines

/-!
One document as the servers know it: the session it belongs to, its lines and how often they
changed.
-/
namespace LanguageBridge

/-- A tracked document; `dirty` says that it changed since it was last saved. -/
structure Document where
  session : SessionKey
  version : Nat
  lines : List Text
  dirty : Bool
  deriving DecidableEq, Repr

namespace Document

/-- A document on first sight. -/
def ofText (session : SessionKey) (text : Text) : Document where
  session := session
  version := 0
  lines := text.splitLines
  dirty := false

/-- The lines as one text. -/
def text (document : Document) : Text := Text.joinLines document.lines

/-- One line, counted from zero. -/
def line? (document : Document) (index : Nat) : Option Text := document.lines[index]?

/-- Takes over new content; the version moves only when a line differs, and is given when it
moved. -/
def update (document : Document) (text : Text) : Document × Option Nat :=
  if text.splitLines = document.lines then (document, none)
  else
    ({ document with
        lines := text.splitLines
        version := document.version + 1
        dirty := true },
      some (document.version + 1))

theorem lines_update (document : Document) (text : Text) :
    (document.update text).1.lines = text.splitLines := by
  unfold update
  split
  · rename_i same
    exact same.symm
  · rfl

theorem session_update (document : Document) (text : Text) :
    (document.update text).1.session = document.session := by
  unfold update
  split <;> rfl

theorem update_of_ne {document : Document} {text : Text}
    (differs : text.splitLines ≠ document.lines) :
    (document.update text).1 =
      { document with
        lines := text.splitLines, version := document.version + 1, dirty := true } := by
  simp [update, differs]

theorem update_eq_self_iff (document : Document) (text : Text) :
    document.update text = (document, none) ↔ text.splitLines = document.lines := by
  by_cases same : text.splitLines = document.lines <;> simp [update, same]

end Document

end LanguageBridge
