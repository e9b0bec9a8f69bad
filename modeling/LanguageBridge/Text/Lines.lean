import LanguageBridge.Text.Basic

/-!
Lines of a text. A line ends at a line feed, and one carriage return before it belongs to the line
end; joining puts line feeds between lines.
-/
namespace LanguageBridge.Text

/-- The pieces between line feeds. -/
def pieces : Text → List Text
  | [] => [[]]
  | c :: rest =>
    if c = '\n' then [] :: pieces rest
    else
      match pieces rest with
      | [] => [[c]]
      | piece :: others => (c :: piece) :: others

/-- Drops one carriage return at the end. -/
def dropReturn : Text → Text
  | [] => []
  | [c] => if c = '\r' then [] else [c]
  | c :: rest => c :: dropReturn rest

/-- The lines of a text, without their line ends. -/
def splitLines (text : Text) : List Text := (pieces text).map dropReturn

/-- Lines as one text, line feeds between them. -/
def joinLines : List Text → Text
  | [] => []
  | [line] => line
  | line :: rest => line ++ '\n' :: joinLines rest

/-- Drops one line feed at the end. -/
def dropFeed : Text → Text
  | [] => []
  | [c] => if c = '\n' then [] else [c]
  | c :: rest => c :: dropFeed rest

/-- The lines of a file as an editor shows them: the last line feed begins no line. -/
def fileLines (text : Text) : List Text := splitLines (dropFeed text)

end LanguageBridge.Text
