import LanguageBridge.Text.Basic

/-!
White space of every script, and trimming it off the ends of a text.
-/
namespace LanguageBridge.Text

/-- Whether a character is white space. -/
def isBlank (c : Char) : Bool :=
  c = ' ' || (9 ≤ c.toNat && c.toNat ≤ 13) || c.toNat = 0x85 || c.toNat = 0xA0 ||
  c.toNat = 0x1680 || (0x2000 ≤ c.toNat && c.toNat ≤ 0x200A) || c.toNat = 0x2028 ||
  c.toNat = 0x2029 || c.toNat = 0x202F || c.toNat = 0x205F || c.toNat = 0x3000

/-- Drops white space at the front. -/
def trimStart (text : Text) : Text := text.dropWhile isBlank

/-- Drops white space at the end. -/
def trimEnd (text : Text) : Text := (text.reverse.dropWhile isBlank).reverse

/-- Drops white space at both ends. -/
def trim (text : Text) : Text := trimEnd (trimStart text)

/-- The runs of characters between white space; `word` is the run being read. -/
def wordsFrom (word : Text) : Text → List Text
  | [] => if word.isEmpty then [] else [word]
  | c :: rest =>
    if isBlank c then
      if word.isEmpty then wordsFrom [] rest else word :: wordsFrom [] rest
    else wordsFrom (word ++ [c]) rest

/-- The words of a text. -/
def words (text : Text) : List Text := wordsFrom [] text

end LanguageBridge.Text
