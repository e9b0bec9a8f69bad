import LanguageBridge.Json.Parser
import LanguageBridge.Json.Printer

/-!
String literals read back: every character of a literal is read as itself, whatever follows the
literal.
-/
namespace LanguageBridge.Json

theorem hexValue?_hexDigit {value : Nat} (small : value < 16) :
    hexValue? (hexDigit value) = some value := by
  have all : ∀ digit : Fin 16, hexValue? (hexDigit digit) = some digit.val := by decide
  exact all ⟨value, small⟩

/-- A unit that is no half of a pair is a character, whatever follows. -/
theorem textOf?_unit {value : Nat} (small : value < 0xD800) (rest : List Piece) :
    textOf? (.unit value :: rest) = (textOf? rest).map (Char.ofNat value :: ·) := by
  have high : isHighSurrogate value = false := by
    simp only [isHighSurrogate, Bool.and_eq_false_iff, decide_eq_false_iff_not]
    omega
  have low : isLowSurrogate value = false := by
    simp only [isLowSurrogate, Bool.and_eq_false_iff, decide_eq_false_iff_not]
    omega
  cases rest with
  | nil => simp [textOf?, high, low]
  | cons piece rest => cases piece <;> simp [textOf?, high, low]

/-- The characters that a letter behind a backslash stands for, each with its letter. -/
def letters : List (Char × Char) :=
  [('"', '"'), ('\\', '\\'), ('\x08', 'b'), ('\x0c', 'f'), ('\n', 'n'), ('\r', 'r'), ('\t', 't')]

/-- How a character stands in a literal: as a letter behind a backslash, as a unit, or as itself. -/
theorem escaped_cases (c : Char) :
    (∃ letter, letter ≠ 'u' ∧ escapedLetter? letter = some c ∧ escaped c = ['\\', letter]) ∨
      (c.toNat < 32 ∧ escaped c =
        ['\\', 'u', '0', '0', hexDigit (c.toNat / 16), hexDigit (c.toNat % 16)]) ∨
      (32 ≤ c.toNat ∧ c ≠ '"' ∧ c ≠ '\\' ∧ escaped c = [c]) := by
  by_cases special : ∃ letter, (c, letter) ∈ letters
  · obtain ⟨letter, member⟩ := special
    have all : ∀ entry ∈ letters, entry.2 ≠ 'u' ∧ escapedLetter? entry.2 = some entry.1 ∧
        escaped entry.1 = ['\\', entry.2] := by decide
    exact .inl ⟨letter, all _ member⟩
  · simp only [letters, List.mem_cons, Prod.mk.injEq, List.not_mem_nil, or_false, not_exists,
      not_or, not_and] at special
    have other (d e : Char) (apart : ∀ letter, c = d → letter ≠ e) : c ≠ d :=
      fun same => apart e same rfl
    have quote := other '"' _ fun letter => (special letter).1
    have backslash := other '\\' _ fun letter => (special letter).2.1
    have back := other '\x08' _ fun letter => (special letter).2.2.1
    have form := other '\x0c' _ fun letter => (special letter).2.2.2.1
    have feed := other '\n' _ fun letter => (special letter).2.2.2.2.1
    have turn := other '\r' _ fun letter => (special letter).2.2.2.2.2.1
    have tab := other '\t' _ fun letter => (special letter).2.2.2.2.2.2
    simp only [escaped, quote, backslash, back, form, feed, turn, tab, if_false]
    by_cases control : c.toNat < 32
    · exact .inr (.inl ⟨control, if_pos control⟩)
    · exact .inr (.inr ⟨by omega, quote, backslash, if_neg control⟩)

/-- One character of a literal is read in one turn, as a piece that stands for it. -/
theorem stringBody?_escaped (c : Char) : ∃ piece,
    (∀ pieces text, textOf? pieces = some text → textOf? (piece :: pieces) = some (c :: text)) ∧
      ∀ fuel input pieces rest, stringBody? fuel input = some (pieces, rest) →
        stringBody? (fuel + 1) (escaped c ++ input) = some (piece :: pieces, rest) := by
  rcases escaped_cases c with ⟨letter, other, known, same⟩ | ⟨small, same⟩ |
    ⟨large, quote, backslash, same⟩
  · refine ⟨.char c, fun pieces text read => by simp [textOf?, read], ?_⟩
    intro fuel input pieces rest read
    simp [same, stringBody?, known, read]
  · have high : hexValue? (hexDigit (c.toNat / 16)) = some (c.toNat / 16) :=
      hexValue?_hexDigit (by omega)
    have low : hexValue? (hexDigit (c.toNat % 16)) = some (c.toNat % 16) :=
      hexValue?_hexDigit (by omega)
    have zero : hexValue? '0' = some 0 := by decide
    have whole : c.toNat / 16 * 16 + c.toNat % 16 = c.toNat := by omega
    refine ⟨.unit c.toNat, fun pieces text read => ?_, ?_⟩
    · rw [textOf?_unit (by omega), read, Option.map_some, Char.ofNat_toNat]
    · intro fuel input pieces rest read
      simp [same, stringBody?, hexQuad?, high, low, zero, whole, read]
  · refine ⟨.char c, fun pieces text read => by simp [textOf?, read], ?_⟩
    intro fuel input pieces rest read
    simp [same, stringBody?, backslash, Nat.not_lt.mpr large, read]

/-- A literal is read back behind its opening quote. -/
theorem stringBody?_literal (text rest : List Char) {fuel : Nat} (enough : text.length < fuel) :
    ∃ pieces, stringBody? fuel (text.flatMap escaped ++ '"' :: rest) = some (pieces, rest) ∧
      textOf? pieces = some text := by
  induction text generalizing fuel with
  | nil =>
    obtain ⟨fuel, rfl⟩ : ∃ more, fuel = more + 1 := ⟨fuel - 1, by omega⟩
    exact ⟨[], by simp [stringBody?], rfl⟩
  | cons c text ih =>
    obtain ⟨fuel, rfl⟩ : ∃ more, fuel = more + 1 := ⟨fuel - 1, by omega⟩
    obtain ⟨pieces, read, same⟩ := ih (by simpa using enough)
    obtain ⟨piece, stands, turn⟩ := stringBody?_escaped c
    refine ⟨piece :: pieces, ?_, stands _ _ same⟩
    rw [List.flatMap_cons, List.append_assoc]
    exact turn _ _ _ _ read

theorem length_le_flatMap_escaped (text : List Char) :
    text.length ≤ (text.flatMap escaped).length := by
  induction text with
  | nil => exact Nat.le_refl _
  | cons c text ih =>
    have some : 0 < (escaped c).length := by
      rcases escaped_cases c with ⟨_, _, _, same⟩ | ⟨_, same⟩ | ⟨_, _, _, same⟩ <;> simp [same]
    rw [List.flatMap_cons, List.length_append, List.length_cons]
    omega

end LanguageBridge.Json

/-!
Numerals read back. A numeral ends where something follows that belongs to no numeral.
-/
namespace LanguageBridge.Json

/-- What may follow a value inside of another: a comma, or a bracket or brace that closes. -/
def Follows (rest : List Char) : Prop := ∀ c ∈ rest.head?, c = ',' ∨ c = ']' ∨ c = '}'

variable {input rest : List Char}

theorem takeDigits_append (follows : Follows rest) :
    takeDigits (input ++ rest) = takeDigits input := by
  induction input with
  | nil =>
    cases rest with
    | nil => rfl
    | cons c rest => rcases follows c rfl with rfl | rfl | rfl <;> rfl
  | cons c input ih =>
    simp only [takeDigits, List.cons_append, List.takeWhile_cons] at ih ⊢
    rw [ih]

theorem drop_takeDigits_append (input rest : List Char) :
    (input ++ rest).drop (takeDigits input).length =
      input.drop (takeDigits input).length ++ rest :=
  List.drop_append_of_le_length (List.takeWhile_prefix _).length_le

theorem takeSign_append (some : takeDigits (takeSign input).2 ≠ []) :
    takeSign (input ++ rest) = ((takeSign input).1, (takeSign input).2 ++ rest) := by
  cases input with
  | nil => exact absurd rfl some
  | cons c input =>
    by_cases minus : c = '-'
    · subst minus
      rfl
    · simp [takeSign, minus]

theorem takeFraction?_append (follows : Follows rest) {fraction left : List Char}
    (read : takeFraction? input = some (fraction, left)) :
    takeFraction? (input ++ rest) = some (fraction, left ++ rest) := by
  cases input with
  | nil =>
    obtain ⟨rfl, rfl⟩ := Prod.mk.inj (Option.some.inj read)
    cases rest with
    | nil => rfl
    | cons c rest => rcases follows c rfl with rfl | rfl | rfl <;> rfl
  | cons c input =>
    by_cases point : c = '.'
    · subst point
      simp only [takeFraction?, List.cons_append, takeDigits_append follows,
        drop_takeDigits_append] at read ⊢
      split at read
      · cases read
      · rename_i some
        obtain ⟨rfl, rfl⟩ := Prod.mk.inj (Option.some.inj read)
        rw [if_neg some]
    · have same (text : List Char) : takeFraction? (c :: text) = Option.some ([], c :: text) := by
        simp [takeFraction?, point]
      rw [same] at read
      obtain ⟨rfl, rfl⟩ := Prod.mk.inj (Option.some.inj read)
      rw [List.cons_append, same]

theorem takePower?_append (follows : Follows rest) {power : Option Int} {left : List Char}
    (read : takePower? input = some (power, left)) :
    takePower? (input ++ rest) = some (power, left ++ rest) := by
  have unsigned (below : Bool) (text : List Char)
      (read : (if (takeDigits text).isEmpty = true then none
        else some (some (if below = true then -(natOfDigits (takeDigits text) : Int)
          else natOfDigits (takeDigits text)), text.drop (takeDigits text).length)) =
            some (power, left)) :
      (if (takeDigits (text ++ rest)).isEmpty = true then none
        else some (some (if below = true then -(natOfDigits (takeDigits (text ++ rest)) : Int)
          else natOfDigits (takeDigits (text ++ rest))),
          (text ++ rest).drop (takeDigits (text ++ rest)).length)) =
        some (power, left ++ rest) := by
    rw [takeDigits_append follows, drop_takeDigits_append]
    split at read
    · cases read
    · rename_i some
      obtain ⟨rfl, rfl⟩ := Prod.mk.inj (Option.some.inj read)
      rw [if_neg some]
  cases input with
  | nil => cases read
  | cons c input =>
    by_cases plus : c = '+'
    · subst plus
      exact unsigned false input read
    · by_cases minus : c = '-'
      · subst minus
        exact unsigned true input read
      · have same (text : List Char) : takePower? (c :: text) =
            if (takeDigits (c :: text)).isEmpty = true then none
            else some (some (natOfDigits (takeDigits (c :: text)) : Int),
              (c :: text).drop (takeDigits (c :: text)).length) := by
          simp [takePower?, takeSign, plus, minus]
        rw [same] at read
        rw [List.cons_append, same]
        exact unsigned false (c :: input) read

theorem takeExponent?_append (follows : Follows rest) {exponent : Option Int} {left : List Char}
    (read : takeExponent? input = some (exponent, left)) :
    takeExponent? (input ++ rest) = some (exponent, left ++ rest) := by
  cases input with
  | nil =>
    obtain ⟨rfl, rfl⟩ := Prod.mk.inj (Option.some.inj read)
    cases rest with
    | nil => rfl
    | cons c rest => rcases follows c rfl with rfl | rfl | rfl <;> rfl
  | cons c input =>
    simp only [takeExponent?, List.cons_append] at read ⊢
    split at read
    · rename_i letter
      rw [if_pos letter]
      exact takePower?_append follows read
    · rename_i letter
      obtain ⟨rfl, rfl⟩ := Prod.mk.inj (Option.some.inj read)
      rw [if_neg letter, List.cons_append]

/-- A numeral is read alike whatever follows. -/
theorem numeral?_append (follows : Follows rest) {numeral : Numeral} {left : List Char}
    (read : numeral? input = some (numeral, left)) :
    numeral? (input ++ rest) = some (numeral, left ++ rest) := by
  unfold numeral? at read ⊢
  dsimp only at read ⊢
  split at read
  · cases read
  · rename_i useful
    have some : takeDigits (takeSign input).2 ≠ [] := fun none => useful (.inl (by simp [none]))
    rw [takeSign_append some, takeDigits_append follows, drop_takeDigits_append, if_neg useful]
    cases fraction : takeFraction? ((takeSign input).2.drop
        (takeDigits (takeSign input).2).length) with
    | none =>
      rw [fraction] at read
      cases read
    | some found =>
      rw [fraction] at read
      rw [takeFraction?_append follows fraction]
      cases exponent : takeExponent? found.2 with
      | none =>
        simp [exponent] at read
      | some power =>
        simp only [Option.bind_eq_bind, Option.bind_some, exponent,
          takeExponent?_append follows exponent] at read ⊢
        obtain ⟨rfl, rfl⟩ := Prod.mk.inj (Option.some.inj read)
        rfl

/-- A numeral begins with a minus sign or a digit. -/
theorem head_of_numeral? {numeral : Numeral} {left : List Char}
    (read : numeral? input = some (numeral, left)) :
    ∃ c tail, input = c :: tail ∧ (c = '-' ∨ c.isDigit = true) := by
  cases input with
  | nil => cases read
  | cons c input =>
    refine ⟨c, input, rfl, ?_⟩
    by_cases minus : c = '-'
    · exact .inl minus
    · by_cases digit : c.isDigit = true
      · exact .inr digit
      · simp [numeral?, takeSign, minus, takeDigits, digit] at read

/-- The digits of a number above zero do not start with a zero. -/
theorem head_digits_ne {value : Nat} (positive : 0 < value) : (digits value).head? ≠ some '0' := by
  induction value using Nat.strongRecOn with
  | ind value ih =>
    unfold digits at ih ⊢
    rcases Nat.lt_or_ge value 10 with small | large
    · have all : ∀ digit : Fin 10, 0 < digit.val → digit.val.digitChar ≠ '0' := by decide
      rw [Nat.toDigits_of_lt_base small]
      simpa using all ⟨value, small⟩ positive
    · obtain ⟨c, rest, shape⟩ := List.exists_cons_of_ne_nil
        (Nat.toDigits_ne_nil (n := value / 10) (b := 10))
      have front := ih (value / 10) (by omega) (by omega)
      rw [shape] at front
      rw [Nat.toDigits_of_base_le (by decide) large, shape]
      exact front

theorem takeDigits_digits (value : Nat) : takeDigits (digits value) = digits value := by
  have all : ∀ c ∈ digits value, c.isDigit = true := fun _ member =>
    Nat.isDigit_of_mem_toDigits (by decide) (by decide) member
  have whole : (digits value ++ []).takeWhile Char.isDigit = digits value ++ [].takeWhile _ :=
    List.takeWhile_append_of_pos all
  rwa [List.append_nil, List.takeWhile_nil, List.append_nil] at whole

/-- Digits make a numeral of their own, with a sign in front or not. -/
theorem numeral?_digits (negative : Bool) (value : Nat) :
    numeral? ((if negative then ['-'] else []) ++ digits value) =
      some (⟨negative, digits value, [], none⟩, []) := by
  have some : digits value ≠ [] := Nat.toDigits_ne_nil
  have useful : ¬ ((digits value).isEmpty = true ∨
      (digits value).head? = Option.some '0' ∧ 1 < (digits value).length) := by
    rintro (none | ⟨zero, long⟩)
    · exact some (List.isEmpty_iff.mp none)
    · rcases Nat.eq_zero_or_pos value with rfl | positive
      · exact absurd long (by decide)
      · exact head_digits_ne positive zero
  have signed : takeSign ((if negative then ['-'] else []) ++ digits value) =
      (negative, digits value) := by
    cases negative with
    | true => rfl
    | false =>
      obtain ⟨c, rest, shape⟩ := List.exists_cons_of_ne_nil some
      have digit : c.isDigit = true :=
        Nat.isDigit_of_mem_toDigits (by decide) (by decide) (shape ▸ List.mem_cons_self)
      have other : c ≠ '-' := by
        rintro rfl
        exact absurd digit (by decide)
      simp [shape, takeSign, other]
  unfold numeral?
  simp only [signed, takeDigits_digits, List.drop_length]
  rw [if_neg useful]
  rfl

theorem natOfDigits_digits (value : Nat) : natOfDigits (digits value) = value := by
  have same : natOfDigits (digits value) = Nat.ofDigitChars 10 (digits value) 0 := by
    simp only [natOfDigits, Nat.ofDigitChars, Nat.mul_comm]
    rfl
  rw [same]
  exact Nat.ofDigitChars_ten_toDigits

/-- An integer of 64 bits is read back from its digits. -/
theorem numeral?_integer {value : Int} (low : -9223372036854775808 ≤ value)
    (high : value ≤ greatestNat64) :
    ∃ numeral, numeral? (integer value) = some (numeral, []) ∧
      numeral.value? = some (.int value) := by
  cases value with
  | ofNat value =>
    refine ⟨_, numeral?_digits false value, ?_⟩
    have small : value ≤ greatestNat64 := Int.ofNat_le.mp high
    simp [Numeral.value?, Numeral.integer?, natOfDigits_digits, small]
  | negSucc value =>
    refine ⟨_, numeral?_digits true (value + 1), ?_⟩
    have small : value + 1 ≤ 9223372036854775808 := by omega
    have negated : -((value + 1 : Nat) : Int) = Int.negSucc value := rfl
    simp only [Numeral.value?, Numeral.integer?, natOfDigits_digits, small, negated, List.isEmpty_nil,
      Option.isNone_none, and_self, if_true, Nat.succ_pos]

end LanguageBridge.Json

/-!
Values read back.
-/
namespace LanguageBridge.Json

mutual
/-- A value of whose numbers all something holds. -/
def Numbers (P : Json → Prop) : Json → Prop
  | .int value => P (.int value)
  | .float value => P (.float value)
  | .arr items => NumbersOfItems P items
  | .obj members => NumbersOfMembers P members
  | _ => True

def NumbersOfItems (P : Json → Prop) : List Json → Prop
  | [] => True
  | item :: rest => Numbers P item ∧ NumbersOfItems P rest

def NumbersOfMembers (P : Json → Prop) : List (String × Json) → Prop
  | [] => True
  | (_, value) :: rest => Numbers P value ∧ NumbersOfMembers P rest
end

/-- An integer has 64 bits. -/
def InRange : Json → Prop
  | .int value => -9223372036854775808 ≤ value ∧ value ≤ greatestNat64
  | _ => True

/-- The text of a double is a numeral that stands for it. -/
def Stands : Json → Prop
  | .float value => ∃ numeral, numeral? value.text = some (numeral, []) ∧
      numeral.value? = some (.float value)
  | _ => True

/-- A value whose numbers have texts that stand for them. -/
def Readable (value : Json) : Prop := value.Numbers fun number => InRange number ∧ Stands number

def ReadableItems (items : List Json) : Prop :=
  NumbersOfItems (fun number => InRange number ∧ Stands number) items

def ReadableMembers (members : List (String × Json)) : Prop :=
  NumbersOfMembers (fun number => InRange number ∧ Stands number) members

mutual
theorem write_append : ∀ (value : Json) (front rest : List Char),
    value.write (front ++ rest) = value.write front ++ rest
  | .null, _, _ | .bool true, _, _ | .bool false, _, _ => rfl
  | .int _, _, _ | .float _, _, _ | .str _, _, _ => by simp [write]
  | .arr [], _, _ | .obj [], _, _ => rfl
  | .arr (item :: items), front, rest => by
    rw [write, write, writeItems_append items, write_append item, List.cons_append]
  | .obj ((key, value) :: members), front, rest => by
    rw [write, write, writeMembers_append members, write_append value]
    simp

theorem writeItems_append : ∀ (items : List Json) (front rest : List Char),
    writeItems items (front ++ rest) = writeItems items front ++ rest
  | [], _, _ => rfl
  | item :: items, front, rest => by
    rw [writeItems, writeItems, writeItems_append items, write_append item, List.cons_append]

theorem writeMembers_append : ∀ (members : List (String × Json)) (front rest : List Char),
    writeMembers members (front ++ rest) = writeMembers members front ++ rest
  | [], _, _ => rfl
  | (key, value) :: members, front, rest => by
    rw [writeMembers, writeMembers, writeMembers_append members, write_append value]
    simp
end

variable {input rest : List Char} {fuel : Nat}

/-- What a value may start with: no blank, and nothing that ends an array. -/
def Starts (c : Char) : Prop := c ≠ ' ' ∧ c ≠ '\n' ∧ c ≠ '\t' ∧ c ≠ '\r' ∧ c ≠ ']'

instance (c : Char) : Decidable (Starts c) := inferInstanceAs (Decidable (_ ∧ _))

theorem skipBlanks_cons {c : Char} (starts : Starts c) (rest : List Char) :
    skipBlanks (c :: rest) = c :: rest := by
  obtain ⟨blank, feed, tab, turn, -⟩ := starts
  simp [skipBlanks, blank, feed, tab, turn]

theorem starts_of_numeral {c : Char} (number : c = '-' ∨ c.isDigit = true) : Starts c := by
  rcases number with rfl | digit
  · decide
  · refine ⟨?_, ?_, ?_, ?_, ?_⟩ <;> rintro rfl <;> exact absurd digit (by decide)

/-- A numeral is read as a number. -/
theorem value?_numeral {numeral : Numeral} (read : numeral? input = some (numeral, rest)) :
    value? (fuel + 1) input = some (.number numeral, rest) := by
  obtain ⟨c, tail, rfl, number⟩ := head_of_numeral? read
  have other (d : Char) (none : ¬ (d = '-' ∨ d.isDigit = true)) : c ≠ d := by
    rintro rfl
    exact none number
  have n := other 'n' (by decide)
  have t := other 't' (by decide)
  have f := other 'f' (by decide)
  have quote := other '"' (by decide)
  have bracket := other '[' (by decide)
  have brace := other '\x7b' (by decide)
  simp [value?, skipBlanks_cons (starts_of_numeral number), n, t, f, quote, bracket, brace, read]

theorem value?_string (fuel : Nat) (input : List Char) :
    value? (fuel + 1) ('"' :: input) = (stringBody? (input.length + 1) input).map fun read =>
      (.str read.1, read.2) := by
  cases read : stringBody? (input.length + 1) input <;> simp [value?, skipBlanks, read]

theorem value?_array (fuel : Nat) {c : Char} (starts : Starts c) (input : List Char) :
    value? (fuel + 1) ('[' :: c :: input) = (items? fuel (c :: input)).map fun read =>
      (.arr read.1, read.2) := by
  have skip : skipBlanks ('[' :: c :: input) = '[' :: c :: input := skipBlanks_cons (by decide) _
  have ends := starts.2.2.2.2
  cases read : items? fuel (c :: input) <;>
    simp [value?, skip, skipBlanks_cons starts, ends, read]

theorem value?_object (fuel : Nat) (input : List Char) :
    value? (fuel + 1) ('\x7b' :: '"' :: input) = (members? fuel ('"' :: input)).map fun read =>
      (.obj read.1, read.2) := by
  cases read : members? fuel ('"' :: input) <;> simp [value?, skipBlanks, read]

variable {pieces : List Piece} {text : List Char} {written : Written}

/-- The last member of an object. -/
theorem members?_last (key : stringBody? (input.length + 1) input = some (pieces, ':' :: text))
    (value : value? fuel text = some (written, '\x7d' :: rest)) :
    members? (fuel + 1) ('"' :: input) = some ([(pieces, written)], rest) := by
  simp [members?, skipBlanks, key, value]

/-- A member with others behind it. -/
theorem members?_next {others : List (List Piece × Written)} {behind : List Char}
    (key : stringBody? (input.length + 1) input = some (pieces, ':' :: text))
    (value : value? fuel text = some (written, ',' :: behind))
    (later : members? fuel behind = some (others, rest)) :
    members? (fuel + 1) ('"' :: input) = some ((pieces, written) :: others, rest) := by
  simp [members?, skipBlanks, key, value, later]

theorem literal_append (text : String) (rest : List Char) :
    literal text ++ rest = '"' :: (text.toList.flatMap escaped ++ '"' :: rest) := by
  simp [literal]

theorem starts_write {value : Json} (readable : value.Readable) (rest : List Char) :
    ∃ c tail, value.write rest = c :: tail ∧ Starts c := by
  cases value with
  | null => exact ⟨'n', _, rfl, by decide⟩
  | bool value =>
    cases value with
    | true => exact ⟨'t', _, rfl, by decide⟩
    | false => exact ⟨'f', _, rfl, by decide⟩
  | int value =>
    obtain ⟨numeral, read, -⟩ := numeral?_integer readable.1.1 readable.1.2
    obtain ⟨c, tail, same, number⟩ := head_of_numeral? read
    exact ⟨c, tail ++ rest, by rw [write, same]; rfl, starts_of_numeral number⟩
  | float value =>
    obtain ⟨numeral, read, -⟩ := readable.2
    obtain ⟨c, tail, same, number⟩ := head_of_numeral? read
    exact ⟨c, tail ++ rest, by rw [write, same]; rfl, starts_of_numeral number⟩
  | str value => exact ⟨'"', _, rfl, by decide⟩
  | arr items => cases items <;> exact ⟨'[', _, rfl, by decide⟩
  | obj members => cases members <;> exact ⟨'\x7b', _, by rw [write], by decide⟩

theorem follows_writeItems (items : List Json) (rest : List Char) :
    Follows (writeItems items rest) := by
  cases items <;> simp [Follows, writeItems]

theorem follows_writeMembers (members : List (String × Json)) (rest : List Char) :
    Follows (writeMembers members rest) := by
  cases members with
  | nil => simp [Follows, writeMembers]
  | cons member members => simp [Follows, writeMembers]

/-- The length of a value's text does not depend on what follows. -/
theorem length_write (value : Json) (rest : List Char) :
    (value.write rest).length = (value.write []).length + rest.length := by
  have cut := write_append value [] rest
  rw [List.nil_append] at cut
  rw [cut, List.length_append]

theorem stringBody?_rest (text : String) (rest : List Char) : ∃ pieces,
    stringBody? ((text.toList.flatMap escaped ++ '"' :: rest).length + 1)
        (text.toList.flatMap escaped ++ '"' :: rest) = some (pieces, rest) ∧
      stringOf? pieces = some text := by
  have short := length_le_flatMap_escaped text.toList
  have enough : text.toList.length < (text.toList.flatMap escaped ++ '"' :: rest).length + 1 := by
    rw [List.length_append]
    omega
  obtain ⟨pieces, read, same⟩ := stringBody?_literal text.toList rest enough
  exact ⟨pieces, read, by rw [stringOf?, same, Option.map_some, String.ofList_toList]⟩

mutual
/-- A value is read back from its text, and what follows is left. -/
theorem value?_write : ∀ (value : Json) (_ : value.Readable) (rest : List Char)
    (_ : Follows rest) (fuel : Nat) (_ : (value.write []).length ≤ fuel),
    ∃ written, value? fuel (value.write rest) = some (written, rest) ∧
      written.value? = some value
  | value, readable, rest, follows, 0, enough => by
    obtain ⟨c, tail, same, -⟩ := starts_write readable []
    rw [same] at enough
    simp at enough
  | .null, _, rest, _, fuel + 1, _ => ⟨.null, by simp [value?, write, skipBlanks], rfl⟩
  | .bool true, _, rest, _, fuel + 1, _ => ⟨.bool true, by simp [value?, write, skipBlanks], rfl⟩
  | .bool false, _, rest, _, fuel + 1, _ => ⟨.bool false, by simp [value?, write, skipBlanks], rfl⟩
  | .int value, readable, rest, follows, fuel + 1, _ => by
    obtain ⟨numeral, read, same⟩ := numeral?_integer readable.1.1 readable.1.2
    exact ⟨.number numeral, value?_numeral (numeral?_append follows read), same⟩
  | .float value, readable, rest, follows, fuel + 1, _ => by
    obtain ⟨numeral, read, same⟩ := readable.2
    exact ⟨.number numeral, value?_numeral (numeral?_append follows read), same⟩
  | .str value, _, rest, _, fuel + 1, _ => by
    obtain ⟨pieces, read, same⟩ := stringBody?_rest value rest
    refine ⟨.str pieces, ?_, by simp [Written.value?, same]⟩
    rw [write, literal_append, value?_string, read]
    rfl
  | .arr [], _, rest, _, fuel + 1, _ => ⟨.arr [], by simp [value?, write, skipBlanks], rfl⟩
  | .arr (item :: items), readable, rest, follows, fuel + 1, enough => by
    have shorter : (item.write (writeItems items [])).length ≤ fuel := by
      rw [write, List.length_cons] at enough
      omega
    obtain ⟨written, read, same⟩ :=
      items?_write item items readable.1 readable.2 rest fuel shorter
    obtain ⟨c, tail, shape, starts⟩ := starts_write readable.1 (writeItems items rest)
    refine ⟨.arr written, ?_, by simp [Written.value?, same]⟩
    rw [write, shape, value?_array fuel starts, ← shape, read]
    rfl
  | .obj [], _, rest, _, fuel + 1, _ => ⟨.obj [], by simp [value?, write, skipBlanks], rfl⟩
  | .obj ((key, value) :: members), readable, rest, follows, fuel + 1, enough => by
    have shorter :
        (literal key ++ ':' :: value.write (writeMembers members [])).length ≤ fuel := by
      rw [write, List.length_cons] at enough
      omega
    obtain ⟨written, read, same⟩ :=
      members?_write key value members readable.1 readable.2 rest fuel shorter
    refine ⟨.obj written, ?_, by simp [Written.value?, same]⟩
    rw [literal_append] at read
    rw [write, literal_append, value?_object, read]
    rfl

/-- The items of an array are read back. -/
theorem items?_write : ∀ (item : Json) (items : List Json) (_ : item.Readable)
    (_ : ReadableItems items) (rest : List Char) (fuel : Nat)
    (_ : (item.write (writeItems items [])).length ≤ fuel),
    ∃ written, items? fuel (item.write (writeItems items rest)) = some (written, rest) ∧
      Written.values? written = some (item :: items)
  | item, items, readable, _, rest, 0, enough => by
    obtain ⟨c, tail, same, -⟩ := starts_write readable (writeItems items [])
    rw [same] at enough
    simp at enough
  | item, [], readable, _, rest, fuel + 1, enough => by
    rw [length_write] at enough
    have shorter : (item.write []).length ≤ fuel := by
      simp only [writeItems, List.length_cons, List.length_nil] at enough
      omega
    obtain ⟨written, read, same⟩ :=
      value?_write item readable (writeItems [] rest) (follows_writeItems _ _) fuel shorter
    refine ⟨[written], ?_, by simp [Written.values?, same]⟩
    rw [items?, read]
    simp [writeItems, skipBlanks]
  | item, next :: items, readable, readables, rest, fuel + 1, enough => by
    rw [length_write, writeItems, List.length_cons] at enough
    obtain ⟨written, read, same⟩ := value?_write item readable (writeItems (next :: items) rest)
      (follows_writeItems _ _) fuel (by omega)
    obtain ⟨others, later, behind⟩ :=
      items?_write next items readables.1 readables.2 rest fuel (by omega)
    refine ⟨written :: others, ?_, by simp [Written.values?, same, behind]⟩
    rw [items?, read]
    simp [writeItems, skipBlanks, later]

/-- The members of an object are read back. -/
theorem members?_write : ∀ (key : String) (value : Json) (members : List (String × Json))
    (_ : value.Readable) (_ : ReadableMembers members) (rest : List Char) (fuel : Nat)
    (_ : (literal key ++ ':' :: value.write (writeMembers members [])).length ≤ fuel),
    ∃ written, members? fuel (literal key ++ ':' :: value.write (writeMembers members rest)) =
        some (written, rest) ∧
      Written.members? written = some ((key, value) :: members)
  | key, value, members, _, _, rest, 0, enough => by simp [literal] at enough
  | key, value, [], readable, _, rest, fuel + 1, enough => by
    rw [List.length_append, List.length_cons, length_write] at enough
    have shorter : (value.write []).length ≤ fuel := by omega
    obtain ⟨written, read, same⟩ :=
      value?_write value readable (writeMembers [] rest) (follows_writeMembers _ _) fuel shorter
    obtain ⟨pieces, found, known⟩ :=
      stringBody?_rest key (':' :: value.write (writeMembers [] rest))
    refine ⟨[(pieces, written)], ?_, by simp [Written.members?, same, known]⟩
    rw [literal_append]
    exact members?_last found read
  | key, value, (next, other) :: members, readable, readables, rest, fuel + 1, enough => by
    rw [List.length_append, List.length_cons, length_write, writeMembers, List.length_cons]
      at enough
    obtain ⟨written, read, same⟩ :=
      value?_write value readable (writeMembers ((next, other) :: members) rest)
        (follows_writeMembers _ _) fuel (by omega)
    obtain ⟨others, later, behind⟩ :=
      members?_write next other members readables.1 readables.2 rest fuel (by omega)
    obtain ⟨pieces, found, known⟩ :=
      stringBody?_rest key (':' :: value.write (writeMembers ((next, other) :: members) rest))
    refine ⟨(pieces, written) :: others, ?_, by simp [Written.members?, same, known, behind]⟩
    rw [literal_append]
    exact members?_next found read later
end

/-- A value is the one that its text holds. -/
theorem parse?_compact {value : Json} (readable : value.Readable) :
    parse? value.compact = some value := by
  obtain ⟨written, read, same⟩ := value?_write value readable [] (by simp [Follows])
    ((value.write []).length + 1) (Nat.le_succ _)
  have whole : written? value.compact = some written := by
    simp [written?, compact, read, skipBlanks]
  rw [parse?, whole, Option.bind_some, same]

end LanguageBridge.Json

/-!
Integers that are read have 64 bits.
-/
namespace LanguageBridge.Json

theorem numbers_of_numeral {numeral : Numeral} {value : Json}
    (read : numeral.value? = some value) : value.Numbers InRange := by
  unfold Numeral.value? at read
  split at read
  · rename_i number whole
    obtain rfl := Option.some.inj read
    simp only [Numeral.integer?] at whole
    split at whole
    · split at whole
      · split at whole
        · obtain rfl := Option.some.inj whole
          have bound : (9223372036854775808 : Int) ≤ greatestNat64 := by decide
          rename_i small
          constructor <;> omega
        · cases whole
      · split at whole
        · obtain rfl := Option.some.inj whole
          rename_i small
          constructor <;> omega
        · cases whole
    · cases whole
  · obtain ⟨size, _, rfl⟩ := Option.map_eq_some_iff.mp read
    trivial

mutual
/-- The numbers of a value that is written. -/
theorem numbers_of_value? : ∀ (written : Written) {value : Json},
    written.value? = some value → value.Numbers InRange
  | .null, _, read | .bool _, _, read => by
    obtain rfl := Option.some.inj read
    trivial
  | .number numeral, _, read => numbers_of_numeral read
  | .str pieces, _, read => by
    obtain ⟨text, _, rfl⟩ := Option.map_eq_some_iff.mp read
    trivial
  | .arr items, _, read => by
    rw [Written.value?] at read
    obtain ⟨values, found, rfl⟩ := Option.map_eq_some_iff.mp read
    exact numbers_of_values? items found
  | .obj members, _, read => by
    rw [Written.value?] at read
    obtain ⟨values, found, rfl⟩ := Option.map_eq_some_iff.mp read
    exact numbers_of_members? members found

theorem numbers_of_values? : ∀ (items : List Written) {values : List Json},
    Written.values? items = some values → NumbersOfItems InRange values
  | [], _, read => by
    obtain rfl := Option.some.inj read
    trivial
  | item :: items, _, read => by
    rw [Written.values?] at read
    obtain ⟨value, here, read⟩ := Option.bind_eq_some_iff.mp read
    obtain ⟨values, there, read⟩ := Option.bind_eq_some_iff.mp read
    obtain rfl := Option.some.inj read
    exact ⟨numbers_of_value? item here, numbers_of_values? items there⟩

theorem numbers_of_members? : ∀ (members : List (List Piece × Written))
    {values : List (String × Json)}, Written.members? members = some values →
      NumbersOfMembers InRange values
  | [], _, read => by
    obtain rfl := Option.some.inj read
    trivial
  | (key, item) :: members, _, read => by
    rw [Written.members?] at read
    obtain ⟨name, _, read⟩ := Option.bind_eq_some_iff.mp read
    obtain ⟨value, here, read⟩ := Option.bind_eq_some_iff.mp read
    obtain ⟨values, there, read⟩ := Option.bind_eq_some_iff.mp read
    obtain rfl := Option.some.inj read
    exact ⟨numbers_of_value? item here, numbers_of_members? members there⟩
end

theorem numbers_of_parse? {text : String} {value : Json} (read : parse? text = some value) :
    value.Numbers InRange := by
  obtain ⟨written, _, here⟩ := Option.bind_eq_some_iff.mp read
  exact numbers_of_value? written here

end LanguageBridge.Json
