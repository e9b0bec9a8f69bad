import LanguageBridge.Proofs.Rpc.Stream
import LanguageBridge.Proofs.Text.Trim
import LanguageBridge.Proofs.Text.Utf8
import Mathlib.Data.List.Forall2

/-!
Lines of headers. A line that gives a length is read as that length however it is spelled, and a
line that does not name the length is passed over.
-/
namespace LanguageBridge.Frame

/-- A name that spells the one of the length, in letters of either case. -/
def SpellsLength (name : Text) : Prop := name.map Char.toLower = "content-length".toList

instance (name : Text) : Decidable (SpellsLength name) :=
  inferInstanceAs (Decidable (_ = _))

/-- A line that names the length: behind the name, which may have white space around it, the line
is over or a colon follows. -/
def NamesLength (line : Text) : Prop :=
  ∃ before name after rest, line = before ++ name ++ after ++ rest ∧ Text.Blank before ∧
    SpellsLength name ∧ Text.Blank after ∧ (rest = [] ∨ ∃ value, rest = ':' :: value)

/-- The decimal digits of a number, perhaps behind zeros. -/
def numeral (zeros size : Nat) : Text := List.replicate zeros '0' ++ Nat.toDigits 10 size

/-- A line that gives a length in decimal digits, with white space around name and digits. -/
def GivesLength (size : Nat) (line : Text) : Prop :=
  ∃ before name after gap zeros tail,
    line = (before ++ name ++ after) ++ ':' :: (gap ++ numeral zeros size ++ tail) ∧
    Text.Blank before ∧ SpellsLength name ∧ Text.Blank after ∧ Text.Blank gap ∧ Text.Blank tail

theorem toLower_of_blank (blank : Text.isBlank c = true) : c.toLower = c := by
  unfold Char.toLower
  split
  · rename_i upper
    have least : 65 ≤ c.toNat := UInt32.le_iff_toNat_le.mp upper.1
    have most : c.toNat ≤ 90 := UInt32.le_iff_toNat_le.mp upper.2
    have := Text.blank_bounds blank
    omega
  · rfl

namespace SpellsLength

theorem not_blank (spells : SpellsLength name) (member : c ∈ name) : Text.isBlank c = false := by
  have here : c.toLower ∈ "content-length".toList := spells ▸ List.mem_map_of_mem member
  cases blank : Text.isBlank c with
  | false => rfl
  | true =>
    rw [toLower_of_blank blank] at here
    have all : ∀ c ∈ "content-length".toList, (!Text.isBlank c) = true :=
      List.all_eq_true.mp (by decide)
    simpa [blank] using all c here

theorem colon_notMem (spells : SpellsLength name) : ':' ∉ name := by
  intro member
  have here : ':'.toLower ∈ "content-length".toList := spells ▸ List.mem_map_of_mem member
  exact absurd here (by decide)

theorem tight (spells : SpellsLength name) : Text.Tight name where
  front := fun _ first => spells.not_blank (List.mem_of_mem_head? first)
  back := fun _ last => spells.not_blank (List.mem_of_mem_getLast? last)

theorem ne_nil (spells : SpellsLength name) : name ≠ [] := by
  rintro rfl
  cases spells

theorem length_eq (spells : SpellsLength name) : name.length = 14 := by
  have := congrArg List.length spells
  rwa [List.length_map] at this

end SpellsLength

/-- The name of the length needs its room. -/
theorem not_namesLength_of_short (short : line.length < 14) : ¬ NamesLength line := by
  rintro ⟨before, name, after, rest, rfl, _, spells, _⟩
  have := spells.length_eq
  simp only [List.length_append] at short
  omega

theorem colon_notMem_blank (blank : Text.Blank text) : ':' ∉ text := fun member =>
  absurd (blank _ member) (by decide)

theorem isDigit_of_mem_numeral (member : c ∈ numeral zeros size) : c.isDigit = true := by
  rcases List.mem_append.mp member with zero | digit
  · rw [List.eq_of_mem_replicate zero]
    rfl
  · exact Nat.isDigit_of_mem_toDigits (by decide) (by decide) digit

theorem digit_bounds {c : Char} (digit : c.isDigit = true) : '0' ≤ c ∧ c ≤ '9' := by
  simpa [Char.isDigit, Char.le_def] using digit

theorem not_blank_of_digit {c : Char} (digit : c.isDigit = true) : Text.isBlank c = false := by
  have bounds : 48 ≤ c.toNat ∧ c.toNat ≤ 57 := Char.isDigit_iff_toNat.mp digit
  cases blank : Text.isBlank c with
  | false => rfl
  | true =>
    have := Text.blank_bounds blank
    omega

theorem numeral_ne_nil (zeros size : Nat) : numeral zeros size ≠ [] := by
  simp [numeral, Nat.toDigits_ne_nil]

theorem numeral_tight (zeros size : Nat) : Text.Tight (numeral zeros size) where
  front := fun _ first =>
    not_blank_of_digit (isDigit_of_mem_numeral (List.mem_of_mem_head? first))
  back := fun _ last =>
    not_blank_of_digit (isDigit_of_mem_numeral (List.mem_of_mem_getLast? last))

/-- The value of digits never gets smaller while they are read. -/
theorem le_ofDigitChars (text : Text) (value : Nat) : value ≤ Nat.ofDigitChars 10 text value := by
  induction text generalizing value with
  | nil => simp
  | cons c rest ih =>
    rw [Nat.ofDigitChars_cons]
    exact Nat.le_trans (by omega) (ih _)

theorem readDigits_eq {text : Text} (digits : ∀ c ∈ text, c.isDigit = true) (value : Nat)
    (small : Nat.ofDigitChars 10 text value < UInt64.size) :
    readDigits value text = .ok (Nat.ofDigitChars 10 text value) := by
  induction text generalizing value with
  | nil => simp [readDigits]
  | cons c rest ih =>
    rw [Nat.ofDigitChars_cons, Nat.mul_comm] at small ⊢
    change Nat.ofDigitChars 10 rest (value * 10 + (c.toNat - 48)) < UInt64.size at small
    have fits := Nat.lt_of_le_of_lt (le_ofDigitChars rest _) small
    have still := ih (fun c member => digits c (List.mem_cons_of_mem _ member)) _ small
    simp only [readDigits, digit_bounds (digits c List.mem_cons_self), and_self, if_true]
    rw [if_neg (Nat.not_lt_of_le (Nat.le_of_lt_succ fits))]
    exact still

theorem readLength_numeral (zeros : Nat) {size : Nat} (small : size < UInt64.size) :
    readLength (numeral zeros size) = .ok size := by
  have value : Nat.ofDigitChars 10 (numeral zeros size) 0 = size := by
    rw [numeral, Nat.ofDigitChars_append, Nat.ofDigitChars_replicate_zero, Nat.mul_zero,
      Nat.ofDigitChars_ten_toDigits]
  have digits : ∀ c ∈ numeral zeros size, c.isDigit = true := fun c => isDigit_of_mem_numeral
  have read := readDigits_eq digits 0 (by rw [value]; exact small)
  rw [value] at read
  unfold readLength
  split
  · rename_i empty
    exact absurd empty (numeral_ne_nil _ _)
  · rename_i plus
    exact absurd (digits '+' (by simp [plus])) (by decide)
  · rename_i rest plus
    exact absurd (digits '+' (by simp [plus])) (by decide)
  · exact read

theorem splitHeader_colon {name : Text} (plain : ':' ∉ name) (value : Text) :
    splitHeader (name ++ ':' :: value) = (Text.trim name, Text.trim value) := by
  have taken : (name ++ ':' :: value).takeWhile (· ≠ ':') = name := by
    rw [List.takeWhile_append_of_pos]
    · simp
    · intro c member
      simp only [ne_eq, decide_not, Bool.not_eq_true', decide_eq_false_iff_not]
      rintro rfl
      exact plain member
  rw [splitHeader, taken]
  simp

/-- A line that gives a length is read as that length. -/
theorem lengthOf_of_givesLength (gives : GivesLength size line) (small : size < UInt64.size) :
    lengthOf (Text.trim line) = .ok (some size) := by
  obtain ⟨before, name, after, gap, zeros, tail, rfl, front, spells, back, between, behind⟩ := gives
  have inner : Text.trim ((before ++ name ++ after) ++ ':' :: (gap ++ numeral zeros size ++ tail)) =
      (name ++ after) ++ ':' :: (gap ++ numeral zeros size) := by
    have tight : Text.Tight ((name ++ after) ++ ':' :: (gap ++ numeral zeros size)) := by
      constructor
      · intro c first
        have same : (name ++ after ++ ':' :: (gap ++ numeral zeros size)).head? = name.head? := by
          simp [List.head?_append, List.head?_eq_some_head spells.ne_nil]
        exact spells.tight.front c (same ▸ first)
      · intro c last
        have same : (name ++ after ++ ':' :: (gap ++ numeral zeros size)).getLast? =
            (numeral zeros size).getLast? := by
          simp [List.getLast?_append, List.getLast?_cons,
            List.getLast?_eq_some_getLast (numeral_ne_nil zeros size)]
        exact (numeral_tight zeros size).back c (same ▸ last)
    have := Text.trim_surrounded front tight behind
    simpa only [List.append_assoc, List.cons_append] using this
  have plain : ':' ∉ name ++ after := by
    rw [List.mem_append, not_or]
    exact ⟨spells.colon_notMem, colon_notMem_blank back⟩
  have named : Text.trim (name ++ after) = name := by
    simpa using Text.trim_surrounded Text.blank_nil spells.tight back
  have valued : Text.trim (gap ++ numeral zeros size) = numeral zeros size := by
    simpa using Text.trim_surrounded between (numeral_tight zeros size) Text.blank_nil
  rw [inner, lengthOf, splitHeader_colon plain, named, valued]
  have is : isLengthName name = true := decide_eq_true spells
  simp only [is, if_true, readLength_numeral zeros small]

/-- A line that does not name the length gives none. -/
theorem lengthOf_of_other (other : ¬ NamesLength line) : lengthOf (Text.trim line) = .ok none := by
  let header := Text.trim line
  let name := header.takeWhile (· ≠ ':')
  have unnamed : isLengthName (Text.trim name) = false := by
    rw [isLengthName, decide_eq_false_iff_not]
    intro spells
    obtain ⟨before, after, whole, front, back⟩ := Text.exists_trim line
    obtain ⟨left, right, inner, first, second⟩ := Text.exists_trim name
    have cut : header = name ++ header.dropWhile (· ≠ ':') :=
      (List.takeWhile_append_dropWhile).symm
    refine other ?_
    cases rest : header.dropWhile (· ≠ ':') with
    | nil =>
      refine ⟨before ++ left, Text.trim name, right ++ after, [], ?_, front.append first, spells,
        second.append back, .inl rfl⟩
      rw [rest, List.append_nil] at cut
      calc line = before ++ header ++ after := whole
        _ = before ++ (left ++ Text.trim name ++ right) ++ after := by rw [cut, ← inner]
        _ = _ := by simp
    | cons c value =>
      have colon : c = ':' := by
        have := List.head?_dropWhile_not (· ≠ ':') header
        rw [rest] at this
        simpa using this
      subst colon
      refine ⟨before ++ left, Text.trim name, right, ':' :: value ++ after, ?_,
        front.append first, spells, second, .inr ⟨value ++ after, rfl⟩⟩
      rw [rest] at cut
      calc line = before ++ header ++ after := whole
        _ = before ++ (left ++ Text.trim name ++ right ++ ':' :: value) ++ after := by
          rw [cut, ← inner]
        _ = _ := by simp
  have split : (splitHeader header).1 = Text.trim name := rfl
  change lengthOf header = _
  unfold lengthOf
  simp only [split, unnamed]
  rfl

end LanguageBridge.Frame

/-!
Frames read back. Bodies that were framed, by `encode` or under any other legal header, are read
one after the other, and what follows them is left as it is.
-/
namespace LanguageBridge.Frame

/-- A line of a header without its end; the line feed at its end may follow a carriage return. -/
structure Line where
  text : Text
  returned : Bool
  whole : '\n' ∉ text

namespace Line

/-- How a line ends. -/
def ending (returned : Bool) : Text := if returned then ['\r', '\n'] else ['\n']

def bytes (line : Line) : List UInt8 :=
  Utf8.encode (String.ofList (line.text ++ ending line.returned))

theorem ending_blank (returned : Bool) : Text.Blank (ending returned) := by
  cases returned <;> decide

end Line

/-- The bytes of a body under a legal header: blank lines and other header lines, a line that gives
the length of the body, other header lines, and a blank line. Lengths are numbers of 64 bits. -/
inductive Framed (body : String) : List UInt8 → Prop
  | encoded (small : (Utf8.encode body).length < UInt64.size) : Framed body (encode body)
  | headed (before : List Line) (length : Line) (after : List Line) (last : Line)
      (passed : ∀ line ∈ before, Text.Blank line.text ∨ ¬ NamesLength line.text)
      (gives : GivesLength (Utf8.encode body).length length.text)
      (others : ∀ line ∈ after, ¬ Text.Blank line.text ∧ ¬ NamesLength line.text)
      (blank : Text.Blank last.text) (small : (Utf8.encode body).length < UInt64.size) :
      Framed body
        ((before ++ length :: after ++ [last]).flatMap Line.bytes ++ Utf8.encode body)

theorem takeLine_feed {before : List UInt8} (whole : feed ∉ before) (rest : List UInt8)
    (ended : Bool) :
    takeLine ended (before ++ feed :: rest) = some (before ++ [feed], rest) := by
  induction before with
  | nil => simp [takeLine]
  | cons byte tail ih =>
    rw [List.mem_cons, not_or] at whole
    simp [takeLine, Ne.symm whole.1, ih whole.2]

theorem Line.bytes_eq (line : Line) :
    ∃ before, feed ∉ before ∧ line.bytes = before ++ [feed] := by
  obtain ⟨text, returned, whole⟩ := line
  cases returned with
  | false =>
    exact ⟨Utf8.encode (String.ofList text), Utf8.feed_notMem_encode whole,
      Utf8.encode_append text ['\n']⟩
  | true =>
    refine ⟨Utf8.encode (String.ofList (text ++ ['\r'])), Utf8.feed_notMem_encode ?_, ?_⟩
    · simpa using whole
    · have := Utf8.encode_append (text ++ ['\r']) ['\n']
      rw [List.append_assoc] at this
      exact this

/-- Reading goes line by line. -/
theorem readFrom_bytes (line : Line) (length : Option Nat) (rest : List UInt8) (ended : Bool) :
    readFrom ended length (line.bytes ++ rest) =
      if (Text.trim line.text).isEmpty then
        match length with
        | some length => readBody ended length rest
        | none => readFrom ended none rest
      else
        match lengthOf (Text.trim line.text) with
        | .error failure => .failed failure
        | .ok (some length) => readFrom ended (some length) rest
        | .ok none => readFrom ended length rest := by
  obtain ⟨before, whole, same⟩ := line.bytes_eq
  have decoded : Utf8.decode line.bytes =
      .ok (String.ofList (line.text ++ Line.ending line.returned)) :=
    Utf8.decode_encode _
  have taken : takeLine ended (line.bytes ++ rest) = some (line.bytes, rest) := by
    rw [same, List.append_assoc]
    exact takeLine_feed whole rest ended
  obtain ⟨byte, tail, shape⟩ : ∃ byte tail, line.bytes = byte :: tail :=
    List.exists_cons_of_ne_nil (by simp [same])
  rw [shape] at decoded taken
  have := readFrom_line taken decoded length
  rw [String.toList_ofList, Text.trim_append_blank _ (Line.ending_blank _)] at this
  rw [shape]
  exact this

theorem readFrom_passed (passed : Text.Blank line.text ∨ ¬ NamesLength line.text)
    (rest : List UInt8) (ended : Bool) :
    readFrom ended none (Line.bytes line ++ rest) = readFrom ended none rest := by
  rw [readFrom_bytes]
  split
  · rfl
  · rename_i full
    rcases passed with blank | other
    · exact absurd (by simpa using Text.trim_blank blank) full
    · simp only [lengthOf_of_other other]

theorem readFrom_other (other : ¬ Text.Blank line.text ∧ ¬ NamesLength line.text) (length : Nat)
    (rest : List UInt8) (ended : Bool) :
    readFrom ended (some length) (Line.bytes line ++ rest) =
      readFrom ended (some length) rest := by
  have full : ¬ (Text.trim line.text).isEmpty := by
    simpa [Text.trim_eq_nil_iff] using other.1
  rw [readFrom_bytes, if_neg full]
  simp only [lengthOf_of_other other.2]

theorem readFrom_gives (gives : GivesLength size line.text) (small : size < UInt64.size)
    (length : Option Nat) (rest : List UInt8) (ended : Bool) :
    readFrom ended length (Line.bytes line ++ rest) = readFrom ended (some size) rest := by
  have given := lengthOf_of_givesLength gives small
  have full : ¬ (Text.trim line.text).isEmpty := by
    intro empty
    rw [List.isEmpty_iff.mp empty] at given
    cases given
  rw [readFrom_bytes, if_neg full]
  simp only [given]

theorem readFrom_last (blank : Text.Blank line.text) (size : Nat) (rest : List UInt8)
    (ended : Bool) :
    readFrom ended (some size) (Line.bytes line ++ rest) = readBody ended size rest := by
  rw [readFrom_bytes, if_pos (by simpa using Text.trim_blank blank)]

theorem readFrom_before {before : List Line}
    (passed : ∀ line ∈ before, Text.Blank line.text ∨ ¬ NamesLength line.text)
    (rest : List UInt8) (ended : Bool) :
    readFrom ended none (before.flatMap Line.bytes ++ rest) = readFrom ended none rest := by
  induction before with
  | nil => rfl
  | cons line before ih =>
    rw [List.flatMap_cons, List.append_assoc, readFrom_passed (passed line List.mem_cons_self)]
    exact ih fun line member => passed line (List.mem_cons_of_mem _ member)

theorem readFrom_after {after : List Line}
    (others : ∀ line ∈ after, ¬ Text.Blank line.text ∧ ¬ NamesLength line.text) (size : Nat)
    (rest : List UInt8) (ended : Bool) :
    readFrom ended (some size) (after.flatMap Line.bytes ++ rest) =
      readFrom ended (some size) rest := by
  induction after with
  | nil => rfl
  | cons line after ih =>
    rw [List.flatMap_cons, List.append_assoc, readFrom_other (others line List.mem_cons_self)]
    exact ih fun line member => others line (List.mem_cons_of_mem _ member)

/-- As many bytes as the length says are the body. -/
theorem readBody_encode (body : String) (rest : List UInt8) (ended : Bool) :
    readBody ended (Utf8.encode body).length (Utf8.encode body ++ rest) = .body body rest := by
  simp [readBody, Utf8.decode_encode]

/-- The frame that `encode` makes has the length as its only header line. -/
theorem encode_eq (body : String) : ∃ length last : Line,
    GivesLength (Utf8.encode body).length length.text ∧ Text.Blank last.text ∧
    encode body = [length, last].flatMap Line.bytes ++ Utf8.encode body := by
  let digits := Nat.toDigits 10 (Utf8.encode body).length
  have plain : '\n' ∉ "Content-Length: ".toList ++ digits := by
    rw [List.mem_append, not_or]
    refine ⟨by decide, fun member => ?_⟩
    exact absurd (Nat.isDigit_of_mem_toDigits (by decide) (by decide) member) (by decide)
  refine ⟨⟨_, true, plain⟩, ⟨[], true, by simp⟩, ?_, Text.blank_nil, ?_⟩
  · refine ⟨[], "Content-Length".toList, [], [' '], 0, [], ?_, ?_, ?_, ?_, ?_, ?_⟩
    · simp [numeral, digits]
    all_goals decide
  · have header : "Content-Length: " ++ String.ofList digits ++ "\r\n\r\n" = String.ofList
        (("Content-Length: ".toList ++ digits ++ ['\r', '\n']) ++ ['\r', '\n']) := by
      apply String.toList_inj.mp
      simp
    change Utf8.encode ("Content-Length: " ++ String.ofList digits ++ "\r\n\r\n") ++ _ = _
    rw [header, Utf8.encode_append]
    simp [Line.bytes, Line.ending]

/-- A frame is read as its body, and what follows it is left. -/
theorem read_framed (framed : Framed body bytes) (rest : List UInt8) (ended : Bool) :
    read ended (bytes ++ rest) = .body body rest := by
  have headed : ∀ (before : List Line) (length : Line) (after : List Line) (last : Line),
      (∀ line ∈ before, Text.Blank line.text ∨ ¬ NamesLength line.text) →
      GivesLength (Utf8.encode body).length length.text →
      (∀ line ∈ after, ¬ Text.Blank line.text ∧ ¬ NamesLength line.text) →
      Text.Blank last.text → (Utf8.encode body).length < UInt64.size →
      read ended ((before ++ length :: after ++ [last]).flatMap Line.bytes ++ Utf8.encode body ++
        rest) = .body body rest := by
    intro before length after last passed gives others blank small
    simp only [List.flatMap_append, List.flatMap_cons, List.flatMap_nil, List.append_nil,
      List.append_assoc]
    rw [read, readFrom_before passed, readFrom_gives gives small, readFrom_after others,
      readFrom_last blank, readBody_encode]
  cases framed with
  | encoded small =>
    obtain ⟨length, last, gives, blank, same⟩ := encode_eq body
    rw [same]
    exact headed [] length [] last (by simp) gives (by simp) blank small
  | headed before length after last passed gives others blank small =>
    exact headed before length after last passed gives others blank small

theorem readDigits_lt {value length : Nat} (read : readDigits value text = .ok length)
    (small : value < UInt64.size) : length < UInt64.size := by
  induction text generalizing value with
  | nil =>
    cases read
    exact small
  | cons c rest ih =>
    simp only [readDigits] at read
    split at read
    · split at read
      · cases read
      · rename_i fits
        refine ih read ?_
        rw [show UInt64.size = 18446744073709551615 + 1 from rfl]
        omega
    · cases read

theorem lengthOf_lt {length : Nat} (given : lengthOf line = .ok (some length)) :
    length < UInt64.size := by
  have zero : 0 < UInt64.size := by decide
  simp only [lengthOf] at given
  split at given
  · split at given
    · rename_i read
      cases given
      unfold readLength at read
      split at read
      · cases read
      · cases read
      · exact readDigits_lt read zero
      · exact readDigits_lt read zero
    · cases given
  · cases given

theorem readFrom_lt (found : readFrom ended length input = .body text rest)
    (small : ∀ size, length = some size → size < UInt64.size) :
    (Utf8.encode text).length < UInt64.size := by
  fun_induction readFrom ended length input with
  | case1 | case2 | case3 | case6 => simp at found
  | case4 input byte line after taken line' decoded header blank length =>
    simp only [readBody] at found
    split at found
    · split at found <;> cases found
    · split at found
      · rename_i value read
        cases found
        rw [Utf8.encode_of_decode read]
        exact Nat.lt_of_le_of_lt (List.length_take_le _ _) (small length rfl)
      · cases found
  | case5 input byte line after taken line' decoded header blank ih => exact ih found small
  | case7 length input byte line after taken line' decoded header full given size ih =>
    refine ih found fun other same => ?_
    cases same
    exact lengthOf_lt size
  | case8 length input byte line after taken line' decoded header full size ih =>
    exact ih found small

/-- A body that was read can be framed again. -/
theorem framed_of_read (found : read ended input = .body text rest) : Framed text (encode text) :=
  .encoded (readFrom_lt found (by simp))

theorem Holds.framed (holds : Holds ended bytes bodies left) (member : body ∈ bodies) :
    Framed body (encode body) := by
  induction holds with
  | nothing => exact absurd member List.not_mem_nil
  | frame found _ ih =>
    rcases List.mem_cons.mp member with rfl | behind
    · exact framed_of_read found
    · exact ih behind

theorem framed_append (framed : List.Forall₂ Framed (bodies ++ more) frames) :
    ∃ before after, frames = before ++ after ∧ List.Forall₂ Framed bodies before ∧
      List.Forall₂ Framed more after := by
  induction bodies generalizing frames with
  | nil => exact ⟨[], frames, rfl, .nil, framed⟩
  | cons body rest ih =>
    cases framed with
    | cons first behind =>
      obtain ⟨before, after, rfl, framed, framed'⟩ := ih behind
      exact ⟨_ :: before, after, rfl, .cons first framed, framed'⟩

/-- Bodies that were framed are read back in their order, whatever follows them and whether or not
more may come; what follows them is left unread, and when nothing does, reading finds the end. -/
theorem framed_bodies_read_back (framed : List.Forall₂ Framed bodies frames)
    (following : List UInt8) (ended : Bool) :
    Holds ended (frames.flatten ++ following) bodies following ∧
      (following = [] → read true following = .ended) := by
  constructor
  · induction framed with
    | nil => exact .nothing _
    | cons first _ ih =>
      rw [List.flatten_cons, List.append_assoc]
      exact .frame (read_framed first _ ended) ih
  · rintro rfl
    decide +kernel

/-- A header with a blank line before it, another line on either side of the length, and blanks and
letters as they come. -/
def uncommon : List UInt8 :=
  Utf8.encode " \r\nAccept: x\n cONTENT-length\t: 02 \r\nx\r\n\n"

theorem framed_uncommon : Framed "é" (uncommon ++ Utf8.encode "é") :=
  .headed [⟨[' '], true, by decide⟩, ⟨"Accept: x".toList, false, by decide⟩]
    ⟨" cONTENT-length\t: 02 ".toList, true, by decide⟩ [⟨['x'], true, by decide⟩]
    ⟨[], false, by decide⟩
    (by
      intro line member
      rcases List.mem_pair.mp member with rfl | rfl
      · exact .inl (by decide)
      · exact .inr (not_namesLength_of_short (by decide)))
    ⟨[' '], "cONTENT-length".toList, ['\t'], [' '], 1, [' '], by decide, by decide, by decide,
      by decide, by decide, by decide⟩
    (by
      intro line member
      rw [List.mem_singleton.mp member]
      exact ⟨by decide, not_namesLength_of_short (by decide)⟩)
    (by decide) (by decide)

/-- A body that looks like a header is read back, and so is one under an uncommon header. -/
theorem header_like_body_reads_back :
    List.Forall₂ Framed ["Content-Length: 9\r\n\r\n", "é"]
      [encode "Content-Length: 9\r\n\r\n", uncommon ++ Utf8.encode "é"] ∧
    Holds false ([encode "Content-Length: 9\r\n\r\n", uncommon ++ Utf8.encode "é"].flatten ++ [255])
      ["Content-Length: 9\r\n\r\n", "é"] [255] :=
  have framed := .cons (.encoded (by decide)) (.cons framed_uncommon .nil)
  ⟨framed, (framed_bodies_read_back framed [255] false).1⟩

end LanguageBridge.Frame

/-!
Headers without a length. The blank line behind them is taken for one between frames, so that what
follows is read as if they were not there.
-/
namespace LanguageBridge.Frame

/-- Any bytes up to a line feed. -/
structure Row where
  front : List UInt8
  whole : feed ∉ front

namespace Row

def bytes (row : Row) : List UInt8 := row.front ++ [feed]

/-- The row is text. -/
def Legible (row : Row) : Prop := ∃ text, Utf8.decode row.bytes = .ok text

/-- The row is nothing but white space. -/
def Blank (row : Row) : Prop := ∃ text, Utf8.decode row.bytes = .ok text ∧ Text.Blank text.toList

/-- The row is a header line of the length. -/
def NamesLength (row : Row) : Prop :=
  ∃ text, Utf8.decode row.bytes = .ok text ∧ Frame.NamesLength text.toList

variable {row : Row}

theorem blank_iff {text : String} (decoded : Utf8.decode row.bytes = .ok text) :
    row.Blank ↔ Text.Blank text.toList := by
  simp [Blank, decoded]

theorem namesLength_iff {text : String} (decoded : Utf8.decode row.bytes = .ok text) :
    row.NamesLength ↔ Frame.NamesLength text.toList := by
  simp [NamesLength, decoded]

theorem Blank.legible (blank : row.Blank) : row.Legible := blank.imp fun _ => And.left

theorem Blank.unmeasured (blank : row.Blank) : ¬ row.NamesLength := by
  obtain ⟨text, decoded, blank⟩ := blank
  rw [namesLength_iff decoded]
  rintro ⟨before, name, after, rest, whole, _, spells, _⟩
  obtain ⟨c, member⟩ := List.exists_mem_of_ne_nil name spells.ne_nil
  have white := blank c (by simp [whole, member])
  rw [spells.not_blank member] at white
  cases white

end Row

theorem takeLine_row (row : Row) (rest : List UInt8) (ended : Bool) :
    ∃ byte line, row.bytes = byte :: line ∧
      takeLine ended (row.bytes ++ rest) = some (byte :: line, rest) := by
  obtain ⟨byte, line, shape⟩ : ∃ byte line, row.bytes = byte :: line :=
    List.exists_cons_of_ne_nil (by simp [Row.bytes])
  refine ⟨byte, line, shape, ?_⟩
  rw [← shape, Row.bytes, List.append_assoc]
  exact takeLine_feed row.whole rest ended

/-- A row that gives no length is passed over. -/
theorem readFrom_legible {row : Row} (legible : row.Legible) (unmeasured : ¬ row.NamesLength)
    (rest : List UInt8) (ended : Bool) :
    readFrom ended none (row.bytes ++ rest) = readFrom ended none rest := by
  obtain ⟨text, decoded⟩ := legible
  obtain ⟨byte, line, shape, taken⟩ := takeLine_row row rest ended
  have other : ¬ NamesLength text.toList := fun names => unmeasured ⟨text, decoded, names⟩
  rw [readFrom_line taken (shape ▸ decoded)]
  split
  · rfl
  · simp only [lengthOf_of_other other]

theorem readFrom_illegible {row : Row} (illegible : ¬ row.Legible) (length : Option Nat)
    (rest : List UInt8) (ended : Bool) :
    readFrom ended length (row.bytes ++ rest) = .failed (.system .notText) := by
  obtain ⟨byte, line, shape, taken⟩ := takeLine_row row rest ended
  cases decoded : Utf8.decode row.bytes with
  | ok text => exact absurd ⟨text, decoded⟩ illegible
  | error error => exact readFrom_of_not_text taken (shape ▸ decoded) length

/-- Rows that give no length are passed over one after the other, up to one that is no text. -/
theorem readFrom_rows {rows : List Row} (unmeasured : ∀ row ∈ rows, ¬ row.NamesLength)
    (rest : List UInt8) (ended : Bool) :
    (∀ row ∈ rows, row.Legible) ∧
        readFrom ended none (rows.flatMap Row.bytes ++ rest) = readFrom ended none rest ∨
      (∃ row ∈ rows, ¬ row.Legible) ∧
        readFrom ended none (rows.flatMap Row.bytes ++ rest) = .failed (.system .notText) := by
  induction rows with
  | nil => exact .inl ⟨by simp, rfl⟩
  | cons row rows ih =>
    obtain ⟨here, there⟩ := List.forall_mem_cons.mp unmeasured
    rw [List.flatMap_cons, List.append_assoc]
    by_cases legible : row.Legible
    · rw [readFrom_legible legible here]
      refine (ih there).imp (fun ⟨others, same⟩ => ⟨?_, same⟩) fun ⟨others, same⟩ => ⟨?_, same⟩
      · exact List.forall_mem_cons.mpr ⟨legible, others⟩
      · exact List.exists_mem_cons_of_exists others
    · exact .inr ⟨⟨row, List.mem_cons_self, legible⟩, readFrom_illegible legible _ _ _⟩

/-- A header that gives no length, behind blank lines and with a blank line behind it, is refused
exactly if one of its lines is no text or what follows is refused. Otherwise it is passed over, and
the body that is read is the one of what follows. -/
theorem unmeasured_header_refused_iff {blanks header : List Row} {last : Row}
    (front : ∀ row ∈ blanks, row.Blank)
    (unmeasured : ∀ row ∈ header, ¬ row.Blank ∧ ¬ row.NamesLength) (final : last.Blank)
    (rest : List UInt8) (ended : Bool) :
    let stream := (blanks ++ header ++ [last]).flatMap Row.bytes ++ rest
    ((∃ failure, read ended stream = .failed failure) ↔
      (∃ row ∈ header, ¬ row.Legible) ∨ ∃ failure, read ended rest = .failed failure) ∧
    ∀ body after, read ended stream = .body body after ↔
      (∀ row ∈ header, row.Legible) ∧ read ended rest = .body body after := by
  intro stream
  have passed : ∀ row ∈ blanks ++ header ++ [last], ¬ row.NamesLength := by
    intro row member
    simp only [List.mem_append, List.mem_singleton] at member
    rcases member with (before | inside) | rfl
    · exact (front row before).unmeasured
    · exact (unmeasured row inside).2
    · exact final.unmeasured
  rcases readFrom_rows passed rest ended with ⟨legible, same⟩ | ⟨⟨row, member, illegible⟩, failed⟩
  · have texts : ∀ row ∈ header, row.Legible := fun row member => legible row (by simp [member])
    have none : ¬ ∃ row ∈ header, ¬ row.Legible :=
      fun ⟨row, member, illegible⟩ => illegible (texts row member)
    change read ended stream = read ended rest at same
    rw [same]
    exact ⟨⟨.inr, fun refused => refused.resolve_left none⟩,
      fun body after => ⟨fun found => ⟨texts, found⟩, And.right⟩⟩
  · have inside : row ∈ header := by
      simp only [List.mem_append, List.mem_singleton] at member
      rcases member with (before | inside) | rfl
      · exact absurd (front row before).legible illegible
      · exact inside
      · exact absurd final.legible illegible
    change read ended stream = _ at failed
    rw [failed]
    refine ⟨iff_of_true ⟨_, rfl⟩ (.inl ⟨row, inside, illegible⟩), fun body after => ?_⟩
    exact iff_of_false (by simp) fun ⟨legible, _⟩ => illegible (legible row inside)

/-- A header line that does not name the length. -/
def foreignRow : Row := ⟨Utf8.encode "X: y\r", by decide⟩

/-- An empty line. -/
def emptyRow : Row := ⟨Utf8.encode "\r", by decide⟩

theorem foreignRow_unmeasured : ¬ foreignRow.Blank ∧ ¬ foreignRow.NamesLength := by
  have decoded : Utf8.decode foreignRow.bytes = .ok "X: y\r\n" := by decide +kernel
  rw [Row.blank_iff decoded, Row.namesLength_iff decoded]
  exact ⟨by decide, not_namesLength_of_short (by decide)⟩

theorem emptyRow_blank : emptyRow.Blank := ⟨"\r\n", by decide +kernel, by decide⟩

/-- Behind a header without a length the body of the next frame is read. -/
theorem body_behind_unmeasured_header :
    emptyRow.Blank ∧ (¬ foreignRow.Blank ∧ ¬ foreignRow.NamesLength) ∧
      read true (([emptyRow] ++ [foreignRow] ++ [emptyRow]).flatMap Row.bytes ++ encode "{}") =
        .body "{}" [] := by
  have blank : ∀ row ∈ [emptyRow], row.Blank := by
    rintro row (_ | ⟨_, ⟨⟩⟩)
    exact emptyRow_blank
  have unmeasured : ∀ row ∈ [foreignRow], ¬ row.Blank ∧ ¬ row.NamesLength := by
    rintro row (_ | ⟨_, ⟨⟩⟩)
    exact foreignRow_unmeasured
  have legible : ∀ row ∈ [foreignRow], row.Legible := by
    rintro row (_ | ⟨_, ⟨⟩⟩)
    exact ⟨"X: y\r\n", by decide +kernel⟩
  have found : read true (encode "{}") = .body "{}" [] := by decide +kernel
  have bodies := (unmeasured_header_refused_iff blank unmeasured emptyRow_blank (encode "{}") true).2
  exact ⟨emptyRow_blank, foreignRow_unmeasured, (bodies "{}" []).mpr ⟨legible, found⟩⟩

/-- A header that gives no length is not refused on its own account. -/
theorem unmeasured_header_passed_over :
    ¬ ∀ (blanks header : List Row) (last : Row) (rest : List UInt8),
      (∀ row ∈ blanks, row.Blank) → header ≠ [] →
      (∀ row ∈ header, ¬ row.Blank ∧ ¬ row.NamesLength) → last.Blank →
      ∃ failure, read true ((blanks ++ header ++ [last]).flatMap Row.bytes ++ rest) =
        .failed failure := by
  intro claimed
  obtain ⟨failure, failed⟩ := claimed [] [foreignRow] emptyRow (encode "{}") (by simp) (by simp)
    (by simp [foreignRow_unmeasured]) emptyRow_blank
  have found : read true (([] ++ [foreignRow] ++ [emptyRow]).flatMap Row.bytes ++ encode "{}") =
      .body "{}" [] := by decide +kernel
  rw [found] at failed
  cases failed

end LanguageBridge.Frame
