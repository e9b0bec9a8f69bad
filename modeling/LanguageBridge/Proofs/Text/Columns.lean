import LanguageBridge.Position
import LanguageBridge.Proofs.Text.Utf8

/-!
When columns in bytes and in units of UTF-16 are the same number: where all characters before take
one byte, and, for units behind the end of a line, where its bytes happen to be as many.
-/
namespace LanguageBridge.Text

/-- The first characters of a line, this many, are there and take one byte each. -/
def SingleBytes (line : Text) (count : Nat) : Prop :=
  count ≤ line.length ∧ ∀ c ∈ line.take count, c.utf8Size = 1

instance (line : Text) (count : Nat) : Decidable (line.SingleBytes count) :=
  inferInstanceAs (Decidable (_ ∧ _))

theorem singleBytes_zero (line : Text) : line.SingleBytes 0 := ⟨Nat.zero_le _, by simp⟩

theorem singleBytes_cons_succ (c : Char) (rest : Text) (count : Nat) :
    SingleBytes (c :: rest) (count + 1) ↔ c.utf8Size = 1 ∧ SingleBytes rest count := by
  simp only [SingleBytes, List.length_cons, Nat.add_le_add_iff_right, List.take_succ_cons,
    List.forall_mem_cons]
  exact and_left_comm

theorem unitsOf_pos (c : Char) : 0 < unitsOf c := by
  unfold unitsOf
  split <;> decide

theorem utf8Size_of_astral {c : Char} (astral : ¬ c.toNat < 0x10000) : c.utf8Size = 4 := by
  simp only [Char.utf8Size, UInt32.le_iff_toNat_le, UInt32.toNat_ofNatLT]
  change ¬ c.val.toNat < _ at astral
  rw [if_neg (by omega), if_neg (by omega), if_neg (by omega)]

theorem unitsOf_le_utf8Size (c : Char) : unitsOf c ≤ c.utf8Size := by
  unfold unitsOf
  split
  · exact c.utf8Size_pos
  · rename_i astral
    rw [utf8Size_of_astral astral]
    decide

/-- Only characters of one byte take as many units as bytes. -/
theorem unitsOf_lt_utf8Size {c : Char} (wide : c.utf8Size ≠ 1) : unitsOf c < c.utf8Size := by
  have positive := c.utf8Size_pos
  unfold unitsOf
  split
  · omega
  · rename_i astral
    rw [utf8Size_of_astral astral]
    decide

theorem unitsOf_eq_one {c : Char} (single : c.utf8Size = 1) : unitsOf c = 1 :=
  Nat.le_antisymm (single ▸ unitsOf_le_utf8Size c) (unitsOf_pos c)

theorem unitsBefore_le (line : Text) (offset : Nat) : line.unitsBefore offset ≤ offset := by
  induction line generalizing offset with
  | nil => exact Nat.zero_le _
  | cons c rest ih =>
    unfold unitsBefore
    split
    · rename_i fits
      have units := unitsOf_le_utf8Size c
      have more := ih (offset - c.utf8Size)
      omega
    · exact Nat.zero_le _

/-- As many units as bytes come first exactly if that many characters of one byte do. -/
theorem unitsBefore_eq_iff (line : Text) (offset : Nat) :
    line.unitsBefore offset = offset ↔ line.SingleBytes offset := by
  induction line generalizing offset with
  | nil => simp [unitsBefore, SingleBytes, eq_comm]
  | cons c rest ih =>
    cases offset with
    | zero =>
      have some := c.utf8Size_pos
      simp [unitsBefore, singleBytes_zero, Nat.not_le.mpr some]
    | succ offset =>
      rw [singleBytes_cons_succ, unitsBefore]
      by_cases single : c.utf8Size = 1
      · simp [single, unitsOf_eq_one single, ← ih offset, Nat.add_comm 1]
      · simp only [single, false_and, iff_false]
        have less := unitsOf_lt_utf8Size single
        have bound := unitsBefore_le rest (offset + 1 - c.utf8Size)
        split <;> omega

/-- Units behind the end lead to the end. -/
theorem byteAt_of_unitLength_le {line : Text} {units : Nat} (past : line.unitLength ≤ units) :
    line.byteAt units = line.byteLength := by
  induction line generalizing units with
  | nil => rfl
  | cons c rest ih =>
    rw [unitLength] at past
    have some := unitsOf_pos c
    rw [byteAt, if_neg (by omega), byteLength_cons, ih (by omega)]

theorem le_byteAt {line : Text} {units : Nat} (within : units ≤ line.unitLength) :
    units ≤ line.byteAt units := by
  induction line generalizing units with
  | nil => exact within
  | cons c rest ih =>
    rw [unitLength] at within
    rw [byteAt]
    split
    · omega
    · have size := unitsOf_le_utf8Size c
      have more : units - unitsOf c ≤ byteAt rest (units - unitsOf c) := ih (by omega)
      omega

/-- Units lead to an offset of the same number exactly if that many characters of one byte come
first, or the end is reached and the line has as many bytes. -/
theorem byteAt_eq_iff (line : Text) (units : Nat) :
    line.byteAt units = units ↔
      line.SingleBytes units ∨ line.unitLength ≤ units ∧ line.byteLength = units := by
  constructor
  · intro same
    by_cases past : line.unitLength ≤ units
    · exact .inr ⟨past, byteAt_of_unitLength_le past ▸ same⟩
    · left
      induction line generalizing units with
      | nil => exact absurd (Nat.zero_le _) past
      | cons c rest ih =>
        cases units with
        | zero => exact singleBytes_zero _
        | succ units =>
          rw [unitLength] at past
          rw [byteAt, if_neg (by omega)] at same
          have below : units + 1 - unitsOf c ≤ byteAt rest (units + 1 - unitsOf c) :=
            le_byteAt (by omega)
          by_cases single : c.utf8Size = 1
          · have one := unitsOf_eq_one single
            rw [one, Nat.add_sub_cancel] at same below
            exact (singleBytes_cons_succ ..).mpr ⟨single, ih units (by omega) (by omega)⟩
          · have less := unitsOf_lt_utf8Size single
            omega
  · rintro (single | ⟨past, same⟩)
    · induction line generalizing units with
      | nil => simpa [byteAt, SingleBytes, eq_comm] using single
      | cons c rest ih =>
        cases units with
        | zero => simp [byteAt]
        | succ units =>
          obtain ⟨first, others⟩ := (singleBytes_cons_succ ..).mp single
          rw [byteAt, if_neg (by omega), unitsOf_eq_one first, first, Nat.add_sub_cancel,
            ih units others, Nat.add_comm]
    · rw [byteAt_of_unitLength_le past, same]

end LanguageBridge.Text

/-!
How columns in bytes and in units lead to each other. Units round up to the next character and bytes
round down, so that each way is the other's adjoint; between two characters both are exact, and
places there come back as they were.
-/
namespace LanguageBridge.Text

@[simp] theorem unitLength_cons (c : Char) (rest : Text) :
    unitLength (c :: rest) = unitsOf c + unitLength rest := rfl

@[simp] theorem unitLength_append (first second : Text) :
    unitLength (first ++ second) = unitLength first + unitLength second := by
  induction first with
  | nil => simp [unitLength]
  | cons c rest ih => simp [ih, Nat.add_assoc]

/-- Units lead no further than an offset exactly if no fewer units come before it. -/
theorem byteAt_le_iff {line : Text} {units : Nat} (within : units ≤ line.unitLength)
    (offset : Nat) : line.byteAt units ≤ offset ↔ units ≤ line.unitsBefore offset := by
  induction line generalizing units offset with
  | nil =>
    obtain rfl : units = 0 := Nat.le_zero.mp within
    simp [byteAt]
  | cons c rest ih =>
    by_cases none : units = 0
    · simp [byteAt, none]
    rw [unitLength_cons] at within
    rw [byteAt, if_neg none, unitsBefore]
    by_cases fits : c.utf8Size ≤ offset
    · have fewer : units - unitsOf c ≤ unitLength rest := by omega
      have behind := ih fewer (offset - c.utf8Size)
      rw [if_pos fits]
      omega
    · rw [if_neg fits]
      omega

/-- Between two characters as many units come first as the characters before take. -/
theorem unitsBefore_append (before after : Text) :
    (before ++ after).unitsBefore before.byteLength = before.unitLength := by
  induction before with
  | nil =>
    cases after with
    | nil => rfl
    | cons c rest => exact if_neg (Nat.not_le.mpr c.utf8Size_pos)
  | cons c rest ih =>
    rw [List.cons_append, unitsBefore, byteLength_cons, if_pos (Nat.le_add_right _ _),
      Nat.add_sub_cancel_left, ih, unitLength_cons]

/-- The units that some characters take lead behind them. -/
theorem byteAt_append (before after : Text) :
    (before ++ after).byteAt before.unitLength = before.byteLength := by
  induction before with
  | nil => cases after <;> simp [byteAt, unitLength]
  | cons c rest ih =>
    have some := unitsOf_pos c
    rw [List.cons_append, byteAt, unitLength_cons, if_neg (by omega), Nat.add_sub_cancel_left, ih,
      byteLength_cons]

theorem unitsBefore_le_unitLength (line : Text) (offset : Nat) :
    line.unitsBefore offset ≤ line.unitLength := by
  induction line generalizing offset with
  | nil => exact Nat.le_refl _
  | cons c rest ih =>
    rw [unitsBefore, unitLength_cons]
    split
    · exact Nat.add_le_add_left (ih _) _
    · exact Nat.zero_le _

end LanguageBridge.Text

namespace LanguageBridge

open Text

variable {line : Text}

theorem narrow_of_lt {value : Nat} (small : value < 4294967296) : narrow value = value :=
  Nat.mod_eq_of_lt small

/-- An editor's place between two characters of its line, or at one of its ends. -/
def EditorPosition.Parts (position : EditorPosition) (line : Text) : Prop :=
  ∃ before after, line = before ++ after ∧ position.column = before.byteLength + 1

/-- A protocol's place between two characters of its line, or at one of its ends. -/
def ProtocolPosition.Parts (position : ProtocolPosition) (line : Text) : Prop :=
  ∃ before after, line = before ++ after ∧ position.character = before.unitLength

theorem EditorPosition.Parts.toEditor_toProtocol {position : EditorPosition}
    (parts : position.Parts line) (first : 1 ≤ position.line) (last : position.line ≤ 4294967296)
    (short : line.unitLength < 4294967296) :
    (position.toProtocol (some line)).toEditor (some line) = position := by
  obtain ⟨before, after, rfl, column⟩ := parts
  obtain ⟨row, _⟩ := position
  dsimp only at first last column
  have units : before.unitLength < 4294967296 := by
    rw [unitLength_append] at short
    omega
  rw [column, EditorPosition.toProtocol, ProtocolPosition.toEditor]
  simp only [Nat.add_sub_cancel, unitsBefore_append, narrow_of_lt units, byteAt_append,
    EditorPosition.mk.injEq, and_true]
  rw [narrow_of_lt (by omega), Nat.sub_add_cancel first]

theorem ProtocolPosition.Parts.character_le {position : ProtocolPosition}
    (parts : position.Parts line) : position.character ≤ line.unitLength := by
  obtain ⟨before, after, rfl, character⟩ := parts
  rw [character, unitLength_append]
  exact Nat.le_add_right _ _

/-- A place of the protocol comes back from the editor if it parts its line, or if its line is not
known. -/
theorem ProtocolPosition.toProtocol_toEditor {position : ProtocolPosition} {line : Option Text}
    (parts : ∀ given, line = some given → position.Parts given)
    (row : position.line < 4294967296) (units : position.character < 4294967296) :
    (position.toEditor line).toProtocol line = position := by
  obtain ⟨number, character⟩ := position
  dsimp only at row units
  cases line with
  | none =>
    simp only [ProtocolPosition.toEditor, EditorPosition.toProtocol, Nat.add_sub_cancel,
      narrow_of_lt units, narrow_of_lt row]
  | some line =>
    obtain ⟨before, after, rfl, same⟩ := parts line rfl
    dsimp only at same
    subst same
    simp only [ProtocolPosition.toEditor, EditorPosition.toProtocol, Nat.add_sub_cancel,
      byteAt_append, unitsBefore_append, narrow_of_lt units, narrow_of_lt row]

theorem ProtocolPosition.Parts.toProtocol_toEditor {position : ProtocolPosition}
    (parts : position.Parts line) (last : position.line < 4294967296)
    (short : line.unitLength < 4294967296) :
    (position.toEditor (some line)).toProtocol (some line) = position := by
  have units := Nat.lt_of_le_of_lt parts.character_le short
  refine ProtocolPosition.toProtocol_toEditor ?_ last units
  rintro _ ⟨⟩
  exact parts

/-- Bytes and units of a line answer each other: units lead no further than an offset exactly if no
fewer come before it, and always between two characters. So on a line whose units the protocol can
count, places between characters come back from the protocol and from the editor as they were. -/
theorem columns_answer_each_other (line : Text) :
    (∀ units offset, units ≤ line.unitLength →
      (line.byteAt units ≤ offset ↔ units ≤ line.unitsBefore offset)) ∧
    (∀ units, Boundary line (line.byteAt units)) ∧
    (line.unitLength < 4294967296 →
      (∀ offset, narrow (line.unitsBefore offset) = line.unitsBefore offset) ∧
      (∀ position : EditorPosition, 1 ≤ position.line → position.line ≤ 4294967296 →
        position.Parts line →
          (position.toProtocol (some line)).toEditor (some line) = position) ∧
      ∀ position : ProtocolPosition, position.line < 4294967296 → position.Parts line →
        (position.toEditor (some line)).toProtocol (some line) = position) := by
  refine ⟨fun units offset within => byteAt_le_iff within offset, byteAt_boundary line, ?_⟩
  intro short
  refine ⟨fun offset => ?_, ?_, ?_⟩
  · exact narrow_of_lt (Nat.lt_of_le_of_lt (line.unitsBefore_le_unitLength offset) short)
  · exact fun position first last parts => parts.toEditor_toProtocol first last short
  · exact fun position last parts => parts.toProtocol_toEditor last short

/-- A line with characters of two and of four bytes. -/
def wideLine : Text := ['é', '😀', 'x']

/-- An offset inside the character of two units is not as far as the second of all units leads; the
place behind that character comes back both ways. -/
theorem wide_columns_answer_each_other :
    (2 ≤ wideLine.unitLength ∧ (wideLine.byteAt 2 ≤ 5 ↔ 2 ≤ wideLine.unitsBefore 5)) ∧
      wideLine.unitLength < 4294967296 ∧
      (EditorPosition.Parts ⟨3, 7⟩ wideLine ∧
        (EditorPosition.toProtocol ⟨3, 7⟩ (some wideLine)).toEditor (some wideLine) = ⟨3, 7⟩) ∧
      ProtocolPosition.Parts ⟨2, 3⟩ wideLine ∧
        (ProtocolPosition.toEditor ⟨2, 3⟩ (some wideLine)).toProtocol (some wideLine) =
          ⟨2, 3⟩ := by
  obtain ⟨adjoint, _, exactly⟩ := columns_answer_each_other wideLine
  have short : wideLine.unitLength < 4294967296 := by decide
  have column : EditorPosition.Parts ⟨3, 7⟩ wideLine := ⟨['é', '😀'], ['x'], rfl, rfl⟩
  have character : ProtocolPosition.Parts ⟨2, 3⟩ wideLine := ⟨['é', '😀'], ['x'], rfl, rfl⟩
  obtain ⟨_, editors, protocols⟩ := exactly short
  exact ⟨⟨by decide, adjoint 2 5 (by decide)⟩, short,
    ⟨column, editors _ (by decide) (by decide) column⟩,
    character, protocols _ (by decide) character⟩

end LanguageBridge

/-!
Places beyond what the protocol can count. Its numbers have 32 bits and the editor's have more, and
a number that does not fit loses its high bits. So places keep their order only up to the last one
that can be counted, and further ones do not end up there.
-/
namespace LanguageBridge.Text

theorem unitsOf_le_two (c : Char) : unitsOf c ≤ 2 := by
  unfold unitsOf
  split <;> decide

@[simp] theorem unitsBefore_zero (line : Text) : line.unitsBefore 0 = 0 :=
  Nat.le_zero.mp (unitsBefore_le line 0)

/-- One byte more completes one character at most. -/
theorem unitsBefore_succ_le (line : Text) (offset : Nat) :
    line.unitsBefore (offset + 1) ≤ line.unitsBefore offset + 2 := by
  induction line generalizing offset with
  | nil => exact Nat.zero_le _
  | cons c rest ih =>
    rw [unitsBefore, unitsBefore]
    by_cases before : c.utf8Size ≤ offset
    · have later := ih (offset - c.utf8Size)
      rw [← Nat.sub_add_comm before] at later
      rw [if_pos (Nat.le_succ_of_le before), if_pos before]
      omega
    · rw [if_neg before]
      split
      · have single := unitsOf_le_two c
        have ends : offset + 1 - c.utf8Size = 0 := by omega
        rw [ends, unitsBefore_zero]
        omega
      · exact Nat.zero_le _

theorem unitsBefore_mono (line : Text) {first second : Nat} (le : first ≤ second) :
    line.unitsBefore first ≤ line.unitsBefore second := by
  induction line generalizing first second with
  | nil => exact Nat.le_refl _
  | cons c rest ih =>
    rw [unitsBefore, unitsBefore]
    split
    · rename_i fits
      rw [if_pos (Nat.le_trans fits le)]
      exact Nat.add_le_add_left (ih (Nat.sub_le_sub_right le _)) _
    · exact Nat.zero_le _

end LanguageBridge.Text

namespace LanguageBridge

variable {first second : EditorPosition} {line : Option Text} {value limit : Nat}

/-- A number comes to the smaller of itself and the greatest that is counted exactly if it is not
greater, or falls on the greatest by chance. -/
theorem narrow_eq_min_iff : narrow value = min value 4294967295 ↔
    value < 4294967296 ∨ 4294967296 ∣ value + 1 := by
  unfold narrow
  omega

theorem narrow_pred_eq_min_iff : narrow (value - 1) = min (value - 1) 4294967295 ↔
    value ≤ 4294967296 ∨ 4294967296 ∣ value := by
  rw [narrow_eq_min_iff]
  omega

/-- What a column of the editor comes to before it is narrowed: the units before it, or as many as
there are bytes when the line is not known. -/
def unitsAt (line : Option Text) (column : Nat) : Nat :=
  match line with
  | some line => line.unitsBefore (column - 1)
  | none => column - 1

theorem toProtocol_eq (position : EditorPosition) (line : Option Text) :
    position.toProtocol line =
      ⟨narrow (position.line - 1), narrow (unitsAt line position.column)⟩ := by
  cases line <;> rfl

theorem unitsAt_zero (line : Option Text) : unitsAt line 0 = 0 := by
  cases line with
  | none => rfl
  | some line => exact line.unitsBefore_zero

theorem unitsAt_mono (line : Option Text) {first second : Nat} (le : first ≤ second) :
    unitsAt line first ≤ unitsAt line second := by
  cases line with
  | none => exact Nat.sub_le_sub_right le 1
  | some line => exact line.unitsBefore_mono (Nat.sub_le_sub_right le 1)

/-- Units go up by two at most from one column to the next. -/
theorem unitsAt_succ_le (line : Option Text) (column : Nat) :
    unitsAt line (column + 1) ≤ unitsAt line column + 2 := by
  cases column with
  | zero =>
    have start : unitsAt line 1 = 0 := unitsAt_zero line
    rw [start]
    exact Nat.zero_le _
  | succ column =>
    cases line with
    | none =>
      simp only [unitsAt]
      omega
    | some line => exact line.unitsBefore_succ_le column

/-- Where units go beyond what can be counted, they do so from one column to the next. -/
theorem exists_crossing (beyond : 4294967296 ≤ unitsAt line limit) :
    ∃ column < limit, unitsAt line column < 4294967296 ∧
      4294967296 ≤ unitsAt line (column + 1) := by
  induction limit with
  | zero =>
    rw [unitsAt_zero] at beyond
    omega
  | succ limit ih =>
    by_cases earlier : 4294967296 ≤ unitsAt line limit
    · obtain ⟨column, less, crossing⟩ := ih earlier
      exact ⟨column, Nat.lt_succ_of_lt less, crossing⟩
    · exact ⟨limit, Nat.lt_succ_self _, Nat.lt_of_not_le earlier, beyond⟩

/-- Of two places on one line, the second comes before the first exactly if its units do once they
are narrowed. -/
theorem before_eq_false_iff (same : first.line = second.line) :
    (second.toProtocol line).before (first.toProtocol line) = false ↔
      narrow (unitsAt line first.column) ≤ narrow (unitsAt line second.column) := by
  simp [toProtocol_eq, same, ProtocolPosition.before, ProtocolPosition.notAfter]

/-- The places of a line keep their order up to a column exactly if the units up to there can be
counted. -/
theorem columns_in_order_iff (line : Option Text) (limit : Nat) :
    (∀ first second : EditorPosition, first.line = second.line → first.column ≤ second.column →
      second.column ≤ limit → (second.toProtocol line).before (first.toProtocol line) = false) ↔
      unitsAt line limit < 4294967296 := by
  constructor
  · intro kept
    refine Nat.lt_of_not_le fun beyond => ?_
    obtain ⟨column, less, counted, crossed⟩ := exists_crossing beyond
    have step := unitsAt_succ_le line column
    let here : EditorPosition := ⟨1, column⟩
    let next : EditorPosition := ⟨1, column + 1⟩
    have same : here.line = next.line := rfl
    have order : narrow (unitsAt line column) ≤ narrow (unitsAt line (column + 1)) :=
      (before_eq_false_iff same).mp (kept here next same (Nat.le_succ _) less)
    rw [narrow, narrow] at order
    omega
  · intro counted first second same le within
    have far := unitsAt_mono line within
    have near := unitsAt_mono line le
    rw [before_eq_false_iff same, narrow_of_lt (by omega), narrow_of_lt (by omega)]
    exact near

/-- Places on different lines keep their order exactly up to the last line that can be counted. -/
theorem lines_in_order_iff (line : Option Text) (limit : Nat) :
    (∀ first second : EditorPosition, first.line - 1 < second.line - 1 → second.line ≤ limit →
      (second.toProtocol line).before (first.toProtocol line) = false) ↔ limit ≤ 4294967296 := by
  constructor
  · intro kept
    refine Nat.le_of_not_lt fun beyond => ?_
    have order := kept ⟨4294967296, 1⟩ ⟨4294967297, 1⟩ (by decide) beyond
    simp [toProtocol_eq, ProtocolPosition.before, ProtocolPosition.notAfter, narrow] at order
  · intro counted first second less within
    simp only [toProtocol_eq, ProtocolPosition.before, ProtocolPosition.notAfter]
    rw [narrow_of_lt (by omega), narrow_of_lt (by omega)]
    simp [less]

/-- A line comes to the smaller of its number from zero and the greatest that the protocol counts
exactly if its number is not above that or is a multiple of what the protocol wraps at, and likewise
a column whose line is not known. Places on one line keep their order up to a column exactly if the
units up to there can be counted, and places on different lines exactly up to the last line that
can. -/
theorem places_saturate_iff (line : Option Text) :
    (∀ position : EditorPosition,
      ((position.toProtocol line).line = min (position.line - 1) 4294967295 ↔
        position.line ≤ 4294967296 ∨ 4294967296 ∣ position.line) ∧
      ((position.toProtocol none).character = min (position.column - 1) 4294967295 ↔
        position.column ≤ 4294967296 ∨ 4294967296 ∣ position.column)) ∧
    (∀ limit,
      (∀ first second : EditorPosition, first.line = second.line → first.column ≤ second.column →
        second.column ≤ limit → (second.toProtocol line).before (first.toProtocol line) = false) ↔
        unitsAt line limit < 4294967296) ∧
    ∀ limit,
      (∀ first second : EditorPosition, first.line - 1 < second.line - 1 → second.line ≤ limit →
        (second.toProtocol line).before (first.toProtocol line) = false) ↔ limit ≤ 4294967296 :=
  ⟨fun _ => ⟨narrow_pred_eq_min_iff, narrow_pred_eq_min_iff⟩, columns_in_order_iff line,
    lines_in_order_iff line⟩

/-- On a line with characters of several bytes all columns of 64 bits keep their order, and so do
the last lines that are counted. -/
theorem wide_line_in_order :
    (unitsAt (some wideLine) 18446744073709551615 < 4294967296 ∧
      (EditorPosition.toProtocol ⟨1, 18446744073709551615⟩ (some wideLine)).before
        (EditorPosition.toProtocol ⟨1, 4⟩ (some wideLine)) = false) ∧
    (EditorPosition.toProtocol ⟨4294967296, 1⟩ (some wideLine)).before
      (EditorPosition.toProtocol ⟨4294967295, 9⟩ (some wideLine)) = false ∧
    (EditorPosition.toProtocol ⟨4294967296, 9⟩ (some wideLine)).line =
      min (4294967296 - 1) 4294967295 := by
  obtain ⟨saturated, columns, lines⟩ := places_saturate_iff (some wideLine)
  have counted : unitsAt (some wideLine) 18446744073709551615 < 4294967296 := by decide
  refine ⟨⟨counted, ?_⟩, ?_, ?_⟩
  · exact (columns 18446744073709551615).mpr counted ⟨1, 4⟩ ⟨1, 18446744073709551615⟩ rfl
      (by decide) (by decide)
  · exact (lines 4294967296).mpr (by decide) ⟨4294967295, 9⟩ ⟨4294967296, 1⟩ (by decide) (by decide)
  · exact (saturated ⟨4294967296, 9⟩).1.mpr (by decide)

/-- A place behind all that can be counted comes to the front, and the place behind the last column
that can be counted comes to be before the second one. -/
theorem distant_place_wraps :
    (EditorPosition.toProtocol ⟨4294967298, 4294967297⟩ none = ⟨1, 0⟩ ∧
      (⟨1, 0⟩ : ProtocolPosition) ≠
        ⟨min (4294967298 - 1) 4294967295, min (4294967297 - 1) 4294967295⟩) ∧
    (EditorPosition.toProtocol ⟨1, 4294967297⟩ none).before
      (EditorPosition.toProtocol ⟨1, 2⟩ none) = true := by
  decide

end LanguageBridge
