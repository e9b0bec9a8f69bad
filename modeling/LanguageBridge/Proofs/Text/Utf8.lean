import LanguageBridge.Text.Basic
import LanguageBridge.Text.Utf8

/-!
Byte offsets of a text. An offset that a piece of the text reaches cuts the text there, and units of
UTF-16 lead to offsets in the same order.
-/
namespace LanguageBridge.Text

@[simp] theorem byteLength_nil : byteLength [] = 0 := rfl

@[simp] theorem byteLength_cons (c : Char) (rest : Text) :
    byteLength (c :: rest) = c.utf8Size + byteLength rest := rfl

@[simp] theorem byteLength_append (first second : Text) :
    byteLength (first ++ second) = byteLength first + byteLength second := by
  induction first with
  | nil => simp
  | cons c rest ih => simp [ih, Nat.add_assoc]

theorem eq_nil_of_byteLength {text : Text} (empty : byteLength text = 0) : text = [] := by
  cases text with
  | nil => rfl
  | cons c rest =>
    have := c.utf8Size_pos
    rw [byteLength_cons] at empty
    omega

theorem exists_byteLength (length : Nat) : ∃ text : Text, text.byteLength = length := by
  induction length with
  | zero => exact ⟨[], rfl⟩
  | succ length ih =>
    obtain ⟨text, same⟩ := ih
    exact ⟨'a' :: text, by rw [byteLength_cons, same, Nat.add_comm]; rfl⟩

theorem splitAtByte_append (before after : Text) :
    splitAtByte (before ++ after) before.byteLength = (before, after) := by
  induction before with
  | nil => cases after <;> simp [splitAtByte]
  | cons c rest ih =>
    have positive := c.utf8Size_pos
    rw [byteLength_cons, List.cons_append, splitAtByte, if_neg (by omega), Nat.add_sub_cancel_left,
      ih]

/-- Of two ways to cut a text, the one that cuts later goes on from the other. -/
theorem append_eq_append_of_le {before after first rest : Text}
    (same : before ++ after = first ++ rest) (le : before.byteLength ≤ first.byteLength) :
    ∃ between, first = before ++ between ∧ after = between ++ rest := by
  rcases List.append_eq_append_iff.mp same with ⟨between, here, there⟩ | ⟨between, here, there⟩
  · exact ⟨between, here, there⟩
  · subst here
    have nothing : between = [] := by
      apply eq_nil_of_byteLength
      rw [byteLength_append] at le
      omega
    subst nothing
    exact ⟨[], by simp, by simpa using there.symm⟩

/-- An offset at which a text can be cut. -/
def Boundary (text : Text) (offset : Nat) : Prop :=
  ∃ before after, text = before ++ after ∧ before.byteLength = offset

theorem Boundary.le {text : Text} (boundary : Boundary text offset) :
    offset ≤ text.byteLength := by
  obtain ⟨before, after, rfl, rfl⟩ := boundary
  rw [byteLength_append]
  exact Nat.le_add_right _ _

theorem byteAt_boundary (text : Text) (units : Nat) : Boundary text (text.byteAt units) := by
  induction text generalizing units with
  | nil => exact ⟨[], [], rfl, rfl⟩
  | cons c rest ih =>
    by_cases none : units = 0
    · exact ⟨[], c :: rest, rfl, by simp [byteAt, none]⟩
    · obtain ⟨before, after, same, length⟩ := ih (units - unitsOf c)
      exact ⟨c :: before, after, by simp [same], by simp [byteAt, none, length]⟩

theorem byteAt_mono (text : Text) {first second : Nat} (le : first ≤ second) :
    text.byteAt first ≤ text.byteAt second := by
  induction text generalizing first second with
  | nil => exact Nat.le_refl _
  | cons c rest ih =>
    simp only [byteAt]
    split
    · exact Nat.zero_le _
    · rw [if_neg (by omega)]
      exact Nat.add_le_add_left (ih (Nat.sub_le_sub_right le _)) _

end LanguageBridge.Text

/-!
The bytes of a string are those of its characters one after the other, and lead back to the string.
A line feed is the one character with the byte of a line feed in it.
-/
namespace LanguageBridge.Utf8

theorem encode_ofList (text : Text) :
    encode (String.ofList text) = text.flatMap String.utf8EncodeChar := by
  rw [encode, String.toUTF8, String.toByteArray_ofList, List.utf8Encode]
  simp

theorem encode_append (first second : Text) :
    encode (String.ofList (first ++ second)) =
      encode (String.ofList first) ++ encode (String.ofList second) := by
  simp only [encode_ofList, List.flatMap_append]

theorem decode_encode (value : String) : decode (encode value) = .ok value := by
  have same : (⟨(encode value).toArray⟩ : ByteArray) = value.toByteArray := by
    simp [encode, String.toUTF8]
  have read : String.fromUTF8? value.toByteArray = some value := by
    rw [String.fromUTF8?, dif_pos value.isValidUTF8]
    rfl
  rw [decode, same, read]

/-- A string is read from its own bytes only. -/
theorem encode_of_decode {bytes : List UInt8} {value : String} (decoded : decode bytes = .ok value) :
    encode value = bytes := by
  unfold decode at decoded
  split at decoded
  · rename_i found
    cases decoded
    unfold String.fromUTF8? at found
    split at found
    · cases found
      simp [encode, String.fromUTF8]
    · cases found
  · cases decoded

/-- No byte of several that make one character is below the others. -/
theorem feed_ne_ofNat (value : Nat) (large : 10 < value) (small : value < 256) :
    (10 : UInt8) ≠ UInt8.ofNat value := by
  intro same
  have := congrArg UInt8.toNat same
  rw [UInt8.toNat_ofNat', Nat.mod_eq_of_lt small] at this
  exact absurd this (Nat.ne_of_lt large)

theorem feed_notMem_encodeChar {c : Char} (other : c ≠ '\n') :
    (10 : UInt8) ∉ String.utf8EncodeChar c := by
  unfold String.utf8EncodeChar
  dsimp only
  split
  · rename_i ascii
    intro member
    have same := congrArg UInt8.toNat (List.mem_singleton.mp member)
    rw [UInt8.toNat_ofNat', Nat.mod_eq_of_lt (by omega)] at same
    exact other (Char.ext (UInt32.toNat_inj.mp same.symm))
  · split
    · simp only [List.mem_cons, List.not_mem_nil, or_false, not_or]
      refine ⟨feed_ne_ofNat _ ?_ ?_, feed_ne_ofNat _ ?_ ?_⟩ <;> omega
    · split
      · simp only [List.mem_cons, List.not_mem_nil, or_false, not_or]
        refine ⟨feed_ne_ofNat _ ?_ ?_, feed_ne_ofNat _ ?_ ?_, feed_ne_ofNat _ ?_ ?_⟩ <;> omega
      · simp only [List.mem_cons, List.not_mem_nil, or_false, not_or]
        refine ⟨feed_ne_ofNat _ ?_ ?_, feed_ne_ofNat _ ?_ ?_, feed_ne_ofNat _ ?_ ?_,
          feed_ne_ofNat _ ?_ ?_⟩ <;> omega

theorem feed_notMem_encode {text : Text} (whole : '\n' ∉ text) :
    (10 : UInt8) ∉ encode (String.ofList text) := by
  rw [encode_ofList, List.mem_flatMap]
  rintro ⟨c, member, here⟩
  exact feed_notMem_encodeChar (fun same => whole (same ▸ member)) here

end LanguageBridge.Utf8
