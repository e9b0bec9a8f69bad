import LanguageBridge.Rpc.Frame

/-!
What a stream of bytes holds. The frames at the front of a stream are read one after the other, and
bytes that come later do not change what was read.
-/
namespace LanguageBridge.Frame

theorem takeLine_append (taken : takeLine false input = some (line, rest)) (more : List UInt8)
    (ended : Bool) : takeLine ended (input ++ more) = some (line, rest ++ more) := by
  induction input generalizing line with
  | nil => simp [takeLine] at taken
  | cons byte tail ih =>
    by_cases isFeed : byte = feed
    · simp only [takeLine, isFeed, if_true, Option.some.injEq, Prod.mk.injEq] at taken
      obtain ⟨rfl, rfl⟩ := taken
      simp [takeLine, isFeed]
    · simp only [takeLine, isFeed, if_false, Option.map_eq_some_iff] at taken
      obtain ⟨⟨before, after⟩, taken, same⟩ := taken
      cases same
      simp [takeLine, isFeed, ih taken]

theorem readBody_append (found : readBody false length input = .body text rest)
    (more : List UInt8) (ended : Bool) :
    readBody ended length (input ++ more) = .body text (rest ++ more) := by
  simp only [readBody] at found ⊢
  by_cases short : (input.take length).length < length
  · rw [if_pos short] at found
    cases found
  · have enough : length ≤ input.length := by
      rw [List.length_take] at short
      omega
    have same : (input ++ more).take length = input.take length :=
      List.take_append_of_le_length enough
    have left : (input ++ more).drop length = input.drop length ++ more :=
      List.drop_append_of_le_length enough
    rw [same, left]
    rw [if_neg short] at found ⊢
    cases decoded : Utf8.decode (input.take length) with
    | error error => simp [decoded] at found
    | ok value =>
      simp only [decoded, Reading.body.injEq] at found ⊢
      exact ⟨found.1, congrArg (· ++ more) found.2⟩

/-- What becomes of a line that is text: a blank one ends the header when a length is known, and any
other may give a length. -/
theorem readFrom_line (taken : takeLine ended input = some (byte :: line, rest))
    (decoded : Utf8.decode (byte :: line) = .ok text) (length : Option Nat) :
    readFrom ended length input =
      if (Text.trim text.toList).isEmpty then
        match length with
        | some length => readBody ended length rest
        | none => readFrom ended none rest
      else
        match lengthOf (Text.trim text.toList) with
        | .error failure => .failed failure
        | .ok (some length) => readFrom ended (some length) rest
        | .ok none => readFrom ended length rest := by
  rw [readFrom]
  split
  · rename_i absent
    simp [taken] at absent
  · rename_i empty
    simp [taken] at empty
  · rename_i found
    simp only [taken, Option.some.injEq, Prod.mk.injEq, List.cons.injEq] at found
    obtain ⟨⟨rfl, rfl⟩, rfl⟩ := found
    generalize Utf8.decode _ = decoding at decoded ⊢
    subst decoded
    rfl

theorem readFrom_of_not_text (taken : takeLine ended input = some (byte :: line, rest))
    (decoded : Utf8.decode (byte :: line) = .error error) (length : Option Nat) :
    readFrom ended length input = .failed (.system .notText) := by
  rw [readFrom]
  split
  · rename_i absent
    simp [taken] at absent
  · rename_i empty
    simp [taken] at empty
  · rename_i found
    simp only [taken, Option.some.injEq, Prod.mk.injEq, List.cons.injEq] at found
    obtain ⟨⟨rfl, rfl⟩, rfl⟩ := found
    generalize Utf8.decode _ = decoding at decoded ⊢
    subst decoded
    rfl

theorem readFrom_append (found : readFrom false length input = .body text rest)
    (more : List UInt8) (ended : Bool) :
    readFrom ended length (input ++ more) = .body text (rest ++ more) := by
  fun_induction readFrom false length input with
  | case1 | case2 | case3 | case6 => simp at found
  | case4 input byte line after taken line' decoded header blank length =>
    rw [readFrom_line (takeLine_append taken more ended) decoded, if_pos blank]
    exact readBody_append found more ended
  | case5 input byte line after taken line' decoded header blank ih =>
    rw [readFrom_line (takeLine_append taken more ended) decoded, if_pos blank]
    exact ih found
  | case7 length input byte line after taken line' decoded header full given size ih =>
    rw [readFrom_line (takeLine_append taken more ended) decoded, if_neg full, size]
    exact ih found
  | case8 length input byte line after taken line' decoded header full size ih =>
    rw [readFrom_line (takeLine_append taken more ended) decoded, if_neg full, size]
    exact ih found

/-- A frame that is whole is read alike whatever comes behind it. -/
theorem read_append (found : read false input = .body text rest) (more : List UInt8)
    (ended : Bool) : read ended (input ++ more) = .body text (rest ++ more) :=
  readFrom_append found more ended

theorem readBody_failed_append {cause : Failure}
    (found : readBody false length input = .failed cause) (more : List UInt8) (ended : Bool) :
    readBody ended length (input ++ more) = .failed cause := by
  simp only [readBody, Bool.false_eq_true, if_false] at found ⊢
  by_cases short : (input.take length).length < length
  · rw [if_pos short] at found
    cases found
  · have enough : length ≤ input.length := by
      rw [List.length_take] at short
      omega
    rw [if_neg short] at found
    rw [List.take_append_of_le_length enough, if_neg short]
    cases decoded : Utf8.decode (input.take length) with
    | error error => simpa [decoded] using found
    | ok value => simp [decoded] at found

theorem readFrom_failed_append {cause : Failure}
    (found : readFrom false length input = .failed cause) (more : List UInt8) (ended : Bool) :
    readFrom ended length (input ++ more) = .failed cause := by
  fun_induction readFrom false length input with
  | case1 | case2 => simp at found
  | case3 length input byte line after taken error decoded =>
    cases found
    exact readFrom_of_not_text (takeLine_append taken more ended) decoded length
  | case4 input byte line after taken line' decoded header blank length =>
    rw [readFrom_line (takeLine_append taken more ended) decoded, if_pos blank]
    exact readBody_failed_append found more ended
  | case5 input byte line after taken line' decoded header blank ih =>
    rw [readFrom_line (takeLine_append taken more ended) decoded, if_pos blank]
    exact ih found
  | case6 length input byte line after taken line' decoded header full other given =>
    cases found
    rw [readFrom_line (takeLine_append taken more ended) decoded, if_neg full, given]
  | case7 length input byte line after taken line' decoded header full given size ih =>
    rw [readFrom_line (takeLine_append taken more ended) decoded, if_neg full, size]
    exact ih found
  | case8 length input byte line after taken line' decoded header full size ih =>
    rw [readFrom_line (takeLine_append taken more ended) decoded, if_neg full, size]
    exact ih found

/-- What cannot be read stays so whatever comes behind it. -/
theorem read_failed_append {cause : Failure} (found : read false input = .failed cause)
    (more : List UInt8) (ended : Bool) : read ended (input ++ more) = .failed cause :=
  readFrom_failed_append found more ended

theorem takeLine_false_ne_nil : takeLine false input ≠ some ([], rest) := by
  intro taken
  cases input with
  | nil => cases taken
  | cons byte tail =>
    simp only [takeLine] at taken
    split at taken
    · cases taken
    · obtain ⟨_, _, same⟩ := Option.map_eq_some_iff.mp taken
      cases same

theorem readFrom_false_ne_ended : readFrom false length input ≠ .ended := by
  intro ends
  fun_induction readFrom false length input with
  | case1 | case3 | case6 => cases ends
  | case2 length input rest taken => exact takeLine_false_ne_nil taken
  | case4 input byte line after taken line' decoded header blank length =>
    simp only [readBody] at ends
    split at ends
    · cases ends
    · split at ends <;> cases ends
  | case5 input byte line after taken line' decoded header blank ih
  | case7 length input byte line after taken line' decoded header full given size ih
  | case8 length input byte line after taken line' decoded header full size ih => exact ih ends

/-- There is no end as long as more may come. -/
theorem read_false_ne_ended : read false input ≠ .ended := readFrom_false_ne_ended

theorem readBody_length (found : readBody ended length input = .body text rest) :
    rest.length ≤ input.length := by
  simp only [readBody] at found
  split at found
  · split at found <;> cases found
  · split at found
    · cases found
      simp
    · cases found

theorem readFrom_length (found : readFrom ended length input = .body text rest) :
    rest.length < input.length := by
  have shorter : ∀ {input rest : List UInt8} {byte line},
      takeLine ended input = some (byte :: line, rest) → rest.length < input.length := by
    intro input rest byte line taken
    have := takeLine_length taken
    simp only [List.length_cons] at this
    omega
  fun_induction readFrom ended length input with
  | case1 | case2 | case3 | case6 => simp at found
  | case4 input byte line after taken line' decoded header blank length =>
    exact Nat.lt_of_le_of_lt (readBody_length found) (shorter taken)
  | case5 input byte line after taken line' decoded header blank ih
  | case7 length input byte line after taken line' decoded header full given size ih
  | case8 length input byte line after taken line' decoded header full size ih =>
    exact Nat.lt_trans (ih found) (shorter taken)

theorem read_nil_ne_body : read ended [] ≠ .body text rest := by
  intro found
  exact absurd (readFrom_length found) (Nat.not_lt_zero _)

/-- The bodies that can be read from the front of a stream, and the bytes behind them. -/
inductive Holds (ended : Bool) : List UInt8 → List String → List UInt8 → Prop
  | nothing (bytes : List UInt8) : Holds ended bytes [] bytes
  | frame (found : read ended bytes = .body text rest) (behind : Holds ended rest bodies left) :
      Holds ended bytes (text :: bodies) left

theorem Holds.append (holds : Holds false bytes bodies left) (more : List UInt8) (ended : Bool) :
    Holds ended (bytes ++ more) bodies (left ++ more) := by
  induction holds with
  | nothing bytes => exact .nothing _
  | frame found _ ih => exact .frame (read_append found more ended) ih

/-- What a stream holds it still holds when it has ended. -/
theorem Holds.ends (holds : Holds ended bytes bodies left) : Holds true bytes bodies left := by
  cases ended with
  | false => simpa using holds.append [] true
  | true => exact holds

theorem Holds.next (holds : Holds ended bytes bodies left)
    (found : read ended left = .body text rest) : Holds ended bytes (bodies ++ [text]) rest := by
  induction holds with
  | nothing bytes => exact .frame found (.nothing _)
  | frame before _ ih => exact .frame before (ih found)

theorem Holds.length_le (holds : Holds ended bytes bodies left) : left.length ≤ bytes.length := by
  induction holds with
  | nothing bytes => exact Nat.le_refl _
  | frame found _ ih => exact Nat.le_trans ih (Nat.le_of_lt (readFrom_length found))

/-- The bytes that are left say how far a stream was read. -/
theorem Holds.unique (first : Holds ended bytes bodies left)
    (second : Holds ended bytes others left) : bodies = others := by
  induction first generalizing others with
  | nothing bytes =>
    cases second with
    | nothing => rfl
    | frame found behind =>
      exact absurd (readFrom_length found) (Nat.not_lt_of_le behind.length_le)
  | frame found behind ih =>
    cases second with
    | nothing => exact absurd (readFrom_length found) (Nat.not_lt_of_le behind.length_le)
    | frame same after =>
      rw [found] at same
      cases same
      rw [ih after]

theorem Holds.left_unique (first : Holds ended bytes bodies left)
    (second : Holds ended bytes bodies rest) : left = rest := by
  induction first with
  | nothing bytes =>
    cases second
    rfl
  | frame found _ ih =>
    cases second with
    | frame same behind =>
      rw [found] at same
      cases same
      exact ih behind

/-- Two ways to read a stream agree as far as both go; one that can go no further has gone as far
as any. -/
theorem Holds.isPrefix (first : Holds ended bytes bodies left)
    (second : Holds ended bytes others rest)
    (last : ∀ text rest, read ended left ≠ .body text rest) : others <+: bodies := by
  induction first generalizing others with
  | nothing bytes =>
    cases second with
    | nothing => exact List.prefix_refl _
    | frame found _ => exact False.elim (last _ _ found)
  | frame found _ ih =>
    cases second with
    | nothing => exact List.nil_prefix
    | frame same behind =>
      rw [found] at same
      cases same
      exact List.cons_prefix_cons.mpr ⟨rfl, ih behind last⟩

end LanguageBridge.Frame
