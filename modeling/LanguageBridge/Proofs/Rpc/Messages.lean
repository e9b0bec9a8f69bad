import LanguageBridge.Proofs.Json.Merged
import LanguageBridge.Proofs.Rpc.Framing
import LanguageBridge.Rpc.Message

/-!
Records of members with different names, read field by field, and what reading a record says about
its fields.
-/
namespace LanguageBridge.Record

variable {α β : Type}

theorem placed?_cons (name key : String) (value : Json) (rest : List (String × Json)) :
    placed? name ((key, value) :: rest) =
      if key = name then some (0, value)
      else (placed? name rest).map fun found => (found.1 + 1, found.2) := by
  by_cases same : key = name
  · simp [placed?, List.findIdx?_cons, same]
  · simp only [placed?, List.findIdx?_cons, same, decide_false, if_false]
    cases List.findIdx? (fun member => decide (member.1 = name)) rest with
    | none => simp
    | some place => simp [Option.map_map, Function.comp_def]

@[simp] theorem placed?_nil (name : String) : placed? name [] = none := rfl

variable {record : Record α} {members : List (String × Json)} {names seen : List String}
  {source : FieldSource} {name : String} {place : Nat} {json : Json} {value : α}

@[simp] theorem build_map (function : α → β) (record : Record α) (source : FieldSource) :
    (function <$> record).build source = (record.build source).map function := rfl

@[simp] theorem build_seq (function : Record (α → β)) (record : Record α) (source : FieldSource) :
    (function <*> record).build source =
      combine (function.build source) (record.build source) := rfl

@[simp] theorem map_ok (function : α → β) (value : α) :
    (Except.ok value : Except Misfit α).map function = .ok (function value) := rfl

@[simp] theorem combine_ok (function : α → β) (value : α) :
    combine (.ok function) (.ok value) = .ok (function value) := rfl

theorem build_fieldOr {read : Json → Shaped α} (absent : FieldSource → Except Misfit α)
    (found : placed? name members = some (place, json)) (fits : read json = .ok value) :
    (fieldOr name read absent).build (ofMembers members) = .ok value := by
  simp [fieldOr, ofMembers, found, fits, Except.mapError]

theorem build_required {read : Json → Shaped α} (found : placed? name members = some (place, json))
    (fits : read json = .ok value) :
    (required name read).build (ofMembers members) = .ok value :=
  build_fieldOr _ found fits

theorem build_defaulted {read : Json → Shaped α} (default : α)
    (found : placed? name members = some (place, json)) (fits : read json = .ok value) :
    (defaulted name default read).build (ofMembers members) = .ok value :=
  build_fieldOr _ found fits

theorem build_optional {read : Json → Shaped α} {value : Option α}
    (found : placed? name members = some (place, json))
    (fits : Json.readOption read json = .ok value) :
    (Record.optional name read).build (ofMembers members) = .ok value :=
  build_fieldOr _ found fits

theorem build_optional_absent {read : Json → Shaped α} (absent : placed? name members = none) :
    (Record.optional name read).build (ofMembers members) = .ok none := by
  simp [Record.optional, fieldOr, ofMembers, absent]

/-- A closed record is read from an object with its members only. -/
theorem readClosed_of_build (label : String) (built : record.build (ofMembers members) = .ok value)
    (known : strayMember? record.names true [] 0 members = none) :
    record.readClosed label (.obj members) = .ok value := by
  rw [readClosed, readAs, buildOfMembers, built, known]

theorem strayMember?_of_stranger (stranger : ∃ member ∈ members, names.contains member.1 = false)
    (place : Nat) : ∃ misfit, strayMember? names true seen place members = some misfit := by
  induction members generalizing seen place with
  | nil =>
    obtain ⟨_, member, _⟩ := stranger
    cases member
  | cons member members ih =>
    rw [strayMember?]
    cases known : names.contains member.1 with
    | false => exact ⟨_, rfl⟩
    | true =>
      by_cases again : seen.contains member.1 = true
      · exact ⟨_, by simp only [again, if_true]; rfl⟩
      · simp only [again, if_true]
        refine ih ?_ _
        obtain ⟨other, there, strange⟩ := stranger
        rcases List.mem_cons.mp there with rfl | behind
        · rw [known] at strange
          cases strange
        · exact ⟨other, behind, strange⟩

/-- A closed record refuses an object with a member that it does not name. -/
theorem readClosed_of_stranger (label : String)
    (stranger : ∃ member ∈ members, record.names.contains member.1 = false) :
    ∃ error, record.readClosed label (.obj members) = .error error := by
  obtain ⟨stray, found⟩ := @strayMember?_of_stranger members record.names [] stranger 0
  rw [readClosed, readAs, buildOfMembers, found]
  cases record.build (ofMembers members) with
  | ok value => exact ⟨_, rfl⟩
  | error misfit => exact ⟨_, rfl⟩

/-- A record refuses an object without the field that has to be there last. -/
theorem readClosed_of_absent (label : String) (before : Record (α → β)) {name : String}
    (read : Json → Shaped α) (absent : placed? name members = none) :
    ∃ error, (before <*> required name read).readClosed label (.obj members) = .error error := by
  have none : (required name read).build (ofMembers members) =
      .error ((ofMembers members).absent name) := by
    simp [required, fieldOr, ofMembers, absent]
  have wrong : ∃ misfit, (before <*> required name read).build (ofMembers members) =
      .error misfit := by
    change ∃ misfit, combine (before.build _) ((required name read).build _) = .error misfit
    rw [none]
    cases before.build (ofMembers members) <;> exact ⟨_, rfl⟩
  obtain ⟨misfit, wrong⟩ := wrong
  rw [readClosed, readAs, buildOfMembers, wrong]
  cases strayMember? (before <*> required name read).names true [] 0 members <;> exact ⟨_, rfl⟩

end LanguageBridge.Record

namespace LanguageBridge

theorem readEither_of_ok {α : Type} {read : Json → Shaped α} {json : Json} {value : α}
    (name : String) (others : List (Json → Shaped α)) (fits : read json = .ok value) :
    Json.readEither name (read :: others) json = .ok value := by
  rw [Json.readEither, fits]

theorem readEither_of_error {α : Type} {read : Json → Shaped α} {json : Json}
    {error : ShapeError} (name : String) (others : List (Json → Shaped α))
    (other : read json = .error error) :
    Json.readEither name (read :: others) json = Json.readEither name others json := by
  rw [Json.readEither, other]

theorem readString_str (value : String) : Json.readString (.str value) = .ok value := rfl

namespace Params

theorem read_toJson {params : Params} (sound : params.toJson.merged = params.toJson) :
    read params.toJson = .ok params := by
  unfold read
  rw [sound]
  cases params <;> rfl

end Params

namespace RequestId

/-- An id that a message can have: its number has 64 bits. -/
def Sound : RequestId → Prop
  | .number value => value ≤ 18446744073709551615
  | _ => True

theorem read_toJson {id : RequestId} (sound : id.Sound) : read id.toJson = .ok id := by
  cases id with
  | null => rfl
  | text value => rfl
  | number value =>
    have small : (value : Int) ≤ 18446744073709551615 := Int.ofNat_le.mpr sound
    simp [read, toJson, Json.nat, Json.readNat64, Json.readInt, small, Except.map]

end RequestId

namespace RemoteError

/-- An error that a message can have: its code has 64 bits, and its data are not `null`. -/
structure Sound (error : RemoteError) : Prop where
  low : -9223372036854775808 ≤ error.code
  high : error.code ≤ 9223372036854775807
  data : ∀ data ∈ error.data, data ≠ .null ∧ data.merged = data

theorem read_toJson {error : RemoteError} (sound : error.Sound) : read error.toJson = .ok error := by
  obtain ⟨code, message, data⟩ := error
  obtain ⟨low, high, kept⟩ := sound
  have codes : Json.readInt64 (.int code) = .ok code := if_pos ⟨low, high⟩
  cases data with
  | none =>
    refine Record.readClosed_of_build _ ?_ rfl
    rw [Record.build_seq, Record.build_seq, Record.build_map, Record.build_required rfl codes,
      Record.build_required rfl (readString_str message), Record.build_optional_absent rfl]
    rfl
  | some data =>
    obtain ⟨some, merged⟩ := kept data rfl
    have values : Json.readOption Json.readAny data = .ok (Option.some data) := by
      cases data with
      | null => exact absurd rfl some
      | _ => simp only [Json.readOption, Json.readAny, merged]; rfl
    refine Record.readClosed_of_build _ ?_ rfl
    rw [Record.build_seq, Record.build_seq, Record.build_map, Record.build_required rfl codes,
      Record.build_required rfl (readString_str message), Record.build_optional rfl values]
    rfl

end RemoteError

namespace Message

theorem readVersion_versionJson (versioned : Bool) :
    Json.readOption readVersion (versionJson versioned) =
      .ok (if versioned then some () else none) := by
  cases versioned <;> rfl

theorem readCall_toJson (versioned : Bool) {id : RequestId} (method : String) {params : Params}
    (named : id.Sound) (sound : params.toJson.merged = params.toJson) :
    readCall (call versioned id method params).toJson = .ok (call versioned id method params) := by
  refine Record.readClosed_of_build _ ?_ rfl
  rw [Record.build_seq, Record.build_seq, Record.build_seq, Record.build_map,
    Record.build_optional rfl (readVersion_versionJson versioned),
    Record.build_required rfl (readString_str method),
    Record.build_defaulted _ rfl (Params.read_toJson sound),
    Record.build_required rfl (RequestId.read_toJson named)]
  cases versioned <;> rfl

theorem readNotification_toJson (versioned : Bool) (method : String) {params : Params}
    (sound : params.toJson.merged = params.toJson) :
    readNotification (notification versioned method params).toJson =
      .ok (notification versioned method params) := by
  refine Record.readClosed_of_build _ ?_ rfl
  rw [Record.build_seq, Record.build_seq, Record.build_map,
    Record.build_optional rfl (readVersion_versionJson versioned),
    Record.build_required rfl (readString_str method),
    Record.build_defaulted _ rfl (Params.read_toJson sound)]
  cases versioned <;> rfl

/-- A notification has no id and so is no call. -/
theorem readCall_notification (versioned : Bool) (method : String) (params : Params) :
    ∃ error, readCall (notification versioned method params).toJson = .error error :=
  Record.readClosed_of_absent _ _ _ (by simp [Record.placed?_cons])

end Message

namespace Response

/-- What a response has beside its version and id. -/
def content : Response → String
  | .success .. => "result"
  | .failure .. => "error"

theorem exists_content (answer : Response) {names : List String}
    (strange : names.contains answer.content = false) :
    ∃ members, answer.toJson = .obj members ∧
      ∃ member ∈ members, names.contains member.1 = false := by
  cases answer with
  | success versioned id result =>
    exact ⟨_, rfl, ("result", result), List.mem_append_right _ List.mem_cons_self, strange⟩
  | failure versioned id error =>
    exact ⟨_, rfl, ("error", error.toJson), List.mem_append_right _ List.mem_cons_self, strange⟩

/-- A response is no call and no notification. -/
theorem readCall_toJson (answer : Response) :
    ∃ error, Message.readCall answer.toJson = .error error := by
  have strange : ["jsonrpc", "method", "params", "id"].contains answer.content = false := by
    cases answer <;> rfl
  obtain ⟨members, shape, stranger⟩ := answer.exists_content strange
  rw [shape]
  exact Record.readClosed_of_stranger _ stranger

theorem readNotification_toJson (answer : Response) :
    ∃ error, Message.readNotification answer.toJson = .error error := by
  have strange : ["jsonrpc", "method", "params"].contains answer.content = false := by
    cases answer <;> rfl
  obtain ⟨members, shape, stranger⟩ := answer.exists_content strange
  rw [shape]
  exact Record.readClosed_of_stranger _ stranger

/-- A failure is no success. -/
theorem readSuccess_failure (versioned : Bool) (id : RequestId) (error : RemoteError) :
    ∃ error', readSuccess (failure versioned id error).toJson = .error error' :=
  Record.readClosed_of_stranger _
    ⟨("error", error.toJson), List.mem_append_right _ List.mem_cons_self, rfl⟩

theorem build_version {members : List (String × Json)} (versioned : Bool)
    (unnamed : Record.placed? "jsonrpc" members = none) :
    (Record.optional "jsonrpc" readVersion).build
        (Record.ofMembers (versionMember versioned ++ members)) =
      .ok (if versioned then some () else none) := by
  cases versioned with
  | false => exact Record.build_optional_absent unnamed
  | true => exact Record.build_optional rfl rfl

theorem readSuccess_toJson (versioned : Bool) {id : RequestId} {result : Json} (named : id.Sound)
    (sound : result.merged = result) :
    readSuccess (success versioned id result).toJson = .ok (success versioned id result) := by
  have kept : Json.readAny result = .ok result := by rw [Json.readAny, sound]
  have ids := RequestId.read_toJson named
  refine Record.readClosed_of_build _ ?_ (by cases versioned <;> rfl)
  rw [Record.build_seq, Record.build_seq, Record.build_map, build_version versioned rfl]
  cases versioned <;>
    rw [Record.build_required rfl kept, Record.build_required rfl ids] <;> rfl

theorem readFailure_toJson (versioned : Bool) {id : RequestId} {error : RemoteError}
    (named : id.Sound) (sound : error.Sound) :
    readFailure (failure versioned id error).toJson = .ok (failure versioned id error) := by
  have errors := RemoteError.read_toJson sound
  have ids := RequestId.read_toJson named
  refine Record.readClosed_of_build _ ?_ (by cases versioned <;> rfl)
  rw [Record.build_seq, Record.build_seq, Record.build_map, build_version versioned rfl]
  cases versioned <;>
    rw [Record.build_required rfl errors, Record.build_required rfl ids] <;> rfl

end Response

namespace Message

/-- A message whose parts can be read: its id has 64 bits, and its values have one member of a
name. -/
def Sound : Message → Prop
  | .call _ id _ params => id.Sound ∧ params.toJson.merged = params.toJson
  | .notification _ _ params => params.toJson.merged = params.toJson
  | .response (.success _ id result) => id.Sound ∧ result.merged = result
  | .response (.failure _ id error) => id.Sound ∧ error.Sound

theorem read_response {answer : Response} (sound : (response answer).Sound) :
    Response.read answer.toJson = .ok answer := by
  cases answer with
  | success versioned id result =>
    exact readEither_of_ok _ _ (Response.readSuccess_toJson versioned sound.1 sound.2)
  | failure versioned id error =>
    obtain ⟨_, noSuccess⟩ := Response.readSuccess_failure versioned id error
    rw [Response.read, readEither_of_error _ _ noSuccess]
    exact readEither_of_ok _ _ (Response.readFailure_toJson versioned sound.1 sound.2)

/-- The first kind that a message's value fits is its own. -/
theorem read_toJson {message : Message} (sound : message.Sound) :
    read message.toJson = .ok message := by
  cases message with
  | call versioned id method params =>
    exact readEither_of_ok _ _ (readCall_toJson versioned method sound.1 sound.2)
  | notification versioned method params =>
    obtain ⟨_, noCall⟩ := readCall_notification versioned method params
    rw [read, readEither_of_error _ _ noCall]
    exact readEither_of_ok _ _ (readNotification_toJson versioned method sound)
  | response answer =>
    obtain ⟨_, noCall⟩ := answer.readCall_toJson
    obtain ⟨_, noNotification⟩ := answer.readNotification_toJson
    rw [toJson, read, readEither_of_error _ _ noCall, readEither_of_error _ _ noNotification]
    refine readEither_of_ok _ _ ?_
    rw [read_response sound]
    rfl

/-- A message is read back from its text. -/
theorem ofText_text {message : Message} (sound : message.Sound)
    (readable : message.toJson.Readable) (shallow : message.toJson.depth ≤ depthLimit) :
    ofText message.text = .ok message := by
  rw [ofText, text, Json.parse?_compact readable]
  simp only [shallow, if_true, read_toJson sound]
  rfl

end Message

end LanguageBridge

/-!
Messages that were read. Their parts come from the fields of the value that was read, so they are
sound, no deeper than it, and have no numbers that it has not.
-/
namespace LanguageBridge

/-- A value that is nested no deeper than a bound and whose integers have 64 bits. -/
structure Json.Fits (bound : Nat) (json : Json) : Prop where
  depth : json.depth ≤ bound
  numbers : json.Numbers Json.InRange

theorem Json.Fits.merged {bound : Nat} {json : Json} (fits : json.Fits bound) :
    json.merged.Fits bound :=
  ⟨Json.depth_merged_le fits.depth, Json.numbers_merged fits.numbers⟩

theorem Json.fits_obj {bound : Nat} {members : List (String × Json)}
    (fits : ∀ member ∈ members, member.2.Fits bound) : (Json.obj members).Fits (bound + 1) where
  depth := Nat.succ_le_succ
    (Json.depthMembers_le_iff.mpr fun member there => (fits member there).depth)
  numbers := Json.numbersOfMembers_iff.mpr fun member there => (fits member there).numbers

theorem Json.fits_str (value : String) (bound : Nat) : (Json.str value).Fits bound :=
  ⟨Nat.zero_le _, trivial⟩

/-- A source all of whose fields fit. -/
def FieldSource.Fits (bound : Nat) (source : FieldSource) : Prop :=
  ∀ name found, source.value? name = some found → found.2.Fits bound

namespace Record

variable {α β : Type} {record : Record α} {members : List (String × Json)} {source : FieldSource}
  {name : String} {bound : Nat}

theorem mem_of_placed? {found : Nat × Json} (there : placed? name members = some found) :
    ∃ key, (key, found.2) ∈ members := by
  obtain ⟨place, _, there⟩ := Option.bind_eq_some_iff.mp there
  obtain ⟨member, here, rfl⟩ := Option.map_eq_some_iff.mp there
  exact ⟨member.1, List.mem_of_getElem? here⟩

theorem built_of_members {closed : Bool} {value : α}
    (read : buildOfMembers closed record members = .ok value) :
    record.build (ofMembers members) = .ok value := by
  rw [buildOfMembers] at read
  split at read
  · rename_i built _
    cases read
    exact built
  · cases read
  · cases read
  · cases read

theorem built_of_items {closed : Bool} {label : String} {items : List Json} {value : α}
    (read : record.readAs closed label (.arr items) = .ok value) :
    record.build (ofItems label record.names items) = .ok value := by
  cases built : record.build (ofItems label record.names items) with
  | ok value =>
    simp only [readAs, built, Except.mapError, bind, Except.bind] at read
    split at read
    · cases read
    · cases read
      rfl
  | error misfit =>
    simp only [readAs, built] at read
    cases read

/-- A record that was read was built from some fields. -/
theorem built_of_readAs {closed : Bool} {label : String} {json : Json} {value : α}
    (read : record.readAs closed label json = .ok value) :
    ∃ source, record.build source = .ok value := by
  cases json with
  | obj members => exact ⟨_, built_of_members read⟩
  | arr items => exact ⟨_, built_of_items read⟩
  | _ => cases read

/-- A record is built from fields that fit a level less. -/
theorem source_of_readAs {closed : Bool} {label : String} {json : Json} {value : α}
    (read : record.readAs closed label json = .ok value) (fits : json.Fits bound) :
    ∃ less source, bound = less + 1 ∧ record.build source = .ok value ∧ source.Fits less := by
  cases json with
  | obj members =>
    have deep := fits.depth
    have numbers := fits.numbers
    rw [Json.depth] at deep
    rw [Json.Numbers, Json.numbersOfMembers_iff] at numbers
    obtain ⟨less, rfl⟩ : ∃ less, bound = less + 1 := ⟨bound - 1, by omega⟩
    refine ⟨less, ofMembers members, rfl, built_of_members read, fun name found there => ?_⟩
    obtain ⟨key, member⟩ := mem_of_placed? there
    exact ⟨Json.depthMembers_le_iff.mp (Nat.le_of_succ_le_succ deep) _ member,
      numbers _ member⟩
  | arr items =>
    have deep := fits.depth
    have numbers := fits.numbers
    rw [Json.depth] at deep
    rw [Json.Numbers, Json.numbersOfItems_iff] at numbers
    obtain ⟨less, rfl⟩ : ∃ less, bound = less + 1 := ⟨bound - 1, by omega⟩
    refine ⟨less, ofItems label record.names items, rfl, built_of_items read,
      fun name found there => ?_⟩
    obtain ⟨key, member⟩ := mem_of_placed? there
    have item := (List.of_mem_zip member).2
    exact ⟨Json.depthItems_le_iff.mp (Nat.le_of_succ_le_succ deep) _ item, numbers _ item⟩
  | _ => cases read

theorem built_of_map {function : α → β} {value : β}
    (built : (function <$> record).build source = .ok value) :
    ∃ part, record.build source = .ok part ∧ value = function part := by
  rw [build_map] at built
  cases here : record.build source with
  | ok part =>
    rw [here] at built
    cases built
    exact ⟨part, rfl, rfl⟩
  | error misfit =>
    rw [here] at built
    cases built

theorem built_of_seq {function : Record (α → β)} {value : β}
    (built : (function <*> record).build source = .ok value) :
    ∃ maker part, function.build source = .ok maker ∧ record.build source = .ok part ∧
      value = maker part := by
  rw [build_seq] at built
  cases first : function.build source with
  | ok maker =>
    cases second : record.build source with
    | ok part =>
      rw [first, second] at built
      cases built
      exact ⟨maker, part, rfl, rfl, rfl⟩
    | error misfit =>
      rw [first, second] at built
      cases built
  | error misfit =>
    rw [first] at built
    cases second : record.build source <;> rw [second] at built <;> cases built

/-- A field was read, or is absent. -/
theorem read_of_fieldOr {read : Json → Shaped α} {absent : FieldSource → Except Misfit α}
    {value : α} (built : (fieldOr name read absent).build source = .ok value) :
    (∃ place json, source.value? name = some (place, json) ∧ read json = .ok value) ∨
      absent source = .ok value := by
  simp only [fieldOr] at built
  split at built
  · rename_i place json found
    cases here : read json with
    | ok part =>
      rw [here] at built
      cases built
      exact .inl ⟨place, json, found, here⟩
    | error misfit =>
      rw [here] at built
      cases built
  · exact .inr built

theorem read_of_required {read : Json → Shaped α} {value : α}
    (built : (required name read).build source = .ok value) : ∃ json, read json = .ok value := by
  rcases read_of_fieldOr built with ⟨_, json, _, here⟩ | absent
  · exact ⟨json, here⟩
  · cases absent

/-- A field comes from a value that fits, or is absent. -/
theorem built_of_fieldOr {read : Json → Shaped α} {absent : FieldSource → Except Misfit α}
    {value : α} (built : (fieldOr name read absent).build source = .ok value)
    (fits : source.Fits bound) :
    (∃ json, json.Fits bound ∧ read json = .ok value) ∨ absent source = .ok value :=
  (read_of_fieldOr built).imp_left fun ⟨_, json, found, here⟩ => ⟨json, fits _ _ found, here⟩

theorem built_of_required {read : Json → Shaped α} {value : α}
    (built : (required name read).build source = .ok value) (fits : source.Fits bound) :
    ∃ json, json.Fits bound ∧ read json = .ok value := by
  rcases built_of_fieldOr built fits with found | absent
  · exact found
  · cases absent

end Record

namespace RequestId

theorem sound_of_read {json : Json} {id : RequestId} (found : read json = .ok id) : id.Sound := by
  unfold read at found
  split at found
  · cases found
    trivial
  · cases found
    trivial
  · rename_i json _ _
    unfold Json.readNat64 Json.readInt at found
    split at found
    · split at found
      · rename_i value bounds
        cases found
        exact Int.toNat_le.mpr bounds.2
      · cases found
    · cases found

theorem fits_toJson {id : RequestId} (sound : id.Sound) (bound : Nat) : id.toJson.Fits bound := by
  cases id with
  | null => exact ⟨Nat.zero_le _, trivial⟩
  | text value => exact ⟨Nat.zero_le _, trivial⟩
  | number value =>
    have small : (value : Int) ≤ 18446744073709551615 := Int.ofNat_le.mpr sound
    refine ⟨Nat.zero_le _, ?_⟩
    constructor
    · omega
    · exact small

end RequestId

namespace Params

theorem toJson_of_read {json : Json} {params : Params} (found : read json = .ok params) :
    params.toJson = json.merged := by
  unfold read at found
  split at found <;> rename_i shape <;> cases found <;> exact shape.symm

theorem sound_of_read {json : Json} {params : Params} (found : read json = .ok params) :
    params.toJson.merged = params.toJson := by
  rw [toJson_of_read found]
  exact Json.merged_of_tidy (Json.tidy_merged json)

theorem fits_of_read {json : Json} {params : Params} {bound : Nat} (found : read json = .ok params)
    (fits : json.Fits bound) : params.toJson.Fits bound := by
  rw [toJson_of_read found]
  exact fits.merged

end Params

namespace RemoteError

/-- Data that were read are not `null`. -/
theorem data_of_read {source : FieldSource} {data : Option Json} {bound : Nat}
    (built : (Record.optional "data" Json.readAny).build source = .ok data)
    (fits : source.Fits bound) :
    ∀ value ∈ data, (value ≠ .null ∧ value.merged = value) ∧ value.Fits bound := by
  rcases Record.built_of_fieldOr built fits with ⟨json, inside, found⟩ | absent
  · cases json with
    | null =>
      cases found
      simp
    | _ =>
      cases found
      rintro value ⟨⟩
      exact ⟨⟨by simp [Json.merged], Json.merged_of_tidy (Json.tidy_merged _)⟩, inside.merged⟩
  · split at absent
    · cases absent
    · cases absent
      simp

open Record in
theorem sound_of_read {json : Json} {error : RemoteError} {bound : Nat}
    (found : read json = .ok error) (fits : json.Fits bound) :
    error.Sound ∧ error.toJson.Fits bound := by
  obtain ⟨less, source, rfl, built, fields⟩ := source_of_readAs found fits
  obtain ⟨withData, data, first, dataBuilt, rfl⟩ := built_of_seq built
  obtain ⟨withMessage, message, second, _, rfl⟩ := built_of_seq first
  obtain ⟨code, codeBuilt, rfl⟩ := built_of_map second
  obtain ⟨codeJson, _, codeRead⟩ := built_of_required codeBuilt fields
  have codes : -9223372036854775808 ≤ code ∧ code ≤ 9223372036854775807 := by
    unfold Json.readInt64 Json.readInt at codeRead
    split at codeRead
    · split at codeRead
      · rename_i bounds
        cases codeRead
        exact bounds
      · cases codeRead
    · cases codeRead
  have values := data_of_read dataBuilt fields
  refine ⟨⟨codes.1, codes.2, fun value there => (values value there).1⟩, Json.fits_obj ?_⟩
  have large : (9223372036854775807 : Int) ≤ Json.greatestNat64 := by decide
  have number : (Json.int code).Fits less := ⟨Nat.zero_le _, codes.1, Int.le_trans codes.2 large⟩
  cases data with
  | none => simp [number, Json.fits_str]
  | some data => simp [number, Json.fits_str, (values data rfl).2]

end RemoteError

namespace Message

open Record

theorem fits_versionJson (versioned : Bool) (bound : Nat) :
    (versionJson versioned).Fits bound := by
  cases versioned
  · exact ⟨Nat.zero_le _, trivial⟩
  · exact Json.fits_str _ _

/-- Parameters that were read, or those for none. -/
theorem params_of_read {source : FieldSource} {params : Params} {bound : Nat}
    (built : (defaulted "params" .none Params.read).build source = .ok params)
    (fits : source.Fits bound) :
    params.toJson.merged = params.toJson ∧ params.toJson.Fits bound := by
  rcases built_of_fieldOr built fits with ⟨json, inside, found⟩ | absent
  · exact ⟨Params.sound_of_read found, Params.fits_of_read found inside⟩
  · cases absent
    exact ⟨rfl, Nat.zero_le _, trivial⟩

theorem id_of_read {source : FieldSource} {id : RequestId} {bound : Nat}
    (built : (required "id" RequestId.read).build source = .ok id) (fits : source.Fits bound) :
    id.Sound := by
  obtain ⟨json, _, found⟩ := built_of_required built fits
  exact RequestId.sound_of_read found

variable {json : Json} {message : Message} {bound : Nat}

theorem sound_of_readCall (found : readCall json = .ok message) (fits : json.Fits bound) :
    message.Sound ∧ message.toJson.Fits bound := by
  obtain ⟨less, source, rfl, built, fields⟩ := source_of_readAs found fits
  obtain ⟨withId, id, first, idBuilt, rfl⟩ := built_of_seq built
  obtain ⟨withParams, params, second, paramsBuilt, rfl⟩ := built_of_seq first
  obtain ⟨withMethod, method, third, _, rfl⟩ := built_of_seq second
  obtain ⟨version, _, rfl⟩ := built_of_map third
  have named := id_of_read idBuilt fields
  obtain ⟨sound, inside⟩ := params_of_read paramsBuilt fields
  refine ⟨⟨named, sound⟩, Json.fits_obj ?_⟩
  simp [fits_versionJson, Json.fits_str, inside, RequestId.fits_toJson named]

theorem sound_of_readNotification (found : readNotification json = .ok message)
    (fits : json.Fits bound) : message.Sound ∧ message.toJson.Fits bound := by
  obtain ⟨less, source, rfl, built, fields⟩ := source_of_readAs found fits
  obtain ⟨withParams, params, first, paramsBuilt, rfl⟩ := built_of_seq built
  obtain ⟨withMethod, method, second, _, rfl⟩ := built_of_seq first
  obtain ⟨version, _, rfl⟩ := built_of_map second
  obtain ⟨sound, inside⟩ := params_of_read paramsBuilt fields
  refine ⟨sound, Json.fits_obj ?_⟩
  simp [fits_versionJson, Json.fits_str, inside]

theorem fits_versionMember (versioned : Bool) (bound : Nat) :
    ∀ member ∈ Response.versionMember versioned, member.2.Fits bound := by
  cases versioned
  · simp [Response.versionMember]
  · simp [Response.versionMember, Json.fits_str]

theorem sound_of_readSuccess {answer : Response} (found : Response.readSuccess json = .ok answer)
    (fits : json.Fits bound) : (response answer).Sound ∧ answer.toJson.Fits bound := by
  obtain ⟨less, source, rfl, built, fields⟩ := source_of_readAs found fits
  obtain ⟨withId, id, first, idBuilt, rfl⟩ := built_of_seq built
  obtain ⟨withResult, result, second, resultBuilt, rfl⟩ := built_of_seq first
  obtain ⟨version, _, rfl⟩ := built_of_map second
  have named := id_of_read idBuilt fields
  obtain ⟨value, inside, resultRead⟩ := built_of_required resultBuilt fields
  cases resultRead
  refine ⟨⟨named, Json.merged_of_tidy (Json.tidy_merged value)⟩, Json.fits_obj ?_⟩
  refine List.forall_mem_append.mpr ⟨fits_versionMember _ _, ?_⟩
  simp [inside.merged, RequestId.fits_toJson named]

theorem sound_of_readFailure {answer : Response} (found : Response.readFailure json = .ok answer)
    (fits : json.Fits bound) : (response answer).Sound ∧ answer.toJson.Fits bound := by
  obtain ⟨less, source, rfl, built, fields⟩ := source_of_readAs found fits
  obtain ⟨withId, id, first, idBuilt, rfl⟩ := built_of_seq built
  obtain ⟨withError, error, second, errorBuilt, rfl⟩ := built_of_seq first
  obtain ⟨version, _, rfl⟩ := built_of_map second
  have named := id_of_read idBuilt fields
  obtain ⟨value, inside, errorRead⟩ := built_of_required errorBuilt fields
  obtain ⟨sound, kept⟩ := RemoteError.sound_of_read errorRead inside
  refine ⟨⟨named, sound⟩, Json.fits_obj ?_⟩
  refine List.forall_mem_append.mpr ⟨fits_versionMember _ _, ?_⟩
  simp [kept, RequestId.fits_toJson named]

theorem read_of_readEither {α : Type} {name : String} {readers : List (Json → Shaped α)}
    {value : α} (found : Json.readEither name readers json = .ok value) :
    ∃ read ∈ readers, read json = .ok value := by
  induction readers with
  | nil => cases found
  | cons read readers ih =>
    rw [Json.readEither] at found
    split at found
    · rename_i here
      cases found
      exact ⟨read, List.mem_cons_self, here⟩
    · obtain ⟨other, member, here⟩ := ih found
      exact ⟨other, List.mem_cons_of_mem _ member, here⟩

/-- What was read is a message that can be read back, and its value fits where the other did. -/
theorem sound_of_read (found : read json = .ok message) (fits : json.Fits bound) :
    message.Sound ∧ message.toJson.Fits bound := by
  obtain ⟨reader, member, here⟩ := read_of_readEither found
  simp only [List.mem_cons, List.not_mem_nil, or_false] at member
  rcases member with rfl | rfl | rfl
  · exact sound_of_readCall here fits
  · exact sound_of_readNotification here fits
  · change (Response.read json).map response = .ok message at here
    cases answered : Response.read json with
    | error wrong =>
      rw [answered] at here
      cases here
    | ok answer =>
      rw [answered] at here
      cases here
      obtain ⟨reader, member, there⟩ := read_of_readEither answered
      simp only [List.mem_cons, List.not_mem_nil, or_false] at member
      rcases member with rfl | rfl
      · exact sound_of_readSuccess there fits
      · exact sound_of_readFailure there fits

end Message

end LanguageBridge

/-!
Messages that are sent or were read, framed and read again.
-/
namespace LanguageBridge

/-- A value as it is held: an object has one member of a name and an integer has 64 bits. -/
structure Json.Held (json : Json) : Prop where
  tidy : json.Tidy
  numbers : json.Numbers Json.InRange

theorem Params.tidy_ofJson {json : Json} (tidy : json.Tidy) : (Params.ofJson json).toJson.Tidy := by
  cases json with
  | null => trivial
  | arr items => exact tidy
  | obj members => exact tidy
  | _ => exact ⟨tidy, trivial⟩

theorem Params.numbers_ofJson {P : Json → Prop} {json : Json} (numbers : json.Numbers P) :
    (Params.ofJson json).toJson.Numbers P := by
  cases json with
  | null => trivial
  | arr items => exact numbers
  | obj members => exact numbers
  | _ => exact ⟨numbers, trivial⟩

namespace Message

/-- The messages that this side sends: calls whose ids were counted, notifications, and the
successful answers to the other side's calls. -/
inductive Outgoing : Message → Prop
  | call {id : Nat} (small : id < UInt64.size) (method : String) {params : Json}
      (held : params.Held) : Outgoing (call true (.number id) method (.ofJson params))
  | notification (method : String) {params : Json} (held : params.Held) :
      Outgoing (notification true method (.ofJson params))
  | answer {id : RequestId} (named : id.Sound) {result : Json} (held : result.Held) :
      Outgoing (response (.success true id result))

variable {message : Message} {text : String}

theorem Outgoing.sound (sent : message.Outgoing) : message.Sound := by
  cases sent with
  | call small method held =>
    exact ⟨Nat.le_of_lt_succ small, Json.merged_of_tidy (Params.tidy_ofJson held.tidy)⟩
  | notification method held => exact Json.merged_of_tidy (Params.tidy_ofJson held.tidy)
  | answer named held => exact ⟨named, Json.merged_of_tidy held.tidy⟩

theorem Outgoing.numbers (sent : message.Outgoing) : message.toJson.Numbers Json.InRange := by
  cases sent with
  | @call id small method params held =>
    have named := (@RequestId.fits_toJson (.number id) (Nat.le_of_lt_succ small) 0).numbers
    exact ⟨trivial, trivial, Params.numbers_ofJson held.numbers, named, trivial⟩
  | notification method held =>
    exact ⟨trivial, trivial, Params.numbers_ofJson held.numbers, trivial⟩
  | answer named held =>
    exact ⟨trivial, held.numbers, (RequestId.fits_toJson named 0).numbers, trivial⟩

/-- A message that was read is sound, and its value is no deeper than a message may be. -/
theorem sound_of_ofText (found : ofText text = .ok message) :
    message.Sound ∧ message.toJson.Fits depthLimit := by
  unfold ofText at found
  split at found
  · cases found
  · rename_i json parsed
    split at found
    · rename_i shallow
      cases here : read json with
      | ok other =>
        rw [here] at found
        cases found
        exact sound_of_read here ⟨shallow, Json.numbers_of_parse? parsed⟩
      | error misfit =>
        rw [here] at found
        cases misfit <;> cases found
    · cases found

/-- A message that is sent or was read comes back from its frame as it was, of the same kind and
with the same parts, whatever follows it. Of the numbers in it the doubles have to be read as they
were printed, and what is sent has to be nested no deeper than a message may be. -/
theorem read_back (source : message.Outgoing ∨ ∃ text, ofText text = .ok message)
    (doubles : message.toJson.Numbers Json.Stands)
    (shallow : message.Outgoing → message.toJson.depth ≤ depthLimit) :
    ofText message.text = .ok message ∧
    ∀ (ended : Bool) (following : List UInt8),
      (Utf8.encode message.text).length < UInt64.size →
      Frame.read ended (Frame.encode message.text ++ following) = .body message.text following := by
  have whole : message.Sound ∧ message.toJson.Fits depthLimit := by
    rcases source with sent | ⟨text, found⟩
    · exact ⟨sent.sound, shallow sent, sent.numbers⟩
    · exact sound_of_ofText found
  obtain ⟨sound, fits⟩ := whole
  constructor
  · exact ofText_text sound (fits.numbers.and doubles) fits.depth
  · intro ended following small
    exact Frame.read_framed (.encoded small) following ended

/-- One and a half. -/
def sesqui : Double := ⟨false, 6755399441055744, -52⟩

/-- A call whose parameter stands alone and is a double. -/
def seek : Message := call true (.number 7) "seek" (.ofJson (.float sesqui))

theorem stands_sesqui : (Json.float sesqui).Stands := by
  refine ⟨⟨false, ['1'], ['5'], none⟩, by decide +kernel, ?_⟩
  rw [Json.Numeral.value?, show Json.Numeral.integer? _ = none by decide +kernel,
    show Json.Numeral.scaled _ = (15, -1) by decide +kernel]
  simp only
  rw [show Magnitude.ofNumeral? 15 (-1) = some sesqui.size by decide +kernel]
  rfl

theorem seek_read_back :
    seek.Outgoing ∧ seek.toJson.Numbers Json.Stands ∧ seek.toJson.depth ≤ depthLimit ∧
    ofText seek.text = .ok seek ∧
    ∀ (ended : Bool) (following : List UInt8),
      (Utf8.encode seek.text).length < UInt64.size →
      Frame.read ended (Frame.encode seek.text ++ following) = .body seek.text following := by
  have sent : seek.Outgoing := .call (by decide) "seek" ⟨trivial, trivial⟩
  have doubles : seek.toJson.Numbers Json.Stands :=
    ⟨trivial, trivial, ⟨stands_sesqui, trivial⟩, trivial, trivial⟩
  have shallow : seek.toJson.depth ≤ depthLimit := by decide
  exact ⟨sent, doubles, shallow, read_back (.inl sent) doubles fun _ => shallow⟩

end Message

end LanguageBridge
