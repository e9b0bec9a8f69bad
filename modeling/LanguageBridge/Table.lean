/-!
Finite maps that keep the order in which their keys came in.
-/
namespace LanguageBridge

/-- A finite map; of entries with one key only the first counts. -/
structure Table (κ ν : Type) where
  entries : List (κ × ν) := []
  deriving Repr

namespace Table

variable {κ ν : Type} [DecidableEq κ]

/-- The value in a list of entries. -/
def find? (key : κ) : List (κ × ν) → Option ν
  | [] => none
  | (other, value) :: rest => if other = key then some value else find? key rest

/-- Replaces the value where the key stands, or adds the entry at the end. -/
def put (key : κ) (value : ν) : List (κ × ν) → List (κ × ν)
  | [] => [(key, value)]
  | (other, old) :: rest =>
    if other = key then (key, value) :: rest else (other, old) :: put key value rest

/-- The table without entries. -/
def empty : Table κ ν := ⟨[]⟩

instance : EmptyCollection (Table κ ν) := ⟨empty⟩

instance : Inhabited (Table κ ν) := ⟨empty⟩

/-- The value of a key. -/
def get? (table : Table κ ν) (key : κ) : Option ν := find? key table.entries

/-- Gives a key a value. -/
def insert (table : Table κ ν) (key : κ) (value : ν) : Table κ ν := ⟨put key value table.entries⟩

/-- Takes a key out. -/
def erase (table : Table κ ν) (key : κ) : Table κ ν :=
  ⟨table.entries.filter fun entry => entry.1 ≠ key⟩

/-- Whether the key has a value. -/
def contains (table : Table κ ν) (key : κ) : Bool := (table.get? key).isSome

/-- The table with these entries, later ones winning. -/
def ofList (entries : List (κ × ν)) : Table κ ν :=
  entries.foldl (fun table entry => table.insert entry.1 entry.2) empty

/-- Changes the value of a key that has one. -/
def modify (table : Table κ ν) (key : κ) (change : ν → ν) : Table κ ν :=
  match table.get? key with
  | some value => table.insert key (change value)
  | none => table

theorem find?_put (key other : κ) (value : ν) (entries : List (κ × ν)) :
    find? other (put key value entries) =
      if key = other then some value else find? other entries := by
  induction entries with
  | nil => simp [put, find?]
  | cons entry rest ih =>
    rcases entry with ⟨name, old⟩
    by_cases same : name = key
    · subst same
      by_cases wanted : name = other <;> simp [put, find?, wanted]
    · by_cases wanted : name = other
      · subst wanted; simp [put, find?, same, Ne.symm same]
      · simp [put, find?, same, wanted, ih]

@[simp] theorem get?_insert (table : Table κ ν) (key other : κ) (value : ν) :
    (table.insert key value).get? other = if key = other then some value else table.get? other :=
  find?_put key other value table.entries

theorem find?_filter (key other : κ) (entries : List (κ × ν)) :
    find? other (entries.filter fun entry => entry.1 ≠ key) =
      if key = other then none else find? other entries := by
  induction entries with
  | nil => simp [find?]
  | cons entry rest ih =>
    rcases entry with ⟨name, old⟩
    by_cases same : name = key
    · subst same
      by_cases wanted : name = other
      · subst wanted; simpa using ih
      · simpa [find?, wanted] using ih
    · by_cases wanted : name = other
      · subst wanted; simp [find?, same, Ne.symm same]
      · simpa [find?, same, wanted] using ih

@[simp] theorem get?_erase (table : Table κ ν) (key other : κ) :
    (table.erase key).get? other = if key = other then none else table.get? other :=
  find?_filter key other table.entries

@[simp] theorem get?_empty (key : κ) : (∅ : Table κ ν).get? key = none := rfl

theorem find?_eq_none_iff (key : κ) (entries : List (κ × ν)) :
    find? key entries = none ↔ key ∉ entries.map (·.1) := by
  induction entries with
  | nil => simp [find?]
  | cons entry rest ih =>
    rcases entry with ⟨name, value⟩
    by_cases same : name = key
    · simp [find?, same]
    · simp [find?, same, Ne.symm same, ih]

theorem mem_of_find? {key : κ} {value : ν} {entries : List (κ × ν)}
    (found : find? key entries = some value) : (key, value) ∈ entries := by
  induction entries with
  | nil => cases found
  | cons entry rest ih =>
    rcases entry with ⟨name, first⟩
    simp only [find?] at found
    split at found
    · rename_i same
      cases found
      exact same ▸ List.mem_cons_self
    · exact List.mem_cons_of_mem _ (ih found)

theorem mem_put {key : κ} {value : ν} {entries : List (κ × ν)} {entry : κ × ν}
    (member : entry ∈ put key value entries) : entry = (key, value) ∨ entry ∈ entries := by
  induction entries with
  | nil => simpa [put] using member
  | cons first rest ih =>
    simp only [put] at member
    split at member
    · rcases List.mem_cons.mp member with rfl | later
      · exact .inl rfl
      · exact .inr (List.mem_cons_of_mem _ later)
    · rcases List.mem_cons.mp member with rfl | later
      · exact .inr List.mem_cons_self
      · exact (ih later).imp_right (List.mem_cons_of_mem _)

theorem find?_eq_some_iff {entries : List (κ × ν)} (unique : (entries.map (·.1)).Nodup) (key : κ)
    (value : ν) : find? key entries = some value ↔ (key, value) ∈ entries := by
  induction entries with
  | nil => simp [find?]
  | cons entry rest ih =>
    rcases entry with ⟨name, first⟩
    rw [List.map_cons, List.nodup_cons] at unique
    by_cases same : name = key
    · subst same
      have elsewhere : (name, value) ∉ rest := fun member =>
        unique.1 (List.mem_map.mpr ⟨_, member, rfl⟩)
      simp [find?, elsewhere, eq_comm]
    · simp [find?, same, Ne.symm same, ih unique.2]

theorem put_of_absent {key : κ} {entries : List (κ × ν)} (absent : key ∉ entries.map (·.1))
    (value : ν) : put key value entries = entries ++ [(key, value)] := by
  induction entries with
  | nil => rfl
  | cons entry rest ih =>
    rcases entry with ⟨name, old⟩
    rw [List.map_cons, List.mem_cons, not_or] at absent
    simp [put, Ne.symm absent.1, ih absent.2]

/-- The keys of a table with a key that it did not have. -/
theorem keys_insert {table : Table κ ν} {key : κ} (absent : table.get? key = none) (value : ν) :
    (table.insert key value).entries.map (·.1) = table.entries.map (·.1) ++ [key] := by
  have missing := (find?_eq_none_iff key table.entries).mp absent
  simp [insert, put_of_absent missing]

theorem keys_put_of_mem {key : κ} {entries : List (κ × ν)} (present : key ∈ entries.map (·.1))
    (value : ν) : (put key value entries).map (·.1) = entries.map (·.1) := by
  induction entries with
  | nil => simp at present
  | cons entry rest ih =>
    rcases entry with ⟨name, old⟩
    by_cases same : name = key
    · simp [put, same]
    · rw [List.map_cons, List.mem_cons] at present
      simp [put, same, ih (present.resolve_left (Ne.symm same))]

theorem nodup_keys_insert {table : Table κ ν} (unique : (table.entries.map (·.1)).Nodup) (key : κ)
    (value : ν) : ((table.insert key value).entries.map (·.1)).Nodup := by
  by_cases present : key ∈ table.entries.map (·.1)
  · rw [insert, keys_put_of_mem present]
    exact unique
  · rw [keys_insert ((find?_eq_none_iff key table.entries).mpr present)]
    refine List.nodup_append.mpr ⟨unique, by simp, ?_⟩
    intro name member other same
    rw [List.mem_singleton] at same
    rintro rfl
    exact present (same ▸ member)

theorem keys_erase (table : Table κ ν) (key : κ) :
    (table.erase key).entries.map (·.1) = (table.entries.map (·.1)).filter (· ≠ key) := by
  simp [erase, List.filter_map, Function.comp_def]

theorem nodup_keys_erase {table : Table κ ν} (unique : (table.entries.map (·.1)).Nodup) (key : κ) :
    ((table.erase key).entries.map (·.1)).Nodup := by
  rw [keys_erase]
  exact unique.filter _

theorem erase_of_absent {table : Table κ ν} {key : κ} (absent : table.get? key = none) :
    table.erase key = table := by
  have missing := (find?_eq_none_iff key table.entries).mp absent
  unfold erase
  congr 1
  apply List.filter_eq_self.mpr
  intro entry member
  simp only [ne_eq, decide_not, Bool.not_eq_true', decide_eq_false_iff_not]
  rintro rfl
  exact missing (List.mem_map_of_mem member)

theorem mem_entries_iff {table : Table κ ν} (unique : (table.entries.map (·.1)).Nodup) (key : κ)
    (value : ν) : (key, value) ∈ table.entries ↔ table.get? key = some value :=
  (find?_eq_some_iff unique key value).symm

theorem modify_of_present {table : Table κ ν} {key : κ} {value : ν}
    (present : table.get? key = some value) (change : ν → ν) :
    table.modify key change = table.insert key (change value) := by
  simp [modify, present]

theorem nodup_keys_modify {table : Table κ ν} (unique : (table.entries.map (·.1)).Nodup) (key : κ)
    (change : ν → ν) : ((table.modify key change).entries.map (·.1)).Nodup := by
  unfold modify
  split
  · exact nodup_keys_insert unique key _
  · exact unique

end Table

end LanguageBridge
