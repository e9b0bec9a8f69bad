import LanguageBridge.Proofs.Json.RoundTrip

/-!
Values whose objects have one member of a name. Merging makes them so, leaves them as they are, and
brings in no numbers and no depth.
-/
namespace LanguageBridge.Json

mutual
theorem induct {motive : Json → Prop} (null : motive .null)
    (bool : ∀ value, motive (.bool value)) (int : ∀ value, motive (.int value))
    (float : ∀ value, motive (.float value)) (str : ∀ value, motive (.str value))
    (arr : ∀ items, (∀ item ∈ items, motive item) → motive (.arr items))
    (obj : ∀ members, (∀ member ∈ members, motive member.2) → motive (.obj members)) :
    ∀ value, motive value
  | .null => null
  | .bool value => bool value
  | .int value => int value
  | .float value => float value
  | .str value => str value
  | .arr items => arr items (induct_items null bool int float str arr obj items)
  | .obj members => obj members (induct_values null bool int float str arr obj members)

theorem induct_items {motive : Json → Prop} (null : motive .null)
    (bool : ∀ value, motive (.bool value)) (int : ∀ value, motive (.int value))
    (float : ∀ value, motive (.float value)) (str : ∀ value, motive (.str value))
    (arr : ∀ items, (∀ item ∈ items, motive item) → motive (.arr items))
    (obj : ∀ members, (∀ member ∈ members, motive member.2) → motive (.obj members)) :
    ∀ items : List Json, ∀ item ∈ items, motive item
  | [] => by simp
  | item :: items => List.forall_mem_cons.mpr
      ⟨induct null bool int float str arr obj item,
        induct_items null bool int float str arr obj items⟩

theorem induct_values {motive : Json → Prop} (null : motive .null)
    (bool : ∀ value, motive (.bool value)) (int : ∀ value, motive (.int value))
    (float : ∀ value, motive (.float value)) (str : ∀ value, motive (.str value))
    (arr : ∀ items, (∀ item ∈ items, motive item) → motive (.arr items))
    (obj : ∀ members, (∀ member ∈ members, motive member.2) → motive (.obj members)) :
    ∀ members : List (String × Json), ∀ member ∈ members, motive member.2
  | [] => by simp
  | (_, value) :: members => List.forall_mem_cons.mpr
      ⟨induct null bool int float str arr obj value,
        induct_values null bool int float str arr obj members⟩
end

mutual
/-- A value whose objects have one member of a name. -/
def Tidy : Json → Prop
  | .arr items => TidyItems items
  | .obj members => (members.map (·.1)).Nodup ∧ TidyMembers members
  | _ => True

def TidyItems : List Json → Prop
  | [] => True
  | item :: rest => Tidy item ∧ TidyItems rest

def TidyMembers : List (String × Json) → Prop
  | [] => True
  | (_, value) :: rest => Tidy value ∧ TidyMembers rest
end

variable {P : Json → Prop} {items : List Json} {members : List (String × Json)}

theorem tidyItems_iff : TidyItems items ↔ ∀ item ∈ items, item.Tidy := by
  induction items with
  | nil => simp [TidyItems]
  | cons item items ih => simp [TidyItems, ih]

theorem tidyMembers_iff : TidyMembers members ↔ ∀ member ∈ members, member.2.Tidy := by
  induction members with
  | nil => simp [TidyMembers]
  | cons member members ih => simp [TidyMembers, ih]

theorem numbersOfItems_iff : NumbersOfItems P items ↔ ∀ item ∈ items, item.Numbers P := by
  induction items with
  | nil => simp [NumbersOfItems]
  | cons item items ih => simp [NumbersOfItems, ih]

theorem numbersOfMembers_iff :
    NumbersOfMembers P members ↔ ∀ member ∈ members, member.2.Numbers P := by
  induction members with
  | nil => simp [NumbersOfMembers]
  | cons member members ih => simp [NumbersOfMembers, ih]

theorem depthItems_le_iff {bound : Nat} :
    depthItems items ≤ bound ↔ ∀ item ∈ items, item.depth ≤ bound := by
  induction items with
  | nil => simp [depthItems]
  | cons item items ih => rw [depthItems, Nat.max_le, ih, List.forall_mem_cons]

theorem depthMembers_le_iff {bound : Nat} :
    depthMembers members ≤ bound ↔ ∀ member ∈ members, member.2.depth ≤ bound := by
  induction members with
  | nil => simp [depthMembers]
  | cons member members ih => rw [depthMembers, Nat.max_le, ih, List.forall_mem_cons]

theorem mem_names_setMember (name : String) (value : Json) (members : List (String × Json))
    (key : String) : key ∈ (setMember name value members).map (·.1) ↔
      key = name ∨ key ∈ members.map (·.1) := by
  induction members with
  | nil => simp [setMember]
  | cons member members ih =>
    by_cases same : member.1 = name
    · simp only [setMember, same, if_true, List.map_cons, List.mem_cons]
      exact ⟨fun found => found.imp id .inr, fun found => by
        rcases found with rfl | found
        · exact .inl rfl
        · exact found⟩
    · simp only [setMember, same, if_false, List.map_cons, List.mem_cons, ih]
      exact or_left_comm

theorem nodup_setMember (name : String) (value : Json)
    (nodup : (members.map (·.1)).Nodup) : ((setMember name value members).map (·.1)).Nodup := by
  induction members with
  | nil => simp [setMember]
  | cons member members ih =>
    obtain ⟨apart, behind⟩ := List.nodup_cons.mp nodup
    by_cases same : member.1 = name
    · simpa [setMember, same] using nodup
    · simp only [setMember, same, if_false, List.map_cons]
      refine List.nodup_cons.mpr ⟨fun found => ?_, ih behind⟩
      rcases (mem_names_setMember name value members member.1).mp found with here | there
      · exact same here
      · exact apart there

theorem forall_setMember {name : String} {value : Json} (here : P value)
    (all : ∀ member ∈ members, P member.2) :
    ∀ member ∈ setMember name value members, P member.2 := by
  induction members with
  | nil => simpa [setMember] using here
  | cons member members ih =>
    obtain ⟨first, behind⟩ := List.forall_mem_cons.mp all
    simp only [setMember]
    split
    · exact List.forall_mem_cons.mpr ⟨here, behind⟩
    · exact List.forall_mem_cons.mpr ⟨first, ih behind⟩

theorem forall_mergedMembers {seen : List (String × Json)} (before : ∀ member ∈ seen, P member.2)
    (all : ∀ member ∈ members, P member.2.merged) :
    ∀ member ∈ mergedMembers seen members, P member.2 := by
  induction members generalizing seen with
  | nil => exact before
  | cons member members ih =>
    obtain ⟨first, behind⟩ := List.forall_mem_cons.mp all
    rw [mergedMembers]
    exact ih (forall_setMember first before) behind

theorem nodup_mergedMembers {seen : List (String × Json)} (nodup : (seen.map (·.1)).Nodup)
    (members : List (String × Json)) : ((mergedMembers seen members).map (·.1)).Nodup := by
  induction members generalizing seen with
  | nil => exact nodup
  | cons member members ih =>
    rw [mergedMembers]
    exact ih (nodup_setMember _ _ nodup)

theorem mergedItems_eq_map (items : List Json) : mergedItems items = items.map merged := by
  induction items with
  | nil => rfl
  | cons item items ih => rw [mergedItems, ih, List.map_cons]

/-- Merging leaves one member of a name. -/
theorem tidy_merged (value : Json) : value.merged.Tidy := by
  induction value using induct with
  | null | bool | int | float | str => trivial
  | arr items ih =>
    rw [merged, Tidy, tidyItems_iff, mergedItems_eq_map]
    exact List.forall_mem_map.mpr ih
  | obj members ih =>
    rw [merged, Tidy, tidyMembers_iff]
    exact ⟨nodup_mergedMembers (by simp) _, forall_mergedMembers (by simp) ih⟩

theorem setMember_of_notMem {name : String} (absent : name ∉ members.map (·.1)) (value : Json) :
    setMember name value members = members ++ [(name, value)] := by
  induction members with
  | nil => rfl
  | cons member members ih =>
    rw [List.map_cons, List.mem_cons, not_or] at absent
    simp [setMember, Ne.symm absent.1, ih absent.2]

theorem mergedMembers_of_nodup (seen : List (String × Json))
    (nodup : ((seen ++ members).map (·.1)).Nodup)
    (same : ∀ member ∈ members, member.2.merged = member.2) :
    mergedMembers seen members = seen ++ members := by
  induction members generalizing seen with
  | nil => simp [mergedMembers]
  | cons member members ih =>
    obtain ⟨first, behind⟩ := List.forall_mem_cons.mp same
    have added : setMember member.1 member.2 seen = seen ++ [member] :=
      setMember_of_notMem (by
        rw [List.map_append, List.map_cons] at nodup
        exact fun found => (List.nodup_append.mp nodup).2.2 _ found _ List.mem_cons_self rfl) _
    rw [mergedMembers, first, added, ih _ (by simpa using nodup) behind]
    simp

/-- Merging changes nothing where there is one member of a name. -/
theorem merged_of_tidy {value : Json} (tidy : value.Tidy) : value.merged = value := by
  induction value using induct with
  | null | bool | int | float | str => rfl
  | arr items ih =>
    rw [Tidy, tidyItems_iff] at tidy
    rw [merged, mergedItems_eq_map, List.map_congr_left fun item member =>
      ih item member (tidy item member), List.map_id']
  | obj members ih =>
    rw [Tidy, tidyMembers_iff] at tidy
    rw [merged, mergedMembers_of_nodup [] tidy.1 fun member there =>
      ih member there (tidy.2 member there), List.nil_append]

theorem depth_merged_le {value : Json} {bound : Nat} (within : value.depth ≤ bound) :
    value.merged.depth ≤ bound := by
  induction value using induct generalizing bound with
  | null | bool | int | float | str => exact within
  | arr items ih =>
    rw [merged, mergedItems_eq_map]
    simp only [depth] at within ⊢
    obtain ⟨bound, rfl⟩ : ∃ less, bound = less + 1 := ⟨bound - 1, by omega⟩
    rw [Nat.add_le_add_iff_right, depthItems_le_iff] at within ⊢
    exact List.forall_mem_map.mpr fun item member => ih item member (within item member)
  | obj members ih =>
    rw [merged]
    simp only [depth] at within ⊢
    obtain ⟨bound, rfl⟩ : ∃ less, bound = less + 1 := ⟨bound - 1, by omega⟩
    rw [Nat.add_le_add_iff_right, depthMembers_le_iff] at within ⊢
    have all : ∀ member ∈ members, member.2.merged.depth ≤ bound :=
      fun member there => ih member there (within member there)
    have none : ∀ member ∈ ([] : List (String × Json)), member.2.depth ≤ bound := by simp
    exact forall_mergedMembers (P := fun value => value.depth ≤ bound) none all

theorem numbers_merged {value : Json} (numbers : value.Numbers P) : value.merged.Numbers P := by
  induction value using induct with
  | null | bool | int | float | str => exact numbers
  | arr items ih =>
    rw [Numbers, numbersOfItems_iff] at numbers
    rw [merged, Numbers, numbersOfItems_iff, mergedItems_eq_map]
    exact List.forall_mem_map.mpr fun item member => ih item member (numbers item member)
  | obj members ih =>
    rw [Numbers, numbersOfMembers_iff] at numbers
    rw [merged, Numbers, numbersOfMembers_iff]
    exact forall_mergedMembers (by simp) fun member there => ih member there (numbers member there)

theorem Numbers.and {Q : Json → Prop} {value : Json} (first : value.Numbers P)
    (second : value.Numbers Q) : value.Numbers fun number => P number ∧ Q number := by
  induction value using Json.induct with
  | null | bool | str => trivial
  | int | float => exact ⟨first, second⟩
  | arr items ih =>
    rw [Numbers, numbersOfItems_iff] at first second ⊢
    exact fun item member => ih item member (first item member) (second item member)
  | obj members ih =>
    rw [Numbers, numbersOfMembers_iff] at first second ⊢
    exact fun member there => ih member there (first member there) (second member there)

end LanguageBridge.Json
