import Mathlib.Data.List.Sort
import TradeJournalWorker.JsonValues
import TradeJournalWorker.OrderedDict

namespace JsonValue

/-- The document with the keys of every object in order, as it is written with `sort_keys`. -/
def sortKeys : JsonValue → JsonValue
  | arr items => arr (sortItems items)
  | obj members => obj ((sortMembers members).insertionSort fun a b => a.1 ≤ b.1)
  | null => null
  | bool value => bool value
  | int value => int value
  | float value => float value
  | str text => str text
where
  sortItems : List JsonValue → List JsonValue
    | [] => []
    | item :: rest => sortKeys item :: sortItems rest
  sortMembers : List (String × JsonValue) → List (String × JsonValue)
    | [] => []
    | (key, value) :: rest => (key, sortKeys value) :: sortMembers rest

/-- No object of the document has a key twice. -/
def UniqueKeys : JsonValue → Prop
  | arr items => uniqueItems items
  | obj members => (members.map Prod.fst).Nodup ∧ uniqueMembers members
  | _ => True
where
  uniqueItems : List JsonValue → Prop
    | [] => True
    | item :: rest => UniqueKeys item ∧ uniqueItems rest
  uniqueMembers : List (String × JsonValue) → Prop
    | [] => True
    | (_, value) :: rest => UniqueKeys value ∧ uniqueMembers rest

section Structure

/-- Induction over documents: arrays by their items, objects by the values of their members. -/
theorem nestedInduction {motive : JsonValue → Prop}
    (array : ∀ items, (∀ item ∈ items, motive item) → motive (arr items))
    (object : ∀ members, (∀ member ∈ members, motive member.2) → motive (obj members))
    (null : motive null) (bool : ∀ value, motive (bool value)) (int : ∀ value, motive (int value))
    (float : ∀ value, motive (float value)) (str : ∀ text, motive (str text)) :
    ∀ value, motive value := by
  intro value
  induction hn : sizeOf value using Nat.strongRecOn generalizing value with
  | ind n ih =>
    cases value with
    | null => exact null
    | bool value => exact bool value
    | int value => exact int value
    | float value => exact float value
    | str text => exact str text
    | arr items =>
      refine array items fun item hitem => ih (sizeOf item) ?_ item rfl
      have hless := List.sizeOf_lt_of_mem hitem
      have hsize : sizeOf (arr items) = 1 + sizeOf items := by simp
      omega
    | obj members =>
      refine object members fun member hmember => ih (sizeOf member.2) ?_ member.2 rfl
      have hless := List.sizeOf_lt_of_mem hmember
      have hsize : sizeOf (obj members) = 1 + sizeOf members := by simp
      have hmembersize : sizeOf member = 1 + sizeOf member.1 + sizeOf member.2 := by
        cases member
        simp
      omega

theorem sortItems_eq (items : List JsonValue) : sortKeys.sortItems items = items.map sortKeys := by
  induction items with
  | nil => rfl
  | cons item rest ih =>
    unfold sortKeys.sortItems
    rw [ih, List.map_cons]

theorem sortMembers_eq (members : List (String × JsonValue)) :
    sortKeys.sortMembers members = members.map fun member => (member.1, sortKeys member.2) := by
  induction members with
  | nil => rfl
  | cons member rest ih =>
    unfold sortKeys.sortMembers
    rw [ih, List.map_cons]

/-- The members with their values in order, in the order of the keys. -/
def sortedMembers (members : List (String × JsonValue)) : List (String × JsonValue) :=
  (members.map fun member => (member.1, sortKeys member.2)).insertionSort fun a b => a.1 ≤ b.1

theorem sortKeys_arr (items : List JsonValue) : sortKeys (arr items) = arr (items.map sortKeys) := by
  unfold sortKeys
  rw [sortItems_eq]

theorem sortKeys_obj (members : List (String × JsonValue)) :
    sortKeys (obj members) = obj (sortedMembers members) := by
  unfold sortKeys sortedMembers
  rw [sortMembers_eq]

theorem sortedMembers_perm (members : List (String × JsonValue)) :
    (sortedMembers members).Perm (members.map fun member => (member.1, sortKeys member.2)) :=
  List.perm_insertionSort _ _

theorem uniqueItems_iff (items : List JsonValue) :
    UniqueKeys.uniqueItems items ↔ ∀ item ∈ items, UniqueKeys item := by
  induction items with
  | nil => simp [UniqueKeys.uniqueItems]
  | cons item rest ih =>
    unfold UniqueKeys.uniqueItems
    rw [ih, List.forall_mem_cons]

theorem uniqueMembers_iff (members : List (String × JsonValue)) :
    UniqueKeys.uniqueMembers members ↔ ∀ member ∈ members, UniqueKeys member.2 := by
  induction members with
  | nil => simp [UniqueKeys.uniqueMembers]
  | cons member rest ih =>
    unfold UniqueKeys.uniqueMembers
    rw [ih, List.forall_mem_cons]

theorem uniqueKeys_arr {items : List JsonValue} :
    UniqueKeys (arr items) ↔ ∀ item ∈ items, UniqueKeys item := uniqueItems_iff items

theorem uniqueKeys_obj {members : List (String × JsonValue)} :
    UniqueKeys (obj members) ↔
      (members.map Prod.fst).Nodup ∧ ∀ member ∈ members, UniqueKeys member.2 := by
  rw [← uniqueMembers_iff]
  rfl

end Structure

section Lookups

theorem mem_iff_lookup {members : List (String × JsonValue)} {key : String} {value : JsonValue}
    (hnodup : (members.map Prod.fst).Nodup) :
    (key, value) ∈ members ↔ members.lookup key = some value :=
  @OrderedDict.mem_entries_iff _ _ _ ⟨members, hnodup⟩ key value

theorem nodup_sortedMembers {members : List (String × JsonValue)}
    (h : (members.map Prod.fst).Nodup) : ((sortedMembers members).map Prod.fst).Nodup := by
  have hkeys := (sortedMembers_perm members).map Prod.fst
  rw [List.map_map] at hkeys
  exact hkeys.nodup_iff.mpr h

/-- Under a key there is what was there, in order. -/
theorem lookup_sortedMembers {members : List (String × JsonValue)}
    (h : (members.map Prod.fst).Nodup) (key : String) :
    (sortedMembers members).lookup key = (members.lookup key).map sortKeys := by
  cases hfound : members.lookup key with
  | some value =>
    refine (mem_iff_lookup (nodup_sortedMembers h)).mp ?_
    rw [(sortedMembers_perm members).mem_iff]
    exact List.mem_map.mpr ⟨_, (mem_iff_lookup h).mpr hfound, rfl⟩
  | none =>
    cases hsorted : (sortedMembers members).lookup key with
    | none => rfl
    | some other =>
      have hthere := (mem_iff_lookup (nodup_sortedMembers h)).mpr hsorted
      have hmem := (sortedMembers_perm members).mem_iff.mp hthere
      obtain ⟨member, hmember, heq⟩ := List.mem_map.mp hmem
      have hkey : member.1 = key := congrArg Prod.fst heq
      have hsame : members.lookup key = some member.2 := by
        rw [← hkey]
        exact (mem_iff_lookup h).mp hmember
      rw [hfound] at hsame
      cases hsame

theorem equalItems_sortKeys {items : List JsonValue}
    (h : ∀ item ∈ items, equals item (sortKeys item) = true) :
    equals.equalItems items (items.map sortKeys) = true := by
  induction items with
  | nil => rfl
  | cons item rest ih =>
    rw [List.map_cons]
    unfold equals.equalItems
    rw [h item List.mem_cons_self, ih fun other hother => h other (List.mem_cons_of_mem _ hother)]
    rfl

theorem equalMembers_of_lookup {members others : List (String × JsonValue)}
    (h : ∀ member ∈ members, ∃ value, others.lookup member.1 = some value ∧
      equals member.2 value = true) : equals.equalMembers members others = true := by
  induction members with
  | nil => rfl
  | cons member rest ih =>
    obtain ⟨key, value⟩ := member
    obtain ⟨other, hlookup, hequal⟩ := h _ List.mem_cons_self
    unfold equals.equalMembers
    simp only at hlookup
    rw [hlookup, ih fun m hm => h m (List.mem_cons_of_mem _ hm)]
    simpa using hequal

/-- A document is equal to the one with its keys in order. -/
theorem equals_sortKeys {value : JsonValue} (h : UniqueKeys value) :
    equals value (sortKeys value) = true := by
  induction value using nestedInduction with
  | array items ih =>
    rw [sortKeys_arr]
    have hitems := uniqueKeys_arr.mp h
    show equals.equalItems items (items.map sortKeys) = true
    exact equalItems_sortKeys fun item hitem => ih item hitem (hitems item hitem)
  | object members ih =>
    obtain ⟨hnodup, hvalues⟩ := uniqueKeys_obj.mp h
    rw [sortKeys_obj]
    have hlength : members.length = (sortedMembers members).length := by
      rw [(sortedMembers_perm members).length_eq, List.length_map]
    show (decide (members.length = (sortedMembers members).length) &&
      equals.equalMembers members (sortedMembers members)) = true
    rw [equalMembers_of_lookup]
    · simpa using hlength
    · intro member hmember
      refine ⟨sortKeys member.2, ?_, ih member hmember (hvalues member hmember)⟩
      rw [lookup_sortedMembers hnodup, (mem_iff_lookup hnodup).mp hmember]
      rfl
  | null => rfl
  | bool value => simp [sortKeys, equals, number?]
  | int value => simp [sortKeys, equals, number?]
  | float value => simp [sortKeys, equals, number?]
  | str text => simp [sortKeys, equals]

end Lookups

end JsonValue
