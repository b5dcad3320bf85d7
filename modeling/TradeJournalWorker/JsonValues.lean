import Mathlib.Algebra.Order.Ring.Rat

/-- A decoded JSON document, whole numbers apart from the others. -/
inductive JsonValue where
  | null
  | bool (value : Bool)
  | int (value : Int)
  | float (value : Rat)
  | str (text : String)
  | arr (items : List JsonValue)
  | obj (members : List (String × JsonValue))

namespace JsonValue

/-- `data[key]` of an object that has the key, null otherwise. -/
def get (members : List (String × JsonValue)) (key : String) : JsonValue :=
  (members.lookup key).getD .null

/-- Equality with a text. -/
def isText (value : JsonValue) (text : String) : Bool :=
  match value with
  | str other => other = text
  | _ => false

/-- Identity with `True` or `False`, which no number has. -/
def isBool (value : JsonValue) (flag : Bool) : Bool :=
  match value with
  | bool other => other = flag
  | _ => false

/-- The number that a boolean or a number counts as in a comparison. -/
def number? : JsonValue → Option Rat
  | bool value => some (if value then 1 else 0)
  | int value => some value
  | float value => some value
  | _ => none

/-- `==` of Python, where booleans are numbers and the order of keys does not matter. -/
def equals : JsonValue → JsonValue → Bool
  | null, null => true
  | str a, str b => a = b
  | arr a, arr b => equalItems a b
  | obj a, obj b => a.length = b.length && equalMembers a b
  | a, b =>
    match a.number?, b.number? with
    | some x, some y => x = y
    | _, _ => false
where
  equalItems : List JsonValue → List JsonValue → Bool
    | [], [] => true
    | a :: rest, b :: others => equals a b && equalItems rest others
    | _, _ => false
  equalMembers : List (String × JsonValue) → List (String × JsonValue) → Bool
    | [], _ => true
    | (key, a) :: rest, members =>
      (match members.lookup key with
        | some b => equals a b
        | none => false) && equalMembers rest members

/-- The value in a condition. -/
def truthy : JsonValue → Bool
  | null => false
  | bool value => value
  | int value => value ≠ 0
  | float value => value ≠ 0
  | str text => text ≠ ""
  | arr items => !items.isEmpty
  | obj members => !members.isEmpty

/-- The members with another value under the key. -/
def updateMembers (key : String) (f : JsonValue → JsonValue)
    (members : List (String × JsonValue)) : List (String × JsonValue) :=
  members.map fun member => if member.1 = key then (member.1, f member.2) else member

def updateMember (key : String) (f : JsonValue → JsonValue) : JsonValue → JsonValue
  | obj members => obj (updateMembers key f members)
  | value => value

section Updates

variable {key other : String} {f : JsonValue → JsonValue} {members : List (String × JsonValue)}

theorem keys_updateMembers :
    (updateMembers key f members).map Prod.fst = members.map Prod.fst := by
  unfold updateMembers
  rw [List.map_map]
  apply List.map_congr_left
  intro member _
  show (if member.1 = key then (member.1, f member.2) else member).1 = member.1
  split
  · rfl
  · rfl

theorem lookup_updateMembers : (updateMembers key f members).lookup other =
    (members.lookup other).map fun value => if other = key then f value else value := by
  induction members with
  | nil => rfl
  | cons member rest ih =>
    obtain ⟨name, value⟩ := member
    unfold updateMembers at ih ⊢
    by_cases hother : other = name
    · subst hother
      by_cases hkey : other = key
      · simp [hkey]
      · simp [hkey]
    · have hbeq : (other == name) = false := by simpa using hother
      by_cases hkey : name = key
      · subst hkey
        simp only [List.map_cons, if_true, List.lookup_cons, hbeq]
        exact ih
      · simp only [List.map_cons, hkey, if_false, List.lookup_cons, hbeq]
        exact ih

theorem get_updateMembers_of_ne (h : other ≠ key) :
    get (updateMembers key f members) other = get members other := by
  unfold get
  rw [lookup_updateMembers]
  cases members.lookup other with
  | none => rfl
  | some value => simp [h]

theorem get_updateMembers (h : key ∈ members.map Prod.fst) :
    get (updateMembers key f members) key = f (get members key) := by
  unfold get
  rw [lookup_updateMembers]
  cases hlookup : members.lookup key with
  | none =>
    obtain ⟨member, hmember, hname⟩ := List.mem_map.mp h
    have hnone := List.lookup_eq_none_iff.mp hlookup member hmember
    simp [hname] at hnone
  | some value => simp

end Updates

@[simp] theorem isText_str (text other : String) : (str text).isText other = decide (text = other) :=
  rfl

theorem isText_iff {value : JsonValue} {text : String} :
    value.isText text = true ↔ value = str text := by
  cases value with
  | str other => simp
  | null => simp [isText]
  | bool b => simp [isText]
  | int n => simp [isText]
  | float r => simp [isText]
  | arr items => simp [isText]
  | obj members => simp [isText]

end JsonValue
