import Mathlib.Data.List.Basic

namespace SurrogatePairs

def IsHigh (code : Nat) : Prop := 0xD800 ≤ code ∧ code < 0xDC00

def IsLow (code : Nat) : Prop := 0xDC00 ≤ code ∧ code < 0xE000

instance (code : Nat) : Decidable (IsHigh code) := inferInstanceAs (Decidable (_ ∧ _))

instance (code : Nat) : Decidable (IsLow code) := inferInstanceAs (Decidable (_ ∧ _))

def pairCode (high low : Nat) : Nat := 0x10000 + (high - 0xD800) * 0x400 + (low - 0xDC00)

/-- The characters that the codes stand for, none when a surrogate is unpaired. -/
def joinSurrogates : List Nat → Option (List Char)
  | [] => some []
  | [code] => if code.isValidChar then some [Char.ofNat code] else none
  | code :: next :: rest =>
    if IsHigh code ∧ IsLow next then
      (joinSurrogates rest).map fun text => Char.ofNat (pairCode code next) :: text
    else if code.isValidChar then
      (joinSurrogates (next :: rest)).map fun text => Char.ofNat code :: text
    else none

/-- The code units of a character. -/
def splitChar (c : Char) : List Nat :=
  if c.toNat < 0x10000 then [c.toNat]
  else [0xD800 + (c.toNat - 0x10000) / 0x400, 0xDC00 + (c.toNat - 0x10000) % 0x400]

/-- What `joinSurrogates` makes of codes, one character at a time. -/
inductive Joined : List Nat → List Char → Prop
  | nil : Joined [] []
  | plain (c : Char) {codes : List Nat} {text : List Char} :
    Joined codes text → Joined (c.toNat :: codes) (c :: text)
  | pair {high low : Nat} {codes : List Nat} {text : List Char} :
    IsHigh high → IsLow low → Joined codes text →
      Joined (high :: low :: codes) (Char.ofNat (pairCode high low) :: text)

theorem toNat_valid (c : Char) : c.toNat.isValidChar := c.valid

theorem toNat_ofNat {code : Nat} (h : code.isValidChar) : (Char.ofNat code).toNat = code := by
  unfold Char.ofNat
  rw [dif_pos h]
  rfl

theorem not_isHigh_toNat (c : Char) : ¬ IsHigh c.toNat := by
  have hvalid := toNat_valid c
  unfold Nat.isValidChar at hvalid
  unfold IsHigh
  omega

theorem Joined.append {codes codes' : List Nat} {text text' : List Char}
    (h : Joined codes text) (h' : Joined codes' text') :
    Joined (codes ++ codes') (text ++ text') := by
  induction h with
  | nil => exact h'
  | plain c _ ih => exact Joined.plain c ih
  | pair hhigh hlow _ ih => exact Joined.pair hhigh hlow ih

/-- Characters that stand for themselves. -/
theorem joined_toNat (text : List Char) : Joined (text.map Char.toNat) text := by
  induction text with
  | nil => exact Joined.nil
  | cons c text ih => exact Joined.plain c ih

theorem joined_splitChar (c : Char) : Joined (splitChar c) [c] := by
  unfold splitChar
  split
  next => exact Joined.plain c Joined.nil
  next hlarge =>
    have hvalid := toNat_valid c
    unfold Nat.isValidChar at hvalid
    have hhigh : IsHigh (0xD800 + (c.toNat - 0x10000) / 0x400) := by
      unfold IsHigh
      omega
    have hlow : IsLow (0xDC00 + (c.toNat - 0x10000) % 0x400) := by
      unfold IsLow
      omega
    have hcode : pairCode (0xD800 + (c.toNat - 0x10000) / 0x400)
        (0xDC00 + (c.toNat - 0x10000) % 0x400) = c.toNat := by
      unfold pairCode
      omega
    have hjoined := Joined.pair hhigh hlow Joined.nil
    rw [hcode, Char.ofNat_toNat] at hjoined
    exact hjoined

theorem joined_flatMap_splitChar (text : List Char) : Joined (text.flatMap splitChar) text := by
  induction text with
  | nil => exact Joined.nil
  | cons c text ih => exact (joined_splitChar c).append ih

theorem joinSurrogates_plain (c : Char) (codes : List Nat) :
    joinSurrogates (c.toNat :: codes) = (joinSurrogates codes).map fun text => c :: text := by
  cases codes with
  | nil =>
    unfold joinSurrogates
    rw [if_pos (toNat_valid c), Char.ofNat_toNat]
    rfl
  | cons next rest =>
    rw [joinSurrogates, if_neg fun h => not_isHigh_toNat c h.1, if_pos (toNat_valid c),
      Char.ofNat_toNat]

theorem joinSurrogates_of_joined {codes : List Nat} {text : List Char} (h : Joined codes text) :
    joinSurrogates codes = some text := by
  induction h with
  | nil => rfl
  | plain c _ ih => rw [joinSurrogates_plain, ih, Option.map_some]
  | pair hhigh hlow _ ih => rw [joinSurrogates, if_pos ⟨hhigh, hlow⟩, ih, Option.map_some]

theorem joined_of_joinSurrogates {codes : List Nat} {text : List Char}
    (h : joinSurrogates codes = some text) : Joined codes text := by
  induction codes using joinSurrogates.induct generalizing text with
  | case1 =>
    cases h
    exact Joined.nil
  | case2 code hvalid =>
    rw [joinSurrogates, if_pos hvalid] at h
    cases h
    have hjoined := Joined.plain (Char.ofNat code) Joined.nil
    rw [toNat_ofNat hvalid] at hjoined
    exact hjoined
  | case3 code hvalid =>
    rw [joinSurrogates, if_neg hvalid] at h
    cases h
  | case4 code next rest hpair ih =>
    rw [joinSurrogates, if_pos hpair] at h
    obtain ⟨tail, htail, rfl⟩ := Option.map_eq_some_iff.mp h
    exact Joined.pair hpair.1 hpair.2 (ih htail)
  | case5 code next rest hpair hvalid ih =>
    rw [joinSurrogates, if_neg hpair, if_pos hvalid] at h
    obtain ⟨tail, htail, rfl⟩ := Option.map_eq_some_iff.mp h
    have hjoined := Joined.plain (Char.ofNat code) (ih htail)
    rw [toNat_ofNat hvalid] at hjoined
    exact hjoined
  | case6 code next rest hpair hvalid =>
    rw [joinSurrogates, if_neg hpair, if_neg hvalid] at h
    cases h

example : joinSurrogates [0x41, 0xD83D, 0xDE00] = some ['A', '😀'] := by decide
example : joinSurrogates [0xD83D, 0x41] = none := by decide

end SurrogatePairs
