import Mathlib.Data.List.Infix
import Mathlib.Data.List.TakeWhile

namespace TradeJournalWorker

/-- `StringFind` followed by skipping the needle: the text behind its first occurrence. -/
def findAfter (needle : List Char) : List Char → Option (List Char)
  | [] => if needle = [] then some [] else none
  | c :: rest =>
    if needle.isPrefixOf (c :: rest) then some ((c :: rest).drop needle.length)
    else findAfter needle rest

def digitsValue (text : List Char) : Int := Nat.ofDigitChars 10 (text.takeWhile Char.isDigit) 0

/-- `StringToInteger` on what `ExtractJsonLong` cuts out. -/
def stringToInteger : List Char → Int
  | '-' :: rest => -(digitsValue rest)
  | text => digitsValue text

/-- `IntegerToString`. -/
def integerToString (value : Int) : List Char :=
  if value < 0 then '-' :: Nat.toDigits 10 value.natAbs else Nat.toDigits 10 value.natAbs

def isNumberChar (c : Char) : Bool := c.isDigit || c == '-'

def extractJsonLong (json key : List Char) (defaultValue : Int) : Int :=
  match findAfter ('"' :: key ++ ['"', ':']) json with
  | none => defaultValue
  | some rest =>
    if rest.takeWhile isNumberChar = [] then defaultValue
    else stringToInteger (rest.takeWhile isNumberChar)

def extractJsonBool (json key : List Char) (defaultValue : Bool) : Bool :=
  if (findAfter ('"' :: key ++ ['"', ':', 't', 'r', 'u', 'e']) json).isSome then true
  else if (findAfter ('"' :: key ++ ['"', ':', 'f', 'a', 'l', 's', 'e']) json).isSome then false
  else defaultValue

def eventSeqKey : List Char := "event_seq".toList

def backfillDoneKey : List Char := "backfill_done".toList

def boolText (value : Bool) : List Char := if value then "true".toList else "false".toList

/-- The text `SaveCursorState` writes. -/
def cursorText (eventSeq : Int) (backfillDone : Bool) : List Char :=
  "\x7b\"event_seq\":".toList ++ integerToString eventSeq ++
    (",\"backfill_done\":".toList ++ boolText backfillDone ++ ['}'])

example : extractJsonLong (cursorText 41 true) eventSeqKey 0 = 41 := by decide
example : extractJsonLong ((cursorText 41 true).take 14) eventSeqKey 0 = 4 := by decide
example : extractJsonBool (cursorText 41 true) backfillDoneKey false = true := by decide

theorem digitsValue_toDigits (n : Nat) : digitsValue (Nat.toDigits 10 n) = n := by
  have hall : ∀ c ∈ Nat.toDigits 10 n, c.isDigit = true := by
    intro c hc
    exact Nat.isDigit_of_mem_toDigits (by omega) (by omega) hc
  unfold digitsValue
  rw [List.takeWhile_eq_self_iff.mpr hall, Nat.ofDigitChars_ten_toDigits]

theorem stringToInteger_toDigits (n : Nat) : stringToInteger (Nat.toDigits 10 n) = n := by
  cases hdigits : Nat.toDigits 10 n with
  | nil => exact absurd hdigits Nat.toDigits_ne_nil
  | cons c rest =>
    have hmem : c ∈ Nat.toDigits 10 n := by
      rw [hdigits]
      exact List.mem_cons_self
    have hdigit : c.isDigit = true := Nat.isDigit_of_mem_toDigits (by omega) (by omega) hmem
    have hminus : c ≠ '-' := by
      intro h
      rw [h] at hdigit
      exact absurd hdigit (by decide)
    unfold stringToInteger
    split
    next heq => exact absurd (List.cons.inj heq).1 hminus
    next => rw [← hdigits, digitsValue_toDigits]

theorem stringToInteger_integerToString (n : Int) : stringToInteger (integerToString n) = n := by
  unfold integerToString
  by_cases hneg : n < 0
  · have hminus : stringToInteger ('-' :: Nat.toDigits 10 n.natAbs) =
        -digitsValue (Nat.toDigits 10 n.natAbs) := rfl
    rw [if_pos hneg, hminus, digitsValue_toDigits]
    omega
  · rw [if_neg hneg, stringToInteger_toDigits]
    omega

theorem integerToString_inj {m n : Int} (h : integerToString m = integerToString n) : m = n := by
  have hread := congrArg stringToInteger h
  rw [stringToInteger_integerToString, stringToInteger_integerToString] at hread
  exact hread

theorem isNumberChar_of_mem {n : Int} {c : Char} (h : c ∈ integerToString n) :
    isNumberChar c = true := by
  have hdigits : ∀ d ∈ Nat.toDigits 10 n.natAbs, isNumberChar d = true := by
    intro d hd
    unfold isNumberChar
    rw [Nat.isDigit_of_mem_toDigits (by omega) (by omega) hd, Bool.true_or]
  unfold integerToString at h
  split at h
  next =>
    rcases List.mem_cons.mp h with rfl | h
    · decide
    · exact hdigits c h
  next => exact hdigits c h

theorem integerToString_ne_nil (n : Int) : integerToString n ≠ [] := by
  unfold integerToString
  split
  next => exact List.cons_ne_nil _ _
  next => exact Nat.toDigits_ne_nil

/-- The number ends at the comma behind it. -/
theorem takeWhile_number (n : Int) (rest : List Char) :
    (integerToString n ++ ',' :: rest).takeWhile isNumberChar = integerToString n := by
  have hall : ∀ c ∈ integerToString n, isNumberChar c = true := fun c hc => isNumberChar_of_mem hc
  rw [List.takeWhile_append_of_pos hall, List.takeWhile_cons_of_neg (by decide), List.append_nil]

theorem extractJsonLong_cursorText (eventSeq : Int) (backfillDone : Bool) (defaultValue : Int) :
    extractJsonLong (cursorText eventSeq backfillDone) eventSeqKey defaultValue = eventSeq := by
  have hfind : findAfter ('"' :: eventSeqKey ++ ['"', ':']) (cursorText eventSeq backfillDone) =
      some (integerToString eventSeq ++
        ',' :: ("\"backfill_done\":".toList ++ boolText backfillDone ++ ['}'])) := rfl
  unfold extractJsonLong
  rw [hfind]
  simp only
  rw [takeWhile_number, if_neg (integerToString_ne_nil eventSeq),
    stringToInteger_integerToString]

/-- A search for a quoted name passes over text without quotes. -/
theorem findAfter_append {needle xs ys : List Char} {c : Char} (hxs : c ∉ xs) :
    findAfter (c :: needle) (xs ++ ys) = findAfter (c :: needle) ys := by
  induction xs with
  | nil => rfl
  | cons x rest ih =>
    have hne : c ≠ x := fun h => hxs (h ▸ List.mem_cons_self)
    have hrest : c ∉ rest := fun h => hxs (List.mem_cons_of_mem _ h)
    rw [List.cons_append, findAfter]
    have hhead : (c :: needle).isPrefixOf (x :: (rest ++ ys)) = false := by
      simp [List.isPrefixOf, hne]
    rw [hhead, if_neg Bool.false_ne_true, ih hrest]

theorem quote_notMem_integerToString (n : Int) : '"' ∉ integerToString n := by
  intro h
  have := isNumberChar_of_mem h
  exact absurd this (by decide)

theorem extractJsonBool_cursorText (eventSeq : Int) (backfillDone defaultValue : Bool) :
    extractJsonBool (cursorText eventSeq backfillDone) backfillDoneKey defaultValue =
      backfillDone := by
  have hskip : ∀ value, findAfter ('"' :: (backfillDoneKey ++ value))
      (cursorText eventSeq backfillDone) = findAfter ('"' :: (backfillDoneKey ++ value))
        (",\"backfill_done\":".toList ++ boolText backfillDone ++ ['}']) := by
    intro value
    have hhead : findAfter ('"' :: (backfillDoneKey ++ value)) (cursorText eventSeq backfillDone) =
        findAfter ('"' :: (backfillDoneKey ++ value)) (integerToString eventSeq ++
          (",\"backfill_done\":".toList ++ boolText backfillDone ++ ['}'])) := rfl
    rw [hhead, findAfter_append (quote_notMem_integerToString eventSeq)]
  unfold extractJsonBool
  simp only [List.cons_append, hskip]
  cases backfillDone
  · rfl
  · rfl

end TradeJournalWorker
