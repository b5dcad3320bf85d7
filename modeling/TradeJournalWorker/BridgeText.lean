import Mathlib.Algebra.Ring.Nat
import TradeJournalWorker.JsonDumps

namespace TradeJournalWorker

open SurrogatePairs JsonText

/-- The code units of a text. -/
def wide (text : List Char) : List UInt16 := (text.flatMap splitChar).map UInt16.ofNat

/-- The decimal digits of a number, `count` of them. -/
def paddedDigits : Nat → Nat → List Char
  | 0, _ => []
  | count + 1, value => paddedDigits count (value / 10) ++ [Nat.digitChar (value % 10)]

def escapeUnit (c : UInt16) : List UInt16 :=
  if c = 34 then wide ['\\', '"']
  else if c = 92 then wide ['\\', '\\']
  else if c = 10 then wide ['\\', 'n']
  else if c = 13 then wide ['\\', 'r']
  else if c = 9 then wide ['\\', 't']
  else if c < 0x20 then wide (unicodeEscape c.toNat)
  else [c]

def jsonEscape (text : List UInt16) : List UInt16 := text.flatMap escapeUnit

def jsonString (text : List UInt16) : List UInt16 := wide ['"'] ++ jsonEscape text ++ wide ['"']

/-- What the program reads off the doubles of the terminal: `ticks` is the absolute value in units
of the sixteenth decimal, as `DoubleToString` rounds it. -/
structure Doubles (D : Type) where
  isValidNumber : D → Bool
  isNegative : D → Bool
  ticks : D → Nat
  sub : D → D → D
  isPositive : D → Bool

/-- `DoubleToString(value, 16)`. -/
def doubleToString {D : Type} (doubles : Doubles D) (value : D) : List Char :=
  (if doubles.isNegative value then ['-'] else []) ++
    (Nat.toDigits 10 (doubles.ticks value / 10 ^ 16) ++
      '.' :: paddedDigits 16 (doubles.ticks value % 10 ^ 16))

def jsonNumber {D : Type} (doubles : Doubles D) (value : D) : List UInt16 :=
  if doubles.isValidNumber value then wide (doubleToString doubles value) else wide ['0']

/-- `MqlDateTime`: a moment by its calendar fields. -/
structure MqlDateTime where
  year : Nat
  month : Nat
  day : Nat
  hour : Nat
  minute : Nat
  second : Nat
  deriving DecidableEq, Repr

def isLeapYear (year : Nat) : Bool := year % 4 = 0 ∧ (year % 100 ≠ 0 ∨ year % 400 = 0)

def daysInMonth (year month : Nat) : Nat :=
  if month = 2 then (if isLeapYear year then 29 else 28)
  else if month ∈ [4, 6, 9, 11] then 30
  else 31

/-- The fields are those of a day and a time that exist. -/
def MqlDateTime.Valid (t : MqlDateTime) : Prop :=
  1 ≤ t.year ∧ t.year ≤ 9999 ∧ 1 ≤ t.month ∧ t.month ≤ 12 ∧ 1 ≤ t.day ∧
    t.day ≤ daysInMonth t.year t.month ∧ t.hour ≤ 23 ∧ t.minute ≤ 59 ∧ t.second ≤ 59

instance (t : MqlDateTime) : Decidable t.Valid := inferInstanceAs (Decidable (_ ∧ _))

/-- The days from the first of January of year one to the first of the year. -/
def daysBeforeYear (year : Nat) : Nat :=
  365 * (year - 1) + (year - 1) / 4 - (year - 1) / 100 + (year - 1) / 400

def daysBeforeMonth (year month : Nat) : Nat :=
  ((List.range' 1 (month - 1)).map (daysInMonth year)).sum

/-- The seconds since 1970. -/
def MqlDateTime.seconds (t : MqlDateTime) : Int :=
  ((daysBeforeYear t.year + daysBeforeMonth t.year t.month + (t.day - 1) : Nat) : Int) * 86400 +
    (t.hour * 3600 + t.minute * 60 + t.second : Nat) - 719162 * 86400

/-- A `datetime` of the terminal. -/
abbrev Datetime := Subtype MqlDateTime.Valid

/-- `TimeToString(value, TIME_DATE | TIME_SECONDS)`. -/
def timeToString (t : MqlDateTime) : List Char :=
  paddedDigits 4 t.year ++ '.' :: (paddedDigits 2 t.month ++ '.' :: (paddedDigits 2 t.day ++
    ' ' :: (paddedDigits 2 t.hour ++ ':' :: (paddedDigits 2 t.minute ++
      ':' :: paddedDigits 2 t.second))))

/-- `StringReplace` of one character by another. -/
def stringReplace (target replacement : Char) (text : List Char) : List Char :=
  text.map fun c => if c = target then replacement else c

def iso8601FromDatetime (value : Datetime) : List Char :=
  stringReplace ' ' 'T' (stringReplace '.' '-' (timeToString value.val)) ++ ['Z']

/-- The members of an object, each as its name and the text behind the colon. -/
def memberText (member : String × List UInt16) : List UInt16 :=
  wide ['"'] ++ wide member.1.toList ++ wide ['"', ':'] ++ member.2

def objectText (members : List (String × List UInt16)) : List UInt16 :=
  wide ['\x7b'] ++ (wide [',']).intercalate (members.map memberText) ++ wide ['\x7d']

example : (MqlDateTime.mk 2026 3 1 0 0 1).seconds = 1772323201 := by decide

/-- A file that holds the units is read as the text. -/
def Written (units : List UInt16) (text : List Char) : Prop :=
  Joined (units.map UInt16.toNat) text

/-- The units are a JSON text of the value. -/
def Encodes (units : List UInt16) (value : JsonValue) : Prop :=
  ∃ text, Written units text ∧ Reads text value

section Units

variable {units units' : List UInt16} {text text' : List Char}

theorem Written.append (h : Written units text) (h' : Written units' text') :
    Written (units ++ units') (text ++ text') := by
  unfold Written
  rw [List.map_append]
  exact Joined.append h h'

theorem splitChar_lt {c : Char} {code : Nat} (h : code ∈ splitChar c) : code < 2 ^ 16 := by
  have hvalid := toNat_valid c
  unfold Nat.isValidChar at hvalid
  unfold splitChar at h
  split at h
  next hsmall =>
    have heq := List.mem_singleton.mp h
    omega
  next hlarge =>
    rcases List.mem_cons.mp h with heq | h
    · omega
    · have heq := List.mem_singleton.mp h
      omega

theorem written_wide (text : List Char) : Written (wide text) text := by
  have hunits : (wide text).map UInt16.toNat = text.flatMap splitChar := by
    unfold wide
    rw [List.map_map]
    conv_rhs => rw [← List.map_id (text.flatMap splitChar)]
    apply List.map_congr_left
    intro code hcode
    obtain ⟨c, -, hmem⟩ := List.mem_flatMap.mp hcode
    exact Nat.mod_eq_of_lt (splitChar_lt hmem)
  unfold Written
  rw [hunits]
  exact joined_flatMap_splitChar text

theorem written_intercalate {parts : List (List UInt16)} {texts : List (List Char)}
    (h : List.Forall₂ Written parts texts) :
    Written ((wide [',']).intercalate parts) ([','].intercalate texts) := by
  induction h with
  | nil => exact Joined.nil
  | cons hpart htail ih =>
    cases htail with
    | nil =>
      rw [List.intercalate_singleton, List.intercalate_singleton]
      exact hpart
    | cons hnext htail =>
      rw [List.intercalate_cons_cons, List.intercalate_cons_cons]
      exact (hpart.append (written_wide [','])).append ih

end Units

section Strings

theorem written_single {u : UInt16} {c : Char} (h : u.toNat = c.toNat) : Written [u] [c] := by
  have hjoined := Joined.plain c Joined.nil
  rw [← h] at hjoined
  exact hjoined

/-- What is written for a unit that is a character by itself reads as that character. -/
theorem escapeUnit_spells {u : UInt16} {c : Char} (h : u.toNat = c.toNat) :
    ∃ piece, Written (escapeUnit u) piece ∧ Spells piece [c.toNat] := by
  have hunit : ∀ code : UInt16, u = code → c.toNat = code.toNat := fun code heq => by rw [← h, heq]
  unfold escapeUnit
  split
  next heq =>
    rw [hunit 34 heq]
    exact ⟨_, written_wide _, spells_escape rfl⟩
  next hquote =>
    split
    next heq =>
      rw [hunit 92 heq]
      exact ⟨_, written_wide _, spells_escape rfl⟩
    next hslash =>
      split
      next heq =>
        rw [hunit 10 heq]
        exact ⟨_, written_wide _, spells_escape rfl⟩
      next =>
        split
        next heq =>
          rw [hunit 13 heq]
          exact ⟨_, written_wide _, spells_escape rfl⟩
        next =>
          split
          next heq =>
            rw [hunit 9 heq]
            exact ⟨_, written_wide _, spells_escape rfl⟩
          next =>
            split
            next hsmall =>
              have hcontrol : c.toNat < 32 := by
                rw [← h]
                exact UInt16.lt_iff_toNat_lt.mp hsmall
              rw [h]
              exact ⟨_, written_wide _, spells_unicodeEscape (by omega)⟩
            next hlarge =>
              refine ⟨[c], written_single h, spells_raw ?_ ?_ ?_⟩
              · rw [← h]
                exact Nat.not_lt.mp fun hlt => hlarge (UInt16.lt_iff_toNat_lt.mpr hlt)
              · intro heq
                exact hquote (UInt16.toNat_inj.mp (h.trans (congrArg Char.toNat heq)))
              · intro heq
                exact hslash (UInt16.toNat_inj.mp (h.trans (congrArg Char.toNat heq)))

/-- A unit of a surrogate pair is written as it is. -/
theorem escapeUnit_surrogate {u : UInt16} (h : 0xD800 ≤ u.toNat) : escapeUnit u = [u] := by
  have hne : ∀ code : UInt16, code.toNat < 0xD800 → u ≠ code := by
    intro code hcode heq
    rw [heq] at h
    omega
  have hlarge : ¬ u < 0x20 := by
    intro hlt
    have hlt := UInt16.lt_iff_toNat_lt.mp hlt
    have hblank : (0x20 : UInt16).toNat = 32 := rfl
    omega
  unfold escapeUnit
  rw [if_neg (hne 34 (by decide)), if_neg (hne 92 (by decide)), if_neg (hne 10 (by decide)),
    if_neg (hne 13 (by decide)), if_neg (hne 9 (by decide)), if_neg hlarge]

theorem jsonEscape_spells {units : List UInt16} {text : List Char} (h : Written units text) :
    ∃ body, Written (jsonEscape units) body ∧ Spells body (text.map Char.toNat) := by
  unfold Written at h
  generalize hcodes : units.map UInt16.toNat = codes at h
  induction h generalizing units with
  | nil =>
    have hnil : units = [] := List.map_eq_nil_iff.mp hcodes
    subst hnil
    exact ⟨[], Joined.nil, spells_nil⟩
  | plain c _ ih =>
    obtain ⟨u, rest, rfl, hu, hrest⟩ := List.map_eq_cons_iff.mp hcodes
    obtain ⟨piece, hpiece, hspells⟩ := escapeUnit_spells hu
    obtain ⟨body, hbody, hbodySpells⟩ := ih hrest
    exact ⟨piece ++ body, hpiece.append hbody, hspells.append hbodySpells⟩
  | pair hhigh hlow _ ih =>
    rename_i high low codes text _
    obtain ⟨u, front, rfl, hu, hfront⟩ := List.map_eq_cons_iff.mp hcodes
    obtain ⟨v, rest, rfl, hv, hrest⟩ := List.map_eq_cons_iff.mp hfront
    obtain ⟨body, hbody, hbodySpells⟩ := ih hrest
    have hescape : jsonEscape (u :: v :: rest) = u :: v :: jsonEscape rest := by
      have hhighUnit : 0xD800 ≤ u.toNat := by rw [hu]; exact hhigh.1
      have hlowUnit : 0xD800 ≤ v.toNat := by
        have hbound := hlow.1
        omega
      unfold jsonEscape
      rw [List.flatMap_cons, List.flatMap_cons, escapeUnit_surrogate hhighUnit,
        escapeUnit_surrogate hlowUnit]
      rfl
    have hvalid : (pairCode high low).isValidChar := by
      obtain ⟨hhigh, hhigh'⟩ := hhigh
      obtain ⟨hlow, hlow'⟩ := hlow
      unfold Nat.isValidChar pairCode
      omega
    have hchar := toNat_ofNat hvalid
    have hbound : 0x10000 ≤ pairCode high low := by
      unfold pairCode
      omega
    have hraw : Spells [Char.ofNat (pairCode high low)]
        [(Char.ofNat (pairCode high low)).toNat] := by
      apply spells_raw
      · omega
      · intro heq
        rw [heq] at hchar
        have hquote : '"'.toNat = 34 := rfl
        omega
      · intro heq
        rw [heq] at hchar
        have hslash : '\\'.toNat = 92 := rfl
        omega
    refine ⟨Char.ofNat (pairCode high low) :: body, ?_, hraw.append hbodySpells⟩
    have hpair := Joined.pair hhigh hlow hbody
    rw [← hu, ← hv] at hpair ⊢
    rw [hescape]
    exact hpair

end Strings

section Numbers

theorem paddedDigits_isDigit {count value : Nat} {c : Char} (h : c ∈ paddedDigits count value) :
    c.isDigit = true := by
  induction count generalizing value with
  | zero => cases h
  | succ count ih =>
    rcases List.mem_append.mp h with h | h
    · exact ih h
    · have heq := List.mem_singleton.mp h
      have hmem : c ∈ Nat.toDigits 10 (value % 10) := by
        rw [Nat.toDigits_of_lt_base (Nat.mod_lt _ (by omega)), heq]
        exact List.mem_singleton.mpr rfl
      exact toDigits_isDigit hmem

theorem paddedDigits_length (count value : Nat) : (paddedDigits count value).length = count := by
  induction count generalizing value with
  | zero => rfl
  | succ count ih => rw [paddedDigits, List.length_append, ih, List.length_singleton]

theorem ofDigitChars_paddedDigits (count value start : Nat) :
    Nat.ofDigitChars 10 (paddedDigits count value) start =
      start * 10 ^ count + value % 10 ^ count := by
  induction count generalizing value with
  | zero => simp [paddedDigits, Nat.mod_one]
  | succ count ih =>
    have hdigit : value % 10 < 10 := Nat.mod_lt _ (by omega)
    have hsplit : value % 10 ^ (count + 1) = value % 10 + 10 * (value / 10 % 10 ^ count) := by
      rw [Nat.pow_succ', Nat.mod_mul]
    rw [paddedDigits, Nat.ofDigitChars_append, ih,
      Nat.ofDigitChars_cons_digitChar_of_lt_ten hdigit, Nat.ofDigitChars_nil, hsplit, Nat.pow_succ',
      Nat.mul_add]
    have hcomm : start * (10 * 10 ^ count) = 10 * (start * 10 ^ count) := by
      rw [Nat.mul_left_comm]
    omega

/-- The number that a double is written as. -/
def numberOf {D : Type} (doubles : Doubles D) (value : D) : JsonValue :=
  if doubles.isValidNumber value then
    .float ((if doubles.isNegative value then -1 else 1) * doubles.ticks value / 10 ^ 16)
  else .int 0

theorem decimalValue_ticks (sign : Int) (ticks : Nat) :
    decimalValue sign (ticks / 10 ^ 16) (paddedDigits 16 (ticks % 10 ^ 16)) =
      sign * ticks / 10 ^ 16 := by
  have hdigits : Nat.ofDigitChars 10
      (Nat.toDigits 10 (ticks / 10 ^ 16) ++ paddedDigits 16 (ticks % 10 ^ 16)) 0 = ticks := by
    rw [Nat.ofDigitChars_append, Nat.ofDigitChars_ten_toDigits, ofDigitChars_paddedDigits,
      Nat.mod_mod, Nat.div_add_mod']
  have hpower : powerOfTen (-((paddedDigits 16 (ticks % 10 ^ 16)).length : Int)) = 1 / 10 ^ 16 := by
    rw [paddedDigits_length]
    rfl
  unfold decimalValue
  rw [hdigits, hpower, ← mul_div_assoc, mul_one]

theorem encodes_number {D : Type} (doubles : Doubles D) (value : D) :
    Encodes (jsonNumber doubles value) (numberOf doubles value) := by
  have hfraction : paddedDigits 16 (doubles.ticks value % 10 ^ 16) ≠ [] := by
    intro heq
    have hlength := paddedDigits_length 16 (doubles.ticks value % 10 ^ 16)
    rw [heq] at hlength
    cases hlength
  unfold jsonNumber numberOf
  split
  next =>
    refine ⟨_, written_wide _, ?_⟩
    unfold doubleToString
    split
    next =>
      have hreads := reads_negative_decimal (doubles.ticks value / 10 ^ 16) hfraction
        fun c => paddedDigits_isDigit
      rw [decimalValue_ticks, Int.cast_neg, Int.cast_one] at hreads
      exact hreads
    next =>
      have hreads := reads_decimal (doubles.ticks value / 10 ^ 16) hfraction
        fun c => paddedDigits_isDigit
      rw [decimalValue_ticks, Int.cast_one] at hreads
      exact hreads
  next => exact ⟨_, written_wide _, reads_natural 0⟩

end Numbers

section Values

theorem encodes_null : Encodes (wide "null".toList) .null := ⟨_, written_wide _, reads_null⟩

theorem encodes_integer (n : Int) : Encodes (wide (integerToString n)) (.int n) :=
  ⟨_, written_wide _, reads_integerToString n⟩

theorem joinSurrogates_toNat (text : List Char) :
    joinSurrogates (text.map Char.toNat) = some text :=
  joinSurrogates_of_joined (joined_toNat text)

theorem encodes_string {units : List UInt16} {text : List Char} (h : Written units text) :
    Encodes (jsonString units) (.str (String.ofList text)) := by
  obtain ⟨body, hbody, hspells⟩ := jsonEscape_spells h
  have hreads : Reads ('"' :: (body ++ ['"'])) (.str (String.ofList text)) := by
    apply reads_string hspells
    rw [String.toList_ofList]
    exact joinSurrogates_toNat text
  have hwritten := ((written_wide ['"']).append hbody).append (written_wide ['"'])
  rw [List.append_assoc] at hwritten
  exact ⟨_, hwritten, hreads⟩

/-- A name that is written as it is. -/
def PlainName (name : String) : Prop :=
  ∀ c ∈ name.toList, 32 ≤ c.toNat ∧ c ≠ '"' ∧ c ≠ '\\'

instance (name : String) : Decidable (PlainName name) :=
  List.decidableBAll (fun c : Char => 32 ≤ c.toNat ∧ c ≠ '"' ∧ c ≠ '\\') name.toList

theorem spells_plain {text : List Char} (h : ∀ c ∈ text, 32 ≤ c.toNat ∧ c ≠ '"' ∧ c ≠ '\\') :
    Spells text (text.map Char.toNat) := by
  induction text with
  | nil => exact spells_nil
  | cons c text ih =>
    obtain ⟨hcontrol, hquote, hslash⟩ := h c (by simp)
    exact (spells_raw hcontrol hquote hslash).append (ih fun d hd => h d (by simp [hd]))

/-- The member's text is a JSON text of the value under the name. -/
def EncodesMember (member : String × List UInt16) (entry : String × JsonValue) : Prop :=
  member.1 = entry.1 ∧ Encodes member.2 entry.2

theorem encodes_member {member : String × List UInt16} {entry : String × JsonValue}
    (h : EncodesMember member entry) (hplain : PlainName entry.1) :
    ∃ text, Written (memberText member) text ∧ ReadsMember text entry := by
  obtain ⟨hname, valueText, hwritten, hreads⟩ := h
  rw [← hname] at hplain
  refine ⟨'"' :: (member.1.toList ++ '"' :: ':' :: valueText), ?_, member.1.toList,
    member.1.toList.map Char.toNat, valueText, rfl, spells_plain hplain, ?_, hreads⟩
  · have hfront := ((written_wide ['"']).append (written_wide member.1.toList)).append
      (written_wide ['"', ':'])
    have hall := hfront.append hwritten
    simp only [List.append_assoc] at hall
    unfold memberText
    simp only [List.append_assoc]
    exact hall
  · rw [← hname]
    exact joinSurrogates_toNat _

theorem encodes_object {members : List (String × List UInt16)}
    {entries : List (String × JsonValue)} (h : List.Forall₂ EncodesMember members entries)
    (hplain : ∀ name ∈ entries.map Prod.fst, PlainName name)
    (hkeys : (entries.map Prod.fst).Nodup) : Encodes (objectText members) (.obj entries) := by
  have hparts : ∃ texts, List.Forall₂ Written (members.map memberText) texts ∧
      List.Forall₂ ReadsMember texts entries := by
    induction h with
    | nil => exact ⟨[], List.Forall₂.nil, List.Forall₂.nil⟩
    | cons hmember htail ih =>
      obtain ⟨text, hwritten, hreads⟩ := encodes_member hmember (hplain _ List.mem_cons_self)
      have hplainTail := fun name hname => hplain name (List.mem_cons_of_mem _ hname)
      obtain ⟨texts, hwrittens, hreadss⟩ := ih hplainTail (List.nodup_cons.mp hkeys).2
      exact ⟨text :: texts, List.Forall₂.cons hwritten hwrittens, List.Forall₂.cons hreads hreadss⟩
  obtain ⟨texts, hwritten, hreads⟩ := hparts
  have hall := ((written_wide ['\x7b']).append (written_intercalate hwritten)).append
    (written_wide ['\x7d'])
  rw [List.append_assoc] at hall
  exact ⟨_, hall, reads_object hreads hkeys⟩

end Values

end TradeJournalWorker
