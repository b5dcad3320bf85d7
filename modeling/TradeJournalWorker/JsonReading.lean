import TradeJournalWorker.JsonText

namespace JsonText

open SurrogatePairs

/-- What may stand behind a value without being read as a part of it. -/
def Ends (rest : List Char) : Prop :=
  ∀ c ∈ rest.head?, c.isDigit = false ∧ c ≠ '.' ∧ c ≠ 'e' ∧ c ≠ 'E'

/-- The body of a string literal is read as the codes. -/
def Spells (body : List Char) (codes : List Nat) : Prop :=
  ∀ rest, scanCodes (body ++ rest) = (scanCodes rest).map fun found => (codes ++ found.1, found.2)

/-- The text is read as the value, whatever stands behind it. -/
def Reads (text : List Char) (value : JsonValue) : Prop :=
  ∀ fuel rest, 3 * text.length ≤ fuel → Ends rest →
    parseValue fuel (text ++ rest) = some (value, rest)

theorem ends_nil : Ends [] := by
  intro c hc
  cases hc

theorem ends_cons {c : Char} {rest : List Char} (hdigit : c.isDigit = false) (hdot : c ≠ '.')
    (hlower : c ≠ 'e') (hupper : c ≠ 'E') : Ends (c :: rest) := by
  intro d hd
  have heq : c = d := by simpa using hd
  subst heq
  exact ⟨hdigit, hdot, hlower, hupper⟩

theorem exists_fuel {fuel length : Nat} (h : 3 * (length + 1) ≤ fuel) :
    ∃ n, fuel = n + 1 ∧ 3 * length + 2 ≤ n :=
  ⟨fuel - 1, by omega, by omega⟩

section Strings

variable {body body' : List Char} {codes codes' : List Nat}

theorem spells_nil : Spells [] [] := by
  intro rest
  cases h : scanCodes rest with
  | none => exact h
  | some found => exact h

theorem Spells.append (h : Spells body codes) (h' : Spells body' codes') :
    Spells (body ++ body') (codes ++ codes') := by
  intro rest
  rw [List.append_assoc, h, h', Option.map_map]
  congr 1
  funext found
  simp [List.append_assoc]

theorem spells_raw {c : Char} (hcontrol : 32 ≤ c.toNat) (hquote : c ≠ '"') (hslash : c ≠ '\\') :
    Spells [c] [c.toNat] := by
  intro rest
  show scanCodes (c :: rest) = _
  rw [scanCodes.eq_def]
  split
  next heq => exact absurd heq (List.cons_ne_nil _ _)
  next heq => exact absurd (List.cons.inj heq).1 hquote
  next heq => exact absurd (List.cons.inj heq).1 hslash
  next heq => exact absurd (List.cons.inj heq).1 hslash
  next heq =>
    obtain ⟨rfl, rfl⟩ := List.cons.inj heq
    rw [if_neg (by omega)]
    rfl

theorem spells_escape {c : Char} {code : Nat} (h : escapeCode c = some code) :
    Spells ['\\', c] [code] := by
  intro rest
  show scanCodes ('\\' :: c :: rest) = _
  have hletter : c ≠ 'u' := by
    intro heq
    rw [heq] at h
    cases h
  rw [scanCodes.eq_def]
  split
  next heq => exact absurd heq (List.cons_ne_nil _ _)
  next heq => exact absurd (List.cons.inj heq).1 (by decide)
  next heq => exact absurd (List.cons.inj (List.cons.inj heq).2).1 hletter
  next heq =>
    obtain ⟨-, heq⟩ := List.cons.inj heq
    obtain ⟨rfl, rfl⟩ := List.cons.inj heq
    rw [h]
    rfl
  next hnone heq =>
    obtain ⟨rfl, rfl⟩ := List.cons.inj heq
    exact absurd rfl (hnone c rest rfl)

theorem spells_hex {a b c d : Char} {code : Nat} (h : hexCode a b c d = some code) :
    Spells ['\\', 'u', a, b, c, d] [code] := by
  intro rest
  show scanCodes ('\\' :: 'u' :: a :: b :: c :: d :: rest) = _
  rw [scanCodes, h]
  rfl

theorem scanString_of_spells {text : List Char} (h : Spells body codes)
    (hjoin : joinSurrogates codes = some text) (rest : List Char) :
    scanString (body ++ '"' :: rest) = some (String.ofList text, rest) := by
  unfold scanString
  rw [h]
  simp [scanCodes, hjoin]

theorem reads_string {text : String} (h : Spells body codes)
    (hjoin : joinSurrogates codes = some text.toList) :
    Reads ('"' :: (body ++ ['"'])) (.str text) := by
  intro fuel rest hfuel _
  obtain ⟨fuel, rfl, -⟩ := exists_fuel hfuel
  have hscan := scanString_of_spells h hjoin rest
  rw [List.cons_append, List.append_assoc, parseValue, if_pos rfl]
  show (scanString (body ++ '"' :: rest)).map _ = _
  rw [hscan, String.ofList_toList]
  rfl

end Strings

theorem reads_null : Reads "null".toList .null := by
  intro fuel rest hfuel _
  obtain ⟨fuel, rfl, -⟩ := exists_fuel hfuel
  rfl

theorem reads_true : Reads "true".toList (.bool true) := by
  intro fuel rest hfuel _
  obtain ⟨fuel, rfl, -⟩ := exists_fuel hfuel
  rfl

theorem reads_false : Reads "false".toList (.bool false) := by
  intro fuel rest hfuel _
  obtain ⟨fuel, rfl, -⟩ := exists_fuel hfuel
  rfl

section Numbers

variable {digits fraction rest : List Char} {sign : Int}

theorem scanDigits_append (hdigits : ∀ c ∈ digits, c.isDigit = true)
    (hrest : ∀ c ∈ rest.head?, c.isDigit = false) :
    scanDigits (digits ++ rest) = (digits, rest) := by
  have hstop : rest.takeWhile Char.isDigit = [] ∧ rest.dropWhile Char.isDigit = rest := by
    cases rest with
    | nil => exact ⟨rfl, rfl⟩
    | cons c rest =>
      have hc : c.isDigit = false := hrest c rfl
      simp [hc]
  unfold scanDigits
  rw [List.takeWhile_append_of_pos hdigits, List.dropWhile_append_of_pos hdigits, hstop.1, hstop.2,
    List.append_nil]

theorem toDigits_isDigit {n : Nat} {c : Char} (h : c ∈ Nat.toDigits 10 n) : c.isDigit = true :=
  Nat.isDigit_of_mem_toDigits (by omega) (by omega) h

theorem toDigits_head {n : Nat} (h : 0 < n) (rest : List Char) :
    Nat.toDigits 10 n ≠ '0' :: rest := by
  induction n using Nat.strongRecOn generalizing rest with
  | _ n ih =>
    by_cases hsmall : n < 10
    · rw [Nat.toDigits_of_lt_base hsmall]
      intro heq
      have hchar := congrArg Char.toNat (List.cons.inj heq).1
      rw [Nat.toNat_digitChar_of_lt_ten hsmall] at hchar
      have hzero : '0'.toNat = 48 := rfl
      omega
    · rw [Nat.toDigits_of_base_le (by omega) (by omega)]
      intro heq
      cases hhead : Nat.toDigits 10 (n / 10) with
      | nil => exact Nat.toDigits_ne_nil hhead
      | cons c front =>
        rw [hhead] at heq
        have hzero : c = '0' := (List.cons.inj heq).1
        subst hzero
        exact ih (n / 10) (by omega) (by omega) front hhead

theorem scanWhole_toDigits (n : Nat) (hrest : ∀ c ∈ rest.head?, c.isDigit = false) :
    scanWhole (Nat.toDigits 10 n ++ rest) = some (Nat.toDigits 10 n, rest) := by
  by_cases hzero : n = 0
  · subst hzero
    rfl
  · have hspan := scanDigits_append (fun c => toDigits_isDigit (n := n)) hrest
    cases hdigits : Nat.toDigits 10 n with
    | nil => exact absurd hdigits Nat.toDigits_ne_nil
    | cons c front =>
      have hhead : c ≠ '0' := by
        intro heq
        exact toDigits_head (by omega) front (heq ▸ hdigits)
      have hdigit : c.isDigit = true := by
        have hmem : c ∈ Nat.toDigits 10 n := by simp [hdigits]
        exact toDigits_isDigit hmem
      rw [hdigits] at hspan
      rw [List.cons_append, scanWhole, if_neg hhead, if_pos hdigit, ← List.cons_append, hspan]

theorem Ends.noDigit (h : Ends rest) : ∀ c ∈ rest.head?, c.isDigit = false :=
  fun c hc => (h c hc).1

theorem scanFraction_of_ends (h : Ends rest) : scanFraction rest = ([], rest) := by
  cases rest with
  | nil => rfl
  | cons c rest =>
    have hdot := (h c rfl).2.1
    rw [scanFraction, if_neg fun hboth => hdot hboth.1]

theorem scanExponent_of_ends (h : Ends rest) : scanExponent rest = (none, rest) := by
  cases rest with
  | nil => rfl
  | cons c rest =>
    obtain ⟨-, -, hlower, hupper⟩ := h c rfl
    rw [scanExponent, if_neg fun hboth => hboth.1.elim hlower hupper]

theorem scanFraction_digits (hne : fraction ≠ []) (hdigits : ∀ c ∈ fraction, c.isDigit = true)
    (h : Ends rest) : scanFraction ('.' :: (fraction ++ rest)) = (fraction, rest) := by
  have hspan := scanDigits_append hdigits h.noDigit
  have htake : (fraction ++ rest).takeWhile Char.isDigit = fraction := congrArg Prod.fst hspan
  rw [scanFraction, if_pos ⟨rfl, by rw [htake]; exact hne⟩, hspan]

theorem scanUnsigned_natural (n : Nat) (h : Ends rest) :
    scanUnsigned sign (Nat.toDigits 10 n ++ rest) = some (.int (sign * n), rest) := by
  unfold scanUnsigned
  rw [scanWhole_toDigits n h.noDigit]
  simp [scanFraction_of_ends h, scanExponent_of_ends h, numberValue]

/-- The exact value of the digits around a decimal point. -/
def decimalValue (sign : Int) (whole : Nat) (fraction : List Char) : Rat :=
  sign * Nat.ofDigitChars 10 (Nat.toDigits 10 whole ++ fraction) 0 * powerOfTen (-fraction.length)

theorem scanUnsigned_decimal (n : Nat) (hne : fraction ≠ [])
    (hdigits : ∀ c ∈ fraction, c.isDigit = true) (h : Ends rest) :
    scanUnsigned sign (Nat.toDigits 10 n ++ '.' :: (fraction ++ rest)) =
      some (.float (decimalValue sign n fraction), rest) := by
  have hdot : ∀ c ∈ ('.' :: (fraction ++ rest)).head?, c.isDigit = false := by
    intro c hc
    have heq : '.' = c := by simpa using hc
    subst heq
    rfl
  unfold scanUnsigned
  rw [scanWhole_toDigits n hdot, Option.map_some, scanFraction_digits hne hdigits h,
    scanExponent_of_ends h]
  simp [numberValue, hne, decimalValue]

theorem parseValue_number {fuel : Nat} {c : Char} (hc : c.isDigit = true ∨ c = '-') :
    parseValue (fuel + 1) (c :: rest) = scanNumber (c :: rest) := by
  have hother : ∀ d : Char, d.isDigit = false → d ≠ '-' → d ≠ c := by
    intro d hdigit hminus heq
    subst heq
    rcases hc with hc | hc
    · rw [hdigit] at hc
      cases hc
    · exact hminus hc
  have hconstant : scanConstant (c :: rest) = none := by
    have hn := hother 'n' rfl (by decide)
    have ht := hother 't' rfl (by decide)
    have hf := hother 'f' rfl (by decide)
    simp [scanConstant, List.isPrefixOf, hn, ht, hf]
  rw [parseValue, if_neg (hother '"' rfl (by decide)).symm,
    if_neg (hother '\x7b' rfl (by decide)).symm, if_neg (hother '[' rfl (by decide)).symm,
    hconstant, Option.none_or]

theorem parseValue_minus {fuel : Nat} :
    parseValue (fuel + 1) ('-' :: rest) = scanUnsigned (-1) rest := by
  rw [parseValue_number (Or.inr rfl), scanNumber, if_pos rfl]

theorem parseValue_digits {fuel n : Nat} :
    parseValue (fuel + 1) (Nat.toDigits 10 n ++ rest) =
      scanUnsigned 1 (Nat.toDigits 10 n ++ rest) := by
  cases hdigits : Nat.toDigits 10 n with
  | nil => exact absurd hdigits Nat.toDigits_ne_nil
  | cons c front =>
    have hdigit : c.isDigit = true := by
      have hmem : c ∈ Nat.toDigits 10 n := by simp [hdigits]
      exact toDigits_isDigit hmem
    have hminus : c ≠ '-' := by
      intro heq
      rw [heq] at hdigit
      cases hdigit
    rw [List.cons_append, parseValue_number (Or.inl hdigit), scanNumber, if_neg hminus]

theorem exists_fuel_of_ne_nil {text : List Char} {fuel : Nat} (hne : text ≠ [])
    (h : 3 * text.length ≤ fuel) : ∃ n, fuel = n + 1 := by
  have hpos := List.length_pos_iff.mpr hne
  exact ⟨fuel - 1, by omega⟩

theorem reads_natural (n : Nat) : Reads (Nat.toDigits 10 n) (.int n) := by
  intro fuel rest hfuel hrest
  obtain ⟨fuel, rfl⟩ := exists_fuel_of_ne_nil Nat.toDigits_ne_nil hfuel
  rw [parseValue_digits, scanUnsigned_natural n hrest, Int.one_mul]

theorem reads_negative (n : Nat) : Reads ('-' :: Nat.toDigits 10 n) (.int (-n)) := by
  intro fuel rest hfuel hrest
  obtain ⟨fuel, rfl, -⟩ := exists_fuel hfuel
  rw [List.cons_append, parseValue_minus, scanUnsigned_natural n hrest]
  congr 3
  omega

theorem reads_decimal (n : Nat) (hne : fraction ≠ [])
    (hdigits : ∀ c ∈ fraction, c.isDigit = true) :
    Reads (Nat.toDigits 10 n ++ '.' :: fraction) (.float (decimalValue 1 n fraction)) := by
  intro fuel rest hfuel hrest
  obtain ⟨fuel, rfl⟩ := exists_fuel_of_ne_nil (by simp) hfuel
  rw [List.append_assoc, List.cons_append, parseValue_digits,
    scanUnsigned_decimal n hne hdigits hrest]

theorem reads_negative_decimal (n : Nat) (hne : fraction ≠ [])
    (hdigits : ∀ c ∈ fraction, c.isDigit = true) :
    Reads ('-' :: (Nat.toDigits 10 n ++ '.' :: fraction))
      (.float (decimalValue (-1) n fraction)) := by
  intro fuel rest hfuel hrest
  obtain ⟨fuel, rfl, -⟩ := exists_fuel hfuel
  rw [List.cons_append, List.append_assoc, List.cons_append, parseValue_minus,
    scanUnsigned_decimal n hne hdigits hrest]

end Numbers

section Containers

variable {text : List Char} {texts : List (List Char)} {value : JsonValue} {values : List JsonValue}
  {members : List (String × JsonValue)}

theorem parseValue_blank {c : Char} (fuel : Nat) (rest : List Char)
    (h : isBlank c = true ∨ c = ']') : parseValue fuel (c :: rest) = none := by
  cases fuel with
  | zero => rfl
  | succ fuel =>
    have hcases : c = ' ' ∨ c = '\t' ∨ c = '\n' ∨ c = '\r' ∨ c = ']' := by
      simpa [isBlank, or_assoc] using h
    rcases hcases with rfl | rfl | rfl | rfl | rfl
    · rfl
    · rfl
    · rfl
    · rfl
    · rfl

theorem Reads.head (h : Reads text value) :
    ∃ c front, text = c :: front ∧ isBlank c = false ∧ c ≠ ']' := by
  have hparse := h (3 * text.length + 1) [] (by omega) ends_nil
  rw [List.append_nil] at hparse
  cases text with
  | nil => cases hparse
  | cons c front =>
    refine ⟨c, front, rfl, ?_, ?_⟩
    · cases hblank : isBlank c with
      | false => rfl
      | true =>
        rw [parseValue_blank _ front (Or.inl hblank)] at hparse
        cases hparse
    · intro hclose
      rw [parseValue_blank _ front (Or.inr hclose)] at hparse
      cases hparse

theorem skipBlanks_cons {c : Char} (rest : List Char) (h : isBlank c = false) :
    skipBlanks (c :: rest) = c :: rest := by
  unfold skipBlanks
  rw [List.dropWhile_cons_of_neg (by simp [h])]

theorem Reads.skipBlanks (h : Reads text value) (rest : List Char) :
    JsonText.skipBlanks (text ++ rest) = text ++ rest := by
  obtain ⟨c, front, rfl, hblank, -⟩ := h.head
  exact skipBlanks_cons _ hblank

theorem ends_delimiter {c : Char} (rest : List Char) (h : c = ',' ∨ c = ']' ∨ c = '\x7d') :
    Ends (c :: rest) := by
  rcases h with rfl | rfl | rfl
  · exact ends_cons rfl (by decide) (by decide) (by decide)
  · exact ends_cons rfl (by decide) (by decide) (by decide)
  · exact ends_cons rfl (by decide) (by decide) (by decide)

/-- The joined items start as the first one does. -/
theorem intercalate_append (text : List Char) (texts : List (List Char)) (rest : List Char) :
    ∃ behind, [','].intercalate (text :: texts) ++ rest = text ++ behind := by
  cases texts with
  | nil => exact ⟨rest, by rw [List.intercalate_singleton]⟩
  | cons next texts =>
    refine ⟨[','] ++ [','].intercalate (next :: texts) ++ rest, ?_⟩
    rw [List.intercalate_cons_cons]
    simp only [List.append_assoc]

theorem parseItems_reads (h : List.Forall₂ Reads texts values) (hne : texts ≠ []) :
    ∀ fuel rest, 3 * ([','].intercalate texts).length + 1 ≤ fuel →
      parseItems fuel ([','].intercalate texts ++ ']' :: rest) = some (values, rest) := by
  induction h with
  | nil => exact absurd rfl hne
  | cons hvalue htail ih =>
    rename_i text value texts values
    intro fuel rest hfuel
    obtain ⟨fuel, rfl⟩ : ∃ n, fuel = n + 1 := ⟨fuel - 1, by omega⟩
    cases htail with
    | nil =>
      rw [List.intercalate_singleton] at hfuel ⊢
      have hparse := hvalue fuel (']' :: rest) (by omega) (ends_delimiter rest (by simp))
      rw [parseItems, hparse]
      rfl
    | cons hnext htail =>
      rename_i next value' texts values
      rw [List.intercalate_cons_cons] at hfuel ⊢
      have hlength : (text ++ [','] ++ [','].intercalate (next :: texts)).length =
          text.length + 1 + ([','].intercalate (next :: texts)).length := by
        simp only [List.length_append, List.length_cons, List.length_nil]
      rw [hlength] at hfuel
      have hparse := hvalue fuel (',' :: ([','].intercalate (next :: texts) ++ ']' :: rest))
        (by omega) (ends_delimiter _ (by simp))
      have hitems := ih (by simp) fuel rest (by omega)
      obtain ⟨behind, hbehind⟩ := intercalate_append next texts (']' :: rest)
      have hskip : JsonText.skipBlanks ([','].intercalate (next :: texts) ++ ']' :: rest) =
          [','].intercalate (next :: texts) ++ ']' :: rest := by
        rw [hbehind]
        exact hnext.skipBlanks behind
      have hassoc : text ++ [','] ++ [','].intercalate (next :: texts) ++ ']' :: rest =
          text ++ ',' :: ([','].intercalate (next :: texts) ++ ']' :: rest) := by
        simp only [List.append_assoc, List.cons_append, List.nil_append]
      rw [hassoc, parseItems, hparse]
      show Option.map _ (parseItems fuel (JsonText.skipBlanks _)) = _
      rw [hskip, hitems]
      rfl

theorem reads_array (h : List.Forall₂ Reads texts values) :
    Reads ('[' :: ([','].intercalate texts ++ [']'])) (.arr values) := by
  intro fuel rest hfuel _
  have hlength : ('[' :: ([','].intercalate texts ++ [']'])).length =
      ([','].intercalate texts).length + 2 := by simp
  rw [hlength] at hfuel
  obtain ⟨fuel, rfl⟩ : ∃ n, fuel = n + 2 := ⟨fuel - 2, by omega⟩
  rw [List.cons_append, List.append_assoc]
  show parseArray (fuel + 1) (JsonText.skipBlanks (_ ++ ']' :: rest)) = _
  cases h with
  | nil => rfl
  | cons hvalue htail =>
    rename_i text value texts values
    have hitems := parseItems_reads (List.Forall₂.cons hvalue htail) (by simp) fuel rest (by omega)
    obtain ⟨behind, hbehind⟩ := intercalate_append text texts (']' :: rest)
    obtain ⟨c, front, rfl, -, hclose⟩ := hvalue.head
    rw [hbehind] at hitems ⊢
    rw [hvalue.skipBlanks behind, List.cons_append, parseArray, if_neg hclose, ← List.cons_append,
      hitems]
    rfl

/-- The text is read as a key with its value. -/
def ReadsMember (text : List Char) (member : String × JsonValue) : Prop :=
  ∃ body codes valueText, text = '"' :: (body ++ '"' :: ':' :: valueText) ∧ Spells body codes ∧
    joinSurrogates codes = some member.1.toList ∧ Reads valueText member.2

/-- What is read behind a member. -/
def membersBehind (fuel : Nat) (member : String × JsonValue) (behind : List Char) :
    Option (List (String × JsonValue) × List Char) :=
  match JsonText.skipBlanks behind with
  | [] => none
  | c :: rest =>
    if c = '\x7d' then some ([member], rest)
    else if c = ',' then (parseMembers fuel (JsonText.skipBlanks rest)).map
      fun found => (member :: found.1, found.2)
    else none

theorem parseMembers_reads (h : List.Forall₂ ReadsMember texts members) (hne : texts ≠ []) :
    ∀ fuel rest, 3 * ([','].intercalate texts).length + 1 ≤ fuel →
      parseMembers fuel ([','].intercalate texts ++ '\x7d' :: rest) = some (members, rest) := by
  induction h with
  | nil => exact absurd rfl hne
  | cons hmember htail ih =>
    rename_i text member texts members
    obtain ⟨key, value⟩ := member
    obtain ⟨body, codes, valueText, rfl, hspells, hjoin, hvalue⟩ := hmember
    intro fuel rest hfuel
    obtain ⟨fuel, rfl⟩ : ∃ n, fuel = n + 1 := ⟨fuel - 1, by omega⟩
    -- what the member's text is read as, whatever delimiter stands behind it
    have hread : ∀ behind, 3 * valueText.length ≤ fuel → Ends behind →
        parseMembers (fuel + 1) ('"' :: (body ++ '"' :: ':' :: (valueText ++ behind))) =
          membersBehind fuel (key, value) behind := by
      intro behind hshort hends
      have hscan := scanString_of_spells hspells hjoin (':' :: (valueText ++ behind))
      have hparse := hvalue fuel behind hshort hends
      rw [parseMembers, if_pos rfl, hscan]
      show (parseValue fuel (JsonText.skipBlanks (valueText ++ behind))).bind _ = _
      rw [hvalue.skipBlanks, hparse, String.ofList_toList]
      rfl
    cases htail with
    | nil =>
      rw [List.intercalate_singleton] at hfuel ⊢
      simp only [List.length_cons, List.length_append] at hfuel
      simp only [List.cons_append, List.append_assoc]
      rw [hread ('\x7d' :: rest) (by omega) (ends_delimiter rest (by simp))]
      rfl
    | cons hnext htail =>
      rename_i next member' texts members
      rw [List.intercalate_cons_cons] at hfuel ⊢
      simp only [List.length_cons, List.length_append, List.length_nil] at hfuel
      have hitems := ih (by simp) fuel rest (by omega)
      obtain ⟨behind, hbehind⟩ := intercalate_append next texts ('\x7d' :: rest)
      have hskip : JsonText.skipBlanks ([','].intercalate (next :: texts) ++ '\x7d' :: rest) =
          [','].intercalate (next :: texts) ++ '\x7d' :: rest := by
        obtain ⟨body', codes', valueText', rfl, -⟩ := hnext
        rw [hbehind]
        exact skipBlanks_cons _ rfl
      simp only [List.cons_append, List.append_assoc, List.nil_append]
      rw [hread (',' :: ([','].intercalate (next :: texts) ++ '\x7d' :: rest)) (by omega)
        (ends_delimiter _ (by simp))]
      show Option.map _ (parseMembers fuel (JsonText.skipBlanks _)) = _
      rw [hskip, hitems]
      rfl

theorem collect_append (front members : List (String × JsonValue))
    (h : ((front ++ members).map Prod.fst).Nodup) (hfront : (front.map Prod.fst).Nodup) :
    (members.foldl (fun (d : OrderedDict String JsonValue) member => d.set member.1 member.2)
      ⟨front, hfront⟩).entries = front ++ members := by
  induction members generalizing front with
  | nil => simp
  | cons member rest ih =>
    obtain ⟨key, value⟩ := member
    have hsplit : front ++ (key, value) :: rest = (front ++ [(key, value)]) ++ rest := by simp
    rw [hsplit] at h ⊢
    have hnew : key ∉ front.map Prod.fst := by
      have hnodup := h
      rw [List.map_append, List.map_append] at hnodup
      have hleft := (List.nodup_append.mp hnodup).1
      intro hmem
      exact (List.nodup_append.mp hleft).2.2 key hmem key (by simp) rfl
    have hnext : ((front ++ [(key, value)]).map Prod.fst).Nodup := by
      rw [List.map_append] at h
      exact (List.nodup_append.mp h).1
    have hset : OrderedDict.set ⟨front, hfront⟩ key value =
        (⟨front ++ [(key, value)], hnext⟩ : OrderedDict String JsonValue) := by
      unfold OrderedDict.set
      simp only [if_neg hnew]
    rw [List.foldl_cons, hset]
    exact ih _ h hnext

theorem collect_of_nodup (h : (members.map Prod.fst).Nodup) : collect members = members :=
  collect_append [] members h List.nodup_nil

theorem reads_object (h : List.Forall₂ ReadsMember texts members)
    (hkeys : (members.map Prod.fst).Nodup) :
    Reads ('\x7b' :: ([','].intercalate texts ++ ['\x7d'])) (.obj members) := by
  intro fuel rest hfuel _
  have hlength : ('\x7b' :: ([','].intercalate texts ++ ['\x7d'])).length =
      ([','].intercalate texts).length + 2 := by simp
  rw [hlength] at hfuel
  obtain ⟨fuel, rfl⟩ : ∃ n, fuel = n + 2 := ⟨fuel - 2, by omega⟩
  rw [List.cons_append, List.append_assoc]
  show parseObject (fuel + 1) (JsonText.skipBlanks (_ ++ '\x7d' :: rest)) = _
  cases h with
  | nil => rfl
  | cons hmember htail =>
    rename_i text member texts members
    have hmembers := parseMembers_reads (List.Forall₂.cons hmember htail) (by simp) fuel rest
      (by omega)
    obtain ⟨behind, hbehind⟩ := intercalate_append text texts ('\x7d' :: rest)
    obtain ⟨body, codes, valueText, rfl, -⟩ := hmember
    rw [hbehind] at hmembers ⊢
    rw [List.cons_append] at hmembers ⊢
    rw [skipBlanks_cons _ rfl, parseObject, if_neg (by decide), hmembers, Option.map_some,
      collect_of_nodup hkeys]

end Containers

theorem loads_of_reads {text : List Char} {value : JsonValue} (h : Reads text value) :
    loads text = some value := by
  have hskip := h.skipBlanks []
  have hparse := h (3 * text.length + 1) [] (by omega) ends_nil
  rw [List.append_nil] at hskip hparse
  unfold loads
  rw [hskip, hparse]
  rfl

end JsonText
