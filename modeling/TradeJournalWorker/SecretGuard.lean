import Mathlib.Data.List.Infix
import Mathlib.Data.List.Sort
import Mathlib.Data.String.Basic
import TradeJournalWorker.CursorText
import TradeJournalWorker.EndpointRecords
import TradeJournalWorker.JobRunner
import TradeJournalWorker.JsonValues

namespace TradeJournalWorker

open FaultProgram

/-- The hexadecimal digits of a code unit, four of them. -/
def hexDigits (unit : Nat) : List Char :=
  [unit / 4096, unit / 256 % 16, unit / 16 % 16, unit % 16].map Nat.digitChar

def unicodeEscape (unit : Nat) : List Char := ['\\', 'u'] ++ hexDigits unit

/-- `py_encode_basestring_ascii` of one character. -/
def escapeAscii (c : Char) : List Char :=
  if c = '"' then ['\\', '"']
  else if c = '\\' then ['\\', '\\']
  else if c = '\n' then ['\\', 'n']
  else if c = '\r' then ['\\', 'r']
  else if c = '\t' then ['\\', 't']
  else if c.toNat = 8 then ['\\', 'b']
  else if c.toNat = 12 then ['\\', 'f']
  else if 32 ≤ c.toNat ∧ c.toNat ≤ 126 then [c]
  else if c.toNat < 0x10000 then unicodeEscape c.toNat
  else unicodeEscape (0xD800 + (c.toNat - 0x10000) / 0x400) ++
    unicodeEscape (0xDC00 + (c.toNat - 0x10000) % 0x400)

def dumpText (text : String) : List Char := '"' :: (text.toList.flatMap escapeAscii ++ ['"'])

/-- The parts with commas between them. -/
def commaJoined : List (List Char) → List Char
  | [] => []
  | [part] => part
  | part :: rest => part ++ ',' :: commaJoined rest

/-- `repr` of the numbers that are not whole. -/
structure FloatRepr where
  text : Rat → String
  quoteless : ∀ value, '"' ∉ (text value).toList

/-- `json.dumps(value, sort_keys=True, separators=(",", ":"))`. -/
def dumps (floats : FloatRepr) : JsonValue → List Char
  | .null => "null".toList
  | .bool value => if value then "true".toList else "false".toList
  | .int value => integerToString value
  | .float value => (floats.text value).toList
  | .str text => dumpText text
  | .arr items => '[' :: (commaJoined (itemDumps items) ++ [']'])
  | .obj members =>
    '\x7b' :: (commaJoined (((memberDumps members).insertionSort fun a b => a.1 ≤ b.1).map
      fun member => dumpText member.1 ++ ':' :: member.2) ++ ['\x7d'])
where
  itemDumps : List JsonValue → List (List Char)
    | [] => []
    | item :: rest => dumps floats item :: itemDumps rest
  memberDumps : List (String × JsonValue) → List (String × List Char)
    | [] => []
    | (key, value) :: rest => (key, dumps floats value) :: memberDumps rest

/-- `'"' + marker in encoded.lower()` for one of the markers; the encoding is ASCII. -/
def hasMarker (encoded : List Char) : Bool :=
  secretMarkers.any fun marker => decide (('"' :: marker.toList) <:+: encoded.map Char.toLower)

/-- `atomic_json` up to its first write. -/
def guardSecrets (floats : FloatRepr) (payload : JsonValue) : Except String Unit :=
  if hasMarker (dumps floats payload) then .error "secrets are forbidden in state" else .ok ()

/-- What the guard answers to a write on a disk that does not fail. -/
def guardAnswer {ε : Type} (refusal : ε) (floats : FloatRepr) (payload : JsonValue) :
    WriteAnswer ε :=
  match guardSecrets floats payload with
  | .ok _ => .done
  | .error _ => .failed refusal

/-- The keys of a document, at every depth. -/
def keyTexts : JsonValue → List String
  | .arr items => itemKeys items
  | .obj members => memberKeys members
  | _ => []
where
  itemKeys : List JsonValue → List String
    | [] => []
    | item :: rest => keyTexts item ++ itemKeys rest
  memberKeys : List (String × JsonValue) → List String
    | [] => []
    | (key, value) :: rest => key :: (keyTexts value ++ memberKeys rest)

/-- The texts among the values of a document, at every depth. -/
def valueTexts : JsonValue → List String
  | .str text => [text]
  | .arr items => itemValues items
  | .obj members => memberValues members
  | _ => []
where
  itemValues : List JsonValue → List String
    | [] => []
    | item :: rest => valueTexts item ++ itemValues rest
  memberValues : List (String × JsonValue) → List String
    | [] => []
    | (_, value) :: rest => valueTexts value ++ memberValues rest

section Scanning

/-- A marker begins here. -/
def Opens (rest : List Char) : Prop :=
  ∃ marker ∈ secretMarkers, marker.toList <+: rest.map Char.toLower

/-- A letter that markers are made of. -/
def IsLetter (c : Char) : Prop := 97 ≤ c.toNat ∧ c.toNat ≤ 122

theorem markers_letters {marker : String} (h : marker ∈ secretMarkers) :
    ∀ c ∈ marker.toList, IsLetter c := by
  have hall : (marker.toList.all fun c => decide (97 ≤ c.toNat ∧ c.toNat ≤ 122)) = true := by
    unfold secretMarkers at h
    simp only [List.mem_cons, List.not_mem_nil, or_false] at h
    rcases h with rfl | rfl | rfl | rfl
    all_goals decide
  intro c hc
  unfold IsLetter
  exact of_decide_eq_true (List.all_eq_true.mp hall c hc)

theorem toLower_eq_quote {c : Char} : c.toLower = '"' ↔ c = '"' := by
  constructor
  · intro h
    obtain hsame | ⟨hlow, hhigh, hmoved⟩ := toLower_cases c
    · rw [← hsame]
      exact h
    · rw [h] at hmoved
      have hquote : ('"' : Char).toNat = 34 := by decide
      omega
  · rintro rfl
    decide

theorem hasMarker_cons (c : Char) (rest : List Char) :
    hasMarker (c :: rest) = true ↔ (c = '"' ∧ Opens rest) ∨ hasMarker rest = true := by
  unfold hasMarker Opens
  simp only [List.any_eq_true, decide_eq_true_eq, List.map_cons, List.infix_cons_iff,
    List.cons_prefix_cons]
  constructor
  · rintro ⟨marker, hmarker, ⟨hquote, hprefix⟩ | hinfix⟩
    · exact Or.inl ⟨toLower_eq_quote.mp hquote.symm, marker, hmarker, hprefix⟩
    · exact Or.inr ⟨marker, hmarker, hinfix⟩
  · rintro (⟨rfl, marker, hmarker, hprefix⟩ | ⟨marker, hmarker, hinfix⟩)
    · exact ⟨marker, hmarker, Or.inl ⟨by decide, hprefix⟩⟩
    · exact ⟨marker, hmarker, Or.inr hinfix⟩

theorem hasMarker_nil : hasMarker [] = false := by decide

theorem hasMarker_cons_of_ne {c : Char} (hc : c ≠ '"') (rest : List Char) :
    hasMarker (c :: rest) = hasMarker rest := by
  have hiff := hasMarker_cons c rest
  rw [Bool.eq_iff_iff, hiff]
  simp [hc]

theorem hasMarker_quoteless {front : List Char} (h : '"' ∉ front) (rest : List Char) :
    hasMarker (front ++ rest) = hasMarker rest := by
  induction front with
  | nil => rfl
  | cons c front ih =>
    have hc : c ≠ '"' := fun heq => h (heq ▸ List.mem_cons_self)
    rw [List.cons_append, hasMarker_cons_of_ne hc]
    exact ih fun hmem => h (List.mem_cons_of_mem _ hmem)

/-- A text of letters stops before a character that is none. -/
theorem prefix_append_iff {letters front rest : List Char} {c : Char}
    (hletters : ∀ letter ∈ letters, IsLetter letter) (hc : ¬ IsLetter c.toLower) :
    letters <+: (front ++ c :: rest).map Char.toLower ↔ letters <+: front.map Char.toLower := by
  induction front generalizing letters with
  | nil =>
    cases letters with
    | nil => simp
    | cons letter letters =>
      have hne : letter ≠ c.toLower := by
        rintro rfl
        exact hc (hletters _ List.mem_cons_self)
      simp [hne]
  | cons d front ih =>
    cases letters with
    | nil => simp
    | cons letter letters =>
      simp only [List.cons_append, List.map_cons, List.cons_prefix_cons]
      rw [ih fun other hother => hletters other (List.mem_cons_of_mem _ hother)]

theorem opens_append_iff {front rest : List Char} {c : Char} (hc : ¬ IsLetter c.toLower) :
    Opens (front ++ c :: rest) ↔ Opens front := by
  unfold Opens
  constructor
  · rintro ⟨marker, hmarker, hprefix⟩
    exact ⟨marker, hmarker, (prefix_append_iff (markers_letters hmarker) hc).mp hprefix⟩
  · rintro ⟨marker, hmarker, hprefix⟩
    exact ⟨marker, hmarker, (prefix_append_iff (markers_letters hmarker) hc).mpr hprefix⟩

/-- No marker goes across a character that is no letter. -/
theorem hasMarker_append_iff (front : List Char) {c : Char} (rest : List Char)
    (hc : ¬ IsLetter c.toLower) :
    hasMarker (front ++ c :: rest) = (hasMarker front || hasMarker (c :: rest)) := by
  induction front with
  | nil => simp [hasMarker_nil]
  | cons d front ih =>
    rw [List.cons_append, Bool.eq_iff_iff, hasMarker_cons d, opens_append_iff hc, ih,
      Bool.or_eq_true, Bool.or_eq_true, hasMarker_cons d, or_assoc]

end Scanning

section Escapes

theorem digitChar_ne_quote (n : Nat) : Nat.digitChar n ≠ '"' :=
  Nat.digitChar_ne '"' (by decide)

theorem quoteless_unicodeEscape (unit : Nat) : '"' ∉ unicodeEscape unit := by
  unfold unicodeEscape hexDigits
  simp only [List.map_cons, List.map_nil, List.mem_append, List.mem_cons, List.not_mem_nil,
    or_false, not_or]
  have hdigit := fun n => (digitChar_ne_quote n).symm
  exact ⟨⟨by decide, by decide⟩, hdigit _, hdigit _, hdigit _, hdigit _⟩

theorem not_letter_of_range {c : Char} (h : c.toNat < 65 ∨ 90 < c.toNat ∧ c.toNat < 97 ∨
    122 < c.toNat) : ¬ IsLetter c.toLower := by
  unfold IsLetter
  obtain hsame | ⟨hlow, hhigh, hmoved⟩ := toLower_cases c
  · rw [hsame]
    omega
  · omega

/-- A character other than a quote stands for itself, or its escape begins with a backslash and
has no quote. -/
theorem escapeAscii_cases {c : Char} (hquote : c ≠ '"') :
    escapeAscii c = [c] ∨ (¬ IsLetter c.toLower ∧ '"' ∉ escapeAscii c ∧
      ∃ tail, escapeAscii c = '\\' :: tail) := by
  unfold escapeAscii
  rw [if_neg hquote]
  split_ifs with hback hline hreturn htab hbell hfeed hplain hsmall
  · subst hback
    exact Or.inr ⟨not_letter_of_range (by decide), by decide, _, rfl⟩
  · subst hline
    exact Or.inr ⟨not_letter_of_range (by decide), by decide, _, rfl⟩
  · subst hreturn
    exact Or.inr ⟨not_letter_of_range (by decide), by decide, _, rfl⟩
  · subst htab
    exact Or.inr ⟨not_letter_of_range (by decide), by decide, _, rfl⟩
  · exact Or.inr ⟨not_letter_of_range (by omega), by decide, _, rfl⟩
  · exact Or.inr ⟨not_letter_of_range (by omega), by decide, _, rfl⟩
  · exact Or.inl rfl
  · exact Or.inr ⟨not_letter_of_range (by omega), quoteless_unicodeEscape _, _, rfl⟩
  · refine Or.inr ⟨not_letter_of_range (by omega), ?_, _, rfl⟩
    intro hmem
    rcases List.mem_append.mp hmem with hmem | hmem
    · exact quoteless_unicodeEscape _ hmem
    · exact quoteless_unicodeEscape _ hmem

theorem escapeAscii_quote : escapeAscii '"' = ['\\', '"'] := rfl

theorem prefix_escape_iff {letters text : List Char}
    (hletters : ∀ letter ∈ letters, IsLetter letter) :
    letters <+: (text.flatMap escapeAscii).map Char.toLower ↔
      letters <+: text.map Char.toLower := by
  induction text generalizing letters with
  | nil => rfl
  | cons c text ih =>
    cases letters with
    | nil => simp
    | cons letter letters =>
      have hstart : IsLetter letter := hletters letter List.mem_cons_self
      have hback : letter ≠ '\\'.toLower := by
        rintro rfl
        exact not_letter_of_range (by decide) hstart
      have hself : ¬ IsLetter c.toLower → letter ≠ c.toLower := by
        rintro hc rfl
        exact hc hstart
      have hrest := ih fun other hother => hletters other (List.mem_cons_of_mem _ hother)
      by_cases hquote : c = '"'
      · subst hquote
        have hne := hself (not_letter_of_range (by decide))
        simp only [List.flatMap_cons, escapeAscii_quote, List.cons_append, List.map_cons,
          List.cons_prefix_cons, hback, hne, false_and]
      · rcases escapeAscii_cases hquote with hplain | ⟨hc, -, tail, htail⟩
        · simp only [List.flatMap_cons, hplain, List.singleton_append, List.map_cons,
            List.cons_prefix_cons, hrest]
        · simp only [List.flatMap_cons, htail, List.cons_append, List.map_cons,
            List.cons_prefix_cons, hback, hself hc, false_and]

theorem opens_escape_iff {text : List Char} : Opens (text.flatMap escapeAscii) ↔ Opens text := by
  unfold Opens
  constructor
  · rintro ⟨marker, hmarker, hprefix⟩
    exact ⟨marker, hmarker, (prefix_escape_iff (markers_letters hmarker)).mp hprefix⟩
  · rintro ⟨marker, hmarker, hprefix⟩
    exact ⟨marker, hmarker, (prefix_escape_iff (markers_letters hmarker)).mpr hprefix⟩

theorem hasMarker_escape (text : List Char) :
    hasMarker (text.flatMap escapeAscii) = hasMarker text := by
  induction text with
  | nil => rfl
  | cons c text ih =>
    by_cases hquote : c = '"'
    · subst hquote
      rw [List.flatMap_cons, escapeAscii_quote]
      show hasMarker ('\\' :: '"' :: text.flatMap escapeAscii) = hasMarker ('"' :: text)
      rw [hasMarker_cons_of_ne (by decide), Bool.eq_iff_iff, hasMarker_cons, hasMarker_cons,
        opens_escape_iff, ih]
    · have hskip : '"' ∉ escapeAscii c := by
        rcases escapeAscii_cases hquote with hplain | ⟨-, hnone, -⟩
        · rw [hplain]
          simpa using Ne.symm hquote
        · exact hnone
      rw [List.flatMap_cons, hasMarker_quoteless hskip, hasMarker_cons_of_ne hquote, ih]

theorem startsSecret_eq (text : String) : startsSecret text = hasMarker ('"' :: text.toList) := by
  unfold startsSecret hasMarker
  apply congrArg
  funext marker
  rw [Bool.eq_iff_iff, List.any_eq_true, decide_eq_true_eq, List.infix_iff_prefix_suffix]
  simp only [List.mem_tails, List.isPrefixOf_iff_prefix, and_comm]

/-- The guard sees in an encoded text what it would see in the characters themselves. -/
theorem hasMarker_dumpText (text : String) : hasMarker (dumpText text) = startsSecret text := by
  have hclosing : hasMarker ['"'] = false := by decide
  have hend : ¬ IsLetter ('"' : Char).toLower := not_letter_of_range (by decide)
  rw [startsSecret_eq, Bool.eq_iff_iff]
  unfold dumpText
  rw [hasMarker_cons, hasMarker_cons, opens_append_iff hend, opens_escape_iff,
    hasMarker_append_iff _ _ hend, hasMarker_escape, hclosing, Bool.or_false]

/-- No letter, or one of `a` to `f` in lower case. -/
def IsIdentifier (c : Char) : Prop := c.toNat < 65 ∨ 97 ≤ c.toNat ∧ c.toNat ≤ 102

theorem marker_not_identifier {marker : String} (h : marker ∈ secretMarkers) :
    ∃ c ∈ marker.toList, 103 ≤ c.toNat := by
  have hany : (marker.toList.any fun c => decide (103 ≤ c.toNat)) = true := by
    unfold secretMarkers at h
    simp only [List.mem_cons, List.not_mem_nil, or_false] at h
    rcases h with rfl | rfl | rfl | rfl
    all_goals decide
  obtain ⟨c, hc, hlarge⟩ := List.any_eq_true.mp hany
  exact ⟨c, hc, of_decide_eq_true hlarge⟩

theorem startsSecret_of_identifier {text : String} (h : ∀ c ∈ text.toList, IsIdentifier c) :
    startsSecret text = false := by
  rw [startsSecret_eq, Bool.eq_false_iff]
  intro hmarked
  unfold hasMarker at hmarked
  obtain ⟨marker, hmarker, hinfix⟩ := List.any_eq_true.mp hmarked
  rw [decide_eq_true_eq] at hinfix
  obtain ⟨letter, hletter, hlarge⟩ := marker_not_identifier hmarker
  have hmem := hinfix.subset (List.mem_cons_of_mem _ hletter)
  obtain ⟨c, hc, hlower⟩ := List.mem_map.mp hmem
  have hsmall : c.toLower.toNat < 103 := by
    rcases List.mem_cons.mp hc with rfl | hc
    · decide
    · have hidentifier := h c hc
      unfold IsIdentifier at hidentifier
      rcases toLower_cases c with hsame | ⟨hlow, hhigh, hmoved⟩
      · rw [hsame]
        omega
      · omega
  rw [hlower] at hsmall
  omega

end Escapes

section Documents

variable {floats : FloatRepr}

theorem hasMarker_symbol {c : Char} (hc : ¬ IsLetter c.toLower) (hquote : c ≠ '"')
    (front rest : List Char) :
    hasMarker (front ++ c :: rest) = (hasMarker front || hasMarker rest) := by
  rw [hasMarker_append_iff _ _ hc, hasMarker_cons_of_ne hquote]

theorem hasMarker_commaJoined (parts : List (List Char)) :
    hasMarker (commaJoined parts) = parts.any hasMarker := by
  induction parts with
  | nil => rfl
  | cons part rest ih =>
    cases rest with
    | nil =>
      unfold commaJoined
      simp
    | cons next rest =>
      unfold commaJoined
      rw [hasMarker_symbol (not_letter_of_range (by decide)) (by decide), ih]
      rfl

theorem hasMarker_integerToString (value : Int) : hasMarker (integerToString value) = false := by
  simpa [hasMarker_nil] using hasMarker_quoteless (quote_notMem_integerToString value) []

theorem hasMarker_float (value : Rat) : hasMarker (floats.text value).toList = false := by
  simpa [hasMarker_nil] using hasMarker_quoteless (floats.quoteless value) []

theorem hasMarker_brackets {first last : Char} (hfirst : first ≠ '"') (hlast : last ≠ '"')
    (hletter : ¬ IsLetter last.toLower) (body : List Char) :
    hasMarker (first :: (body ++ [last])) = hasMarker body := by
  rw [hasMarker_cons_of_ne hfirst, hasMarker_symbol hletter hlast, hasMarker_nil, Bool.or_false]

theorem hasMarker_member (key : String) (encoded : List Char) :
    hasMarker (dumpText key ++ ':' :: encoded) = (startsSecret key || hasMarker encoded) := by
  rw [hasMarker_symbol (not_letter_of_range (by decide)) (by decide), hasMarker_dumpText]

/-- The texts of a document, keys and values. -/
def textsOf (payload : JsonValue) : List String := keyTexts payload ++ valueTexts payload

theorem hasMarker_members (members : List (String × List Char)) :
    hasMarker (commaJoined ((members.insertionSort fun a b => a.1 ≤ b.1).map
      fun member => dumpText member.1 ++ ':' :: member.2)) =
        members.any fun member => startsSecret member.1 || hasMarker member.2 := by
  rw [hasMarker_commaJoined, List.any_map]
  have hsorted := List.perm_insertionSort (fun a b : String × List Char => a.1 ≤ b.1) members
  rw [hsorted.any_eq]
  apply congrArg
  funext member
  exact hasMarker_member member.1 member.2

mutual

/-- The guard looks at the texts of a document one by one. -/
theorem hasMarker_dumps : ∀ payload : JsonValue,
    hasMarker (dumps floats payload) = (textsOf payload).any startsSecret
  | .null => by
    unfold dumps
    decide
  | .bool value => by
    unfold dumps
    cases value
    · decide
    · decide
  | .int value => by
    unfold dumps
    rw [hasMarker_integerToString]
    rfl
  | .float value => by
    unfold dumps
    rw [hasMarker_float]
    rfl
  | .str text => by
    unfold dumps
    rw [hasMarker_dumpText]
    simp [textsOf, keyTexts, valueTexts]
  | .arr items => by
    unfold dumps
    rw [hasMarker_brackets (by decide) (by decide) (not_letter_of_range (by decide)),
      hasMarker_commaJoined, hasMarker_itemDumps items]
    rfl
  | .obj members => by
    unfold dumps
    rw [hasMarker_brackets (by decide) (by decide) (not_letter_of_range (by decide)),
      hasMarker_members, hasMarker_memberDumps members]
    rfl

theorem hasMarker_itemDumps : ∀ items : List JsonValue,
    (dumps.itemDumps floats items).any hasMarker =
      (keyTexts.itemKeys items ++ valueTexts.itemValues items).any startsSecret
  | [] => rfl
  | item :: rest => by
    have hitem := hasMarker_dumps item
    have hrest := hasMarker_itemDumps rest
    unfold dumps.itemDumps keyTexts.itemKeys valueTexts.itemValues
    unfold textsOf at hitem
    rw [List.any_append] at hitem hrest
    simp only [List.any_cons, List.any_append, hitem, hrest]
    ac_rfl

theorem hasMarker_memberDumps : ∀ members : List (String × JsonValue),
    ((dumps.memberDumps floats members).any fun member =>
      startsSecret member.1 || hasMarker member.2) =
        (keyTexts.memberKeys members ++ valueTexts.memberValues members).any startsSecret
  | [] => rfl
  | (key, value) :: rest => by
    have hvalue := hasMarker_dumps value
    have hrest := hasMarker_memberDumps rest
    unfold dumps.memberDumps keyTexts.memberKeys valueTexts.memberValues
    unfold textsOf at hvalue
    rw [List.any_append] at hvalue hrest
    simp only [List.any_cons, List.any_append, hvalue, hrest]
    ac_rfl

end

/-- No text of the document has a marker at its start or behind a quote. -/
def Unmarked (payload : JsonValue) : Prop := ∀ text ∈ textsOf payload, startsSecret text = false

theorem guardSecrets_ok_iff {payload : JsonValue} :
    guardSecrets floats payload = .ok () ↔ Unmarked payload := by
  unfold guardSecrets Unmarked
  rw [hasMarker_dumps]
  by_cases hmarked : (textsOf payload).any startsSecret = true
  · rw [if_pos hmarked]
    constructor
    · intro h
      cases h
    · intro h
      obtain ⟨text, hmem, htext⟩ := List.any_eq_true.mp hmarked
      rw [h text hmem] at htext
      cases htext
  · rw [if_neg hmarked]
    simpa using hmarked

theorem guardAnswer_ok {ε : Type} {refusal : ε} {payload : JsonValue}
    (h : guardSecrets floats payload = .ok ()) : guardAnswer refusal floats payload = .done := by
  unfold guardAnswer
  rw [h]

theorem guardAnswer_refused {ε : Type} {refusal : ε} {payload : JsonValue}
    (h : guardSecrets floats payload ≠ .ok ()) :
    guardAnswer refusal floats payload = .failed refusal := by
  unfold guardAnswer
  cases hguard : guardSecrets floats payload with
  | ok value => exact absurd hguard h
  | error reason => rfl

/-- The state file of a job as it is written. -/
def LocalJobState.document (state : LocalJobState) : JsonValue :=
  .obj ([("action", .str state.job.action), ("connection_id", .str state.job.connectionId),
    ("job_id", .str state.job.jobId), ("lease_id", .str state.job.leaseId),
    ("status", .str state.status.text)] ++
      state.error.toList.map fun error => ("error", .str error))

/-- The guard of the job runner on its texts is the guard of `atomic_json` on the document. -/
theorem guardSecrets_jobState (state : LocalJobState) :
    guardSecrets floats state.document = .ok () ↔ state.texts.any startsSecret = false := by
  have hkeys : startsSecret "action" = false ∧ startsSecret "connection_id" = false ∧
      startsSecret "job_id" = false ∧ startsSecret "lease_id" = false ∧
      startsSecret "status" = false ∧ startsSecret "error" = false := by
    decide
  rw [guardSecrets_ok_iff]
  unfold Unmarked LocalJobState.document LocalJobState.texts
  cases herror : state.error with
  | none =>
    simp [textsOf, keyTexts, keyTexts.memberKeys, valueTexts, valueTexts.memberValues, hkeys]
  | some error =>
    simp [textsOf, keyTexts, keyTexts.memberKeys, valueTexts, valueTexts.memberValues, hkeys]

end Documents

/-- `repr` of numbers without a fraction. -/
def wholeFloats : FloatRepr where
  text value := String.ofList (integerToString value.num ++ ['.', '0'])
  quoteless value := by
    have hdigits := quote_notMem_integerToString value.num
    simpa using hdigits

end TradeJournalWorker
