import TradeJournalWorker.JsonReading
import TradeJournalWorker.JsonSorting
import TradeJournalWorker.SecretGuard

namespace TradeJournalWorker

open SurrogatePairs JsonText JsonValue

theorem reads_integerToString (n : Int) : Reads (integerToString n) (.int n) := by
  unfold integerToString
  split
  next hneg =>
    have hreads := reads_negative n.natAbs
    rw [show -(n.natAbs : Int) = n by omega] at hreads
    exact hreads
  next hneg =>
    have hreads := reads_natural n.natAbs
    rw [show (n.natAbs : Int) = n by omega] at hreads
    exact hreads

section Escapes

theorem hexValue_digitChar : ∀ digit < 16, hexValue (Nat.digitChar digit) = some digit := by
  decide

/-- The four digits of a code are read as the code. -/
theorem hexCode_hexDigits {code : Nat} (h : code < 0x10000) :
    ∃ a b c d, hexDigits code = [a, b, c, d] ∧ hexCode a b c d = some code := by
  refine ⟨_, _, _, _, rfl, ?_⟩
  unfold hexCode
  rw [hexValue_digitChar (code / 4096) (by omega), hexValue_digitChar (code / 256 % 16) (by omega),
    hexValue_digitChar (code / 16 % 16) (by omega), hexValue_digitChar (code % 16) (by omega)]
  have hsum : ((code / 4096 * 16 + code / 256 % 16) * 16 + code / 16 % 16) * 16 + code % 16 =
      code := by omega
  show some _ = _
  rw [hsum]

theorem spells_unicodeEscape {code : Nat} (h : code < 0x10000) :
    Spells (unicodeEscape code) [code] := by
  obtain ⟨a, b, c, d, hdigits, hcode⟩ := hexCode_hexDigits h
  unfold unicodeEscape
  rw [hdigits]
  exact spells_hex hcode

/-- What is written for a character is read as its codes. -/
theorem escapeAscii_spells (c : Char) :
    ∃ codes, Spells (escapeAscii c) codes ∧ Joined codes [c] := by
  have hplain : ∀ {body : List Char} {code : Nat}, Spells body [code] → c.toNat = code →
      ∃ codes, Spells body codes ∧ Joined codes [c] := by
    intro body code hspells hcode
    subst hcode
    exact ⟨_, hspells, Joined.plain c Joined.nil⟩
  have hvalid := toNat_valid c
  unfold Nat.isValidChar at hvalid
  unfold escapeAscii
  split
  next heq => exact hplain (spells_escape rfl) (congrArg Char.toNat heq)
  next hquote =>
    split
    next heq => exact hplain (spells_escape rfl) (congrArg Char.toNat heq)
    next hslash =>
      split
      next heq => exact hplain (spells_escape rfl) (congrArg Char.toNat heq)
      next =>
        split
        next heq => exact hplain (spells_escape rfl) (congrArg Char.toNat heq)
        next =>
          split
          next heq => exact hplain (spells_escape rfl) (congrArg Char.toNat heq)
          next =>
            split
            next heq => exact hplain (spells_escape rfl) heq
            next =>
              split
              next heq => exact hplain (spells_escape rfl) heq
              next =>
                split
                next hrange => exact hplain (spells_raw hrange.1 hquote hslash) rfl
                next =>
                  split
                  next hsmall => exact hplain (spells_unicodeEscape hsmall) rfl
                  next hlarge =>
                    refine ⟨_, (spells_unicodeEscape ?_).append (spells_unicodeEscape ?_), ?_⟩
                    · omega
                    · omega
                    · have hjoined := joined_splitChar c
                      unfold splitChar at hjoined
                      rw [if_neg hlarge] at hjoined
                      exact hjoined

theorem escapedText_spells (text : List Char) :
    ∃ codes, Spells (text.flatMap escapeAscii) codes ∧ Joined codes text := by
  induction text with
  | nil => exact ⟨[], spells_nil, Joined.nil⟩
  | cons c text ih =>
    obtain ⟨codes, hspells, hjoined⟩ := escapeAscii_spells c
    obtain ⟨codes', hspells', hjoined'⟩ := ih
    exact ⟨codes ++ codes', hspells.append hspells', hjoined.append hjoined'⟩

theorem reads_dumpText (text : String) : Reads (dumpText text) (.str text) := by
  obtain ⟨codes, hspells, hjoined⟩ := escapedText_spells text.toList
  exact reads_string hspells (joinSurrogates_of_joined hjoined)

theorem readsMember_dumpText (key : String) {valueText : List Char} {value : JsonValue}
    (h : Reads valueText value) :
    ReadsMember (dumpText key ++ ':' :: valueText) (key, value) := by
  obtain ⟨codes, hspells, hjoined⟩ := escapedText_spells key.toList
  refine ⟨_, codes, valueText, ?_, hspells, joinSurrogates_of_joined hjoined, h⟩
  unfold dumpText
  simp only [List.cons_append, List.append_assoc, List.nil_append]

end Escapes

/-- A document without numbers that are not whole. -/
def Floatless : JsonValue → Prop
  | .arr items => floatlessItems items
  | .obj members => floatlessMembers members
  | .float _ => False
  | _ => True
where
  floatlessItems : List JsonValue → Prop
    | [] => True
    | item :: rest => Floatless item ∧ floatlessItems rest
  floatlessMembers : List (String × JsonValue) → Prop
    | [] => True
    | (_, value) :: rest => Floatless value ∧ floatlessMembers rest

section Documents

variable (floats : FloatRepr)

theorem floatlessItems_iff (items : List JsonValue) :
    Floatless.floatlessItems items ↔ ∀ item ∈ items, Floatless item := by
  induction items with
  | nil => simp [Floatless.floatlessItems]
  | cons item rest ih =>
    unfold Floatless.floatlessItems
    rw [ih, List.forall_mem_cons]

theorem floatlessMembers_iff (members : List (String × JsonValue)) :
    Floatless.floatlessMembers members ↔ ∀ member ∈ members, Floatless member.2 := by
  induction members with
  | nil => simp [Floatless.floatlessMembers]
  | cons member rest ih =>
    unfold Floatless.floatlessMembers
    rw [ih, List.forall_mem_cons]

theorem commaJoined_eq (parts : List (List Char)) : commaJoined parts = [','].intercalate parts := by
  induction parts with
  | nil => rfl
  | cons part rest ih =>
    cases rest with
    | nil => exact List.intercalate_singleton.symm
    | cons next rest =>
      rw [List.intercalate_cons_cons, ← ih]
      show part ++ ',' :: commaJoined (next :: rest) = _
      rw [List.append_assoc]
      rfl

theorem itemDumps_eq (items : List JsonValue) :
    dumps.itemDumps floats items = items.map (dumps floats) := by
  induction items with
  | nil => rfl
  | cons item rest ih =>
    unfold dumps.itemDumps
    rw [ih, List.map_cons]

theorem memberDumps_eq (members : List (String × JsonValue)) :
    dumps.memberDumps floats members =
      members.map fun member => (member.1, dumps floats member.2) := by
  induction members with
  | nil => rfl
  | cons member rest ih =>
    unfold dumps.memberDumps
    rw [ih, List.map_cons]

theorem dumps_arr (items : List JsonValue) :
    dumps floats (.arr items) = '[' :: ([','].intercalate (items.map (dumps floats)) ++ [']']) := by
  rw [dumps, itemDumps_eq, commaJoined_eq]

/-- The members of an object in the order of their keys. -/
def keySorted (members : List (String × JsonValue)) : List (String × JsonValue) :=
  members.insertionSort fun a b => a.1 ≤ b.1

theorem map_keySorted {α : Type} (f : JsonValue → α) (members : List (String × JsonValue)) :
    (members.map fun member => (member.1, f member.2)).insertionSort (fun a b => a.1 ≤ b.1) =
      (keySorted members).map fun member => (member.1, f member.2) := by
  unfold keySorted
  rw [List.map_insertionSort (fun a b : String × JsonValue => a.1 ≤ b.1)
    (fun a b : String × α => a.1 ≤ b.1)]
  intro a _ b _
  exact Iff.rfl

theorem dumps_obj (members : List (String × JsonValue)) :
    dumps floats (.obj members) =
      '\x7b' :: ([','].intercalate ((keySorted members).map fun member =>
        dumpText member.1 ++ ':' :: dumps floats member.2) ++ ['\x7d']) := by
  rw [dumps, memberDumps_eq, map_keySorted, commaJoined_eq, List.map_map]
  rfl

/-- `json.loads` reads what `json.dumps` writes, with the keys in order. -/
theorem reads_dumps : ∀ value : JsonValue, Floatless value → UniqueKeys value →
    Reads (dumps floats value) (sortKeys value) := by
  apply nestedInduction
  case array =>
    intro items ih hfloatless hunique
    have hfloatless := (floatlessItems_iff items).mp hfloatless
    have hunique := uniqueKeys_arr.mp hunique
    rw [dumps_arr, sortKeys_arr]
    apply reads_array
    rw [List.forall₂_map_left_iff, List.forall₂_map_right_iff, List.forall₂_same]
    intro item hitem
    exact ih item hitem (hfloatless item hitem) (hunique item hitem)
  case object =>
    intro members ih hfloatless hunique
    have hfloatless := (floatlessMembers_iff members).mp hfloatless
    obtain ⟨hkeys, hunique⟩ := uniqueKeys_obj.mp hunique
    rw [dumps_obj, sortKeys_obj]
    apply reads_object
    · unfold sortedMembers
      rw [map_keySorted, List.forall₂_map_left_iff, List.forall₂_map_right_iff, List.forall₂_same]
      intro member hmember
      have hmem : member ∈ members := (List.perm_insertionSort _ _).mem_iff.mp hmember
      exact readsMember_dumpText member.1
        (ih member hmem (hfloatless member hmem) (hunique member hmem))
    · exact nodup_sortedMembers hkeys
  case null =>
    intro _ _
    exact reads_null
  case bool =>
    intro value _ _
    cases value with
    | false => exact reads_false
    | true => exact reads_true
  case int =>
    intro value _ _
    exact reads_integerToString value
  case float =>
    intro value hfloatless
    exact absurd hfloatless id
  case str =>
    intro text _ _
    exact reads_dumpText text

end Documents

end TradeJournalWorker
