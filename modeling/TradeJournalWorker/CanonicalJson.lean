import TradeJournalWorker.ContractDigests
import TradeJournalWorker.JsonDumps

namespace TradeJournalWorker.Lab

open SurrogatePairs JsonText JsonValue

section Texts

theorem repr_toList (n : Nat) : (Nat.repr n).toList = Nat.toDigits 10 n := by
  unfold Nat.repr
  rw [String.toList_ofList]

theorem toString_toList (n : Int) :
    (toString n).toList = if n < 0 then '-' :: Nat.toDigits 10 n.natAbs
      else Nat.toDigits 10 n.natAbs := by
  cases n with
  | ofNat m =>
    rw [if_neg (by simp)]
    exact repr_toList m
  | negSucc m =>
    rw [if_pos (Int.negSucc_lt_zero m)]
    show ("-" ++ Nat.repr (m + 1)).toList = _
    rw [String.toList_append, repr_toList]
    rfl

theorem reads_int (n : Int) : Reads (toString n).toList (.int n) := by
  rw [toString_toList]
  split
  next hneg =>
    have hreads := reads_negative n.natAbs
    rw [show -(n.natAbs : Int) = n by omega] at hreads
    exact hreads
  next hneg =>
    have hreads := reads_natural n.natAbs
    rw [show (n.natAbs : Int) = n by omega] at hreads
    exact hreads

theorem hexCode_control : ∀ n < 32, hexCode '0' '0' (hexDigit (n / 16)) (hexDigit (n % 16)) =
    some n := by
  decide

/-- What is written for a character is read as the character. -/
theorem jsonChar_spells (c : Char) : Spells (jsonChar c) [c.toNat] := by
  have hplain : ∀ {body : List Char} {code : Nat}, Spells body [code] → c.toNat = code →
      Spells body [c.toNat] := by
    intro body code hspells hcode
    rw [hcode]
    exact hspells
  unfold jsonChar
  split
  next heq => exact hplain (spells_escape rfl) (congrArg Char.toNat heq)
  next hquote =>
    split
    next heq => exact hplain (spells_escape rfl) (congrArg Char.toNat heq)
    next hslash =>
      split
      next heq => exact hplain (spells_escape rfl) (congrArg Char.toNat heq)
      next =>
        split
        next heq => exact hplain (spells_escape rfl) (congrArg Char.toNat heq)
        next =>
          split
          next heq => exact hplain (spells_escape rfl) (congrArg Char.toNat heq)
          next =>
            split
            next heq => exact hplain (spells_escape rfl) heq
            next =>
              split
              next heq => exact hplain (spells_escape rfl) heq
              next =>
                split
                next hcontrol => exact spells_hex (hexCode_control c.toNat hcontrol)
                next hcontrol => exact spells_raw (by omega) hquote hslash

theorem jsonChars_spell (text : List Char) :
    Spells (text.flatMap jsonChar) (text.map Char.toNat) := by
  induction text with
  | nil => exact spells_nil
  | cons c text ih => exact (jsonChar_spells c).append ih

theorem jsonText_toList (text : String) :
    (jsonText text).toList = '"' :: (text.toList.flatMap jsonChar ++ ['"']) := by
  unfold jsonText
  rw [String.toList_ofList]
  rfl

theorem reads_jsonText (text : String) : Reads (jsonText text).toList (.str text) := by
  rw [jsonText_toList]
  exact reads_string (jsonChars_spell text.toList)
    (joinSurrogates_of_joined (joined_toNat text.toList))

theorem readsMember_jsonText (key : String) {valueText : List Char} {value : JsonValue}
    (h : Reads valueText value) :
    ReadsMember ((jsonText key).toList ++ ':' :: valueText) (key, value) := by
  refine ⟨_, _, valueText, ?_, jsonChars_spell key.toList,
    joinSurrogates_of_joined (joined_toNat key.toList), h⟩
  rw [jsonText_toList]
  simp only [List.cons_append, List.append_assoc, List.nil_append]

end Texts

section Documents

variable (floatText : Rat → String)

theorem joinTexts_toList (texts : List String) :
    (joinTexts "," texts).toList = [','].intercalate (texts.map String.toList) := by
  induction texts with
  | nil => rfl
  | cons text rest ih =>
    cases rest with
    | nil =>
      show text.toList = _
      exact List.intercalate_singleton.symm
    | cons next rest =>
      show (text ++ "," ++ joinTexts "," (next :: rest)).toList = _
      rw [String.toList_append, String.toList_append, ih, List.map_cons, List.map_cons,
        List.map_cons, List.intercalate_cons_cons]
      rfl

theorem canonicalItems_eq (items : List JsonValue) :
    canonicalJson.itemTexts floatText items = items.map (canonicalJson floatText) := by
  induction items with
  | nil => rfl
  | cons item rest ih =>
    unfold canonicalJson.itemTexts
    rw [ih, List.map_cons]

theorem canonicalMembers_eq (members : List (String × JsonValue)) :
    canonicalJson.memberTexts floatText members =
      members.map fun member => (member.1, canonicalJson floatText member.2) := by
  induction members with
  | nil => rfl
  | cons member rest ih =>
    unfold canonicalJson.memberTexts
    rw [ih, List.map_cons]

theorem canonicalJson_arr (items : List JsonValue) :
    (canonicalJson floatText (.arr items)).toList =
      '[' :: ([','].intercalate (items.map fun item => (canonicalJson floatText item).toList) ++
        [']']) := by
  rw [canonicalJson, canonicalItems_eq, String.toList_append, String.toList_append, joinTexts_toList,
    List.map_map]
  rfl

theorem canonicalJson_obj (members : List (String × JsonValue)) :
    (canonicalJson floatText (.obj members)).toList =
      '\x7b' :: ([','].intercalate ((keySorted members).map fun member =>
        (jsonText member.1).toList ++ ':' :: (canonicalJson floatText member.2).toList) ++
        ['\x7d']) := by
  rw [canonicalJson, canonicalMembers_eq, map_keySorted, String.toList_append, String.toList_append,
    joinTexts_toList, List.map_map, List.map_map]
  have hparts : ∀ member : String × JsonValue,
      (jsonText member.1 ++ ":" ++ canonicalJson floatText member.2).toList =
        (jsonText member.1).toList ++ ':' :: (canonicalJson floatText member.2).toList := by
    intro member
    rw [String.toList_append, String.toList_append, List.append_assoc]
    rfl
  have hmap := List.map_congr_left (l := keySorted members) fun member _ => hparts member
  show '\x7b' :: _ = _
  rw [← hmap]
  rfl

/-- `canonical_json` is read back as the document with its keys in order. -/
theorem reads_canonicalJson : ∀ value : JsonValue, Floatless value → UniqueKeys value →
    Reads (canonicalJson floatText value).toList (sortKeys value) := by
  apply nestedInduction
  case array =>
    intro items ih hfloatless hunique
    have hfloatless := (floatlessItems_iff items).mp hfloatless
    have hunique := uniqueKeys_arr.mp hunique
    rw [canonicalJson_arr, sortKeys_arr]
    apply reads_array
    rw [List.forall₂_map_left_iff, List.forall₂_map_right_iff, List.forall₂_same]
    intro item hitem
    exact ih item hitem (hfloatless item hitem) (hunique item hitem)
  case object =>
    intro members ih hfloatless hunique
    have hfloatless := (floatlessMembers_iff members).mp hfloatless
    obtain ⟨hkeys, hunique⟩ := uniqueKeys_obj.mp hunique
    rw [canonicalJson_obj, sortKeys_obj]
    apply reads_object
    · unfold sortedMembers
      rw [map_keySorted, List.forall₂_map_left_iff, List.forall₂_map_right_iff, List.forall₂_same]
      intro member hmember
      have hmem : member ∈ members := (List.perm_insertionSort _ _).mem_iff.mp hmember
      exact readsMember_jsonText member.1
        (ih member hmem (hfloatless member hmem) (hunique member hmem))
    · exact nodup_sortedMembers hkeys
  case null =>
    intro _ _
    exact reads_null
  case bool =>
    intro value _ _
    cases value with
    | false => exact reads_false
    | true => exact reads_true
  case int =>
    intro value _ _
    exact reads_int value
  case float =>
    intro value hfloatless
    exact absurd hfloatless id
  case str =>
    intro text _ _
    exact reads_jsonText text

/-- Documents with one canonical text are the same up to the order of their keys. -/
theorem canonicalJson_injective {a b : JsonValue} (ha : Floatless a) (hb : Floatless b)
    (hua : UniqueKeys a) (hub : UniqueKeys b)
    (h : canonicalJson floatText a = canonicalJson floatText b) : sortKeys a = sortKeys b := by
  have hread := loads_of_reads (reads_canonicalJson floatText a ha hua)
  rw [h, loads_of_reads (reads_canonicalJson floatText b hb hub)] at hread
  exact (Option.some.inj hread).symm

/-- Objects with one canonical text have the same value under every key. -/
theorem lookup_of_canonicalJson {members others : List (String × JsonValue)}
    (hm : Floatless (.obj members)) (ho : Floatless (.obj others))
    (hum : UniqueKeys (.obj members)) (huo : UniqueKeys (.obj others))
    (h : canonicalJson floatText (.obj members) = canonicalJson floatText (.obj others))
    (key : String) : (members.lookup key).map sortKeys = (others.lookup key).map sortKeys := by
  have hsorted := canonicalJson_injective floatText hm ho hum huo h
  rw [sortKeys_obj, sortKeys_obj] at hsorted
  rw [← lookup_sortedMembers (uniqueKeys_obj.mp hum).1, JsonValue.obj.inj hsorted,
    lookup_sortedMembers (uniqueKeys_obj.mp huo).1]

end Documents

end TradeJournalWorker.Lab
