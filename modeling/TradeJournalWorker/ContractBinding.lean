import TradeJournalWorker.CampaignSoundness
import TradeJournalWorker.DelimitedText
import TradeJournalWorker.FlowSetDigests

namespace TradeJournalWorker.Lab

open JsonValue

/-- `[A-Z][A-Z0-9_]{2,63}`, the artifact types that `contract_digest` takes. -/
def isArtifactType (text : String) : Bool :=
  match text.toList with
  | [] => false
  | first :: rest =>
    first.isUpper && 2 ≤ rest.length && rest.length ≤ 63 &&
      rest.all fun c => c.isUpper || c.isDigit || c = '_'

theorem not_null_of_isUpper {c : Char} (h : c.isUpper = true) : c ≠ '\x00' := by
  rintro rfl
  revert h
  decide

theorem not_null_of_artifact {c : Char} (h : (c.isUpper || c.isDigit || decide (c = '_')) = true) :
    c ≠ '\x00' := by
  rintro rfl
  revert h
  decide

/-- An artifact type does not contain the byte that ends it. -/
theorem artifactType_clean {text : String} (h : isArtifactType text = true) :
    '\x00' ∉ text.toList := by
  unfold isArtifactType at h
  split at h
  next => cases h
  next first rest htext =>
    simp only [Bool.and_eq_true] at h
    obtain ⟨⟨⟨hfirst, _⟩, _⟩, hrest⟩ := h
    rw [htext]
    intro hmem
    rcases List.mem_cons.mp hmem with heq | hmem
    · exact not_null_of_isUpper hfirst heq.symm
    · exact not_null_of_artifact (List.all_eq_true.mp hrest _ hmem) rfl

theorem version_clean (n : Nat) : '\x00' ∉ (toString n).toList := by
  show '\x00' ∉ (Nat.repr n).toList
  rw [repr_toList]
  intro hmem
  have hdigit := JsonText.toDigits_isDigit hmem
  revert hdigit
  decide

theorem version_inj {m n : Nat} (h : (toString m).toList = (toString n).toList) : m = n := by
  have hm := JsonText.loads_of_reads (reads_int m)
  have hn := JsonText.loads_of_reads (reads_int n)
  have hsame : (toString (m : Int)).toList = (toString (n : Int)).toList := h
  rw [hsame, hn] at hm
  exact Int.ofNat.inj (JsonValue.int.inj (Option.some.inj hm)).symm

theorem contractPreimage_toList (env : LabEnv) (artifactType : String) (schemaVersion : Nat)
    (payload : JsonValue) :
    (contractPreimage env artifactType schemaVersion payload).toList =
      "MT5_DIRECT_ENDPOINT\x00".toList ++ (artifactType.toList ++ '\x00' ::
        ((toString schemaVersion).toList ++ '\x00' ::
          (canonicalJson env.floatText payload).toList)) := by
  unfold contractPreimage
  simp only [String.toList_append, List.append_assoc]
  rfl

/-- The hashed text tells the type, the version and the document. -/
theorem contractPreimage_injective {env : LabEnv} {firstType secondType : String}
    {firstVersion secondVersion : Nat} {a b : JsonValue}
    (hfirst : isArtifactType firstType = true) (hsecond : isArtifactType secondType = true)
    (h : contractPreimage env firstType firstVersion a =
      contractPreimage env secondType secondVersion b) :
    firstType = secondType ∧ firstVersion = secondVersion ∧
      canonicalJson env.floatText a = canonicalJson env.floatText b := by
  have hchars := congrArg String.toList h
  rw [contractPreimage_toList, contractPreimage_toList] at hchars
  have htypes := DelimitedText.delimiter_inj (artifactType_clean hfirst)
    (artifactType_clean hsecond) (List.append_cancel_left hchars)
  have hversions := DelimitedText.delimiter_inj (version_clean firstVersion)
    (version_clean secondVersion) htypes.2
  exact ⟨String.toList_inj.mp htypes.1, version_inj hversions.1,
    String.toList_inj.mp hversions.2⟩

/-- Contracts with one digest are one contract up to the order of keys, or the hash has met two
texts with one digest. -/
theorem contractDigest_binds {env : LabEnv} {firstType secondType : String}
    {firstVersion secondVersion : Nat} {a b : JsonValue}
    (hfirst : isArtifactType firstType = true) (hsecond : isArtifactType secondType = true)
    (ha : Floatless a ∧ UniqueKeys a) (hb : Floatless b ∧ UniqueKeys b)
    (h : contractDigest env firstType firstVersion a =
      contractDigest env secondType secondVersion b) :
    (firstType = secondType ∧ firstVersion = secondVersion ∧ sortKeys a = sortKeys b) ∨
      Collide env (contractDigest env firstType firstVersion a)
        (contractDigest env secondType secondVersion b) := by
  by_cases hsame : contractPreimage env firstType firstVersion a =
      contractPreimage env secondType secondVersion b
  · obtain ⟨htype, hversion, htext⟩ := contractPreimage_injective hfirst hsecond hsame
    exact Or.inl ⟨htype, hversion,
      canonicalJson_injective env.floatText ha.1 hb.1 ha.2 hb.2 htext⟩
  · exact Or.inr (collide_of_preimages hsame h)

/-- Two orders of keys in one plan. -/
theorem reordered_binds :
    ("CONTROL_PLAN" = "CONTROL_PLAN" ∧ 2 = 2 ∧
        sortKeys (.obj [("control", .str "C0"), ("schema_version", .int 2)]) =
          sortKeys (.obj [("schema_version", .int 2), ("control", .str "C0")])) ∨
      Collide zeroEnv
        (contractDigest zeroEnv "CONTROL_PLAN" 2
          (.obj [("control", .str "C0"), ("schema_version", .int 2)]))
        (contractDigest zeroEnv "CONTROL_PLAN" 2
          (.obj [("schema_version", .int 2), ("control", .str "C0")])) :=
  contractDigest_binds (by decide) (by decide)
    (by simp [Floatless, Floatless.floatlessMembers, UniqueKeys, UniqueKeys.uniqueMembers])
    (by simp [Floatless, Floatless.floatlessMembers, UniqueKeys, UniqueKeys.uniqueMembers]) rfl

end TradeJournalWorker.Lab
