import TradeJournalWorker.ControlInvariants

namespace TradeJournalWorker.Lab

section HexTexts

variable {tables : UnicodeTables} {text : List Char}

theorem matchesLetter_of_hex {letter c : Char} (hletter : isLowerHex letter = false)
    (hc : isLowerHex c = true) : matchesLetter letter c = false := by
  have hne : ∀ other, isLowerHex other = false → (c == other) = false := by
    intro other hother
    have hdiffer : c ≠ other := by
      intro heq
      rw [heq, hother] at hc
      cases hc
    simpa using hdiffer
  unfold matchesLetter
  rw [toLower_of_isLowerHex hc, hne letter hletter, hne 'ſ' (by decide), hne '\u212A' (by decide),
    hne 'ı' (by decide), hne 'İ' (by decide)]
  simp

theorem afterWord_of_hex {word : List Char} (hword : ∃ letter ∈ word, isLowerHex letter = false)
    (htext : ∀ c ∈ text, isLowerHex c = true) : afterWord word text = none := by
  induction word generalizing text with
  | nil =>
    obtain ⟨letter, hletter, _⟩ := hword
    exact absurd hletter List.not_mem_nil
  | cons letter rest ih =>
    cases text with
    | nil => rfl
    | cons c others =>
      unfold afterWord
      split
      next hmatch =>
        apply ih
        · obtain ⟨found, hfound, hplain⟩ := hword
          rcases List.mem_cons.mp hfound with rfl | hrest
          · rw [matchesLetter_of_hex hplain (htext c List.mem_cons_self)] at hmatch
            cases hmatch
          · exact ⟨found, hrest, hplain⟩
        · exact fun other hother => htext other (List.mem_cons_of_mem _ hother)
      next => rfl

theorem hasSecretWord_of_hex {free : Bool} (htext : ∀ c ∈ text, isLowerHex c = true) :
    hasSecretWord free text = false := by
  induction text generalizing free with
  | nil => rfl
  | cons c rest ih =>
    have hhere : secretWordHere (c :: rest) = false := by
      unfold secretWordHere
      apply List.any_eq_false.mpr
      intro word hword
      have hnone : afterWord word.toList (c :: rest) = none := by
        apply afterWord_of_hex _ htext
        simp only [secretWords, List.mem_cons, List.not_mem_nil, or_false] at hword
        rcases hword with rfl | rfl | rfl | rfl | rfl
        · exact ⟨'p', by decide, by decide⟩
        · exact ⟨'p', by decide, by decide⟩
        · exact ⟨'p', by decide, by decide⟩
        · exact ⟨'s', by decide, by decide⟩
        · exact ⟨'t', by decide, by decide⟩
      simp [hnone]
    unfold hasSecretWord
    rw [hhere, ih fun other hother => htext other (List.mem_cons_of_mem _ hother)]
    simp

theorem hasBearer_of_hex (htext : ∀ c ∈ text, isLowerHex c = true) :
    hasBearer tables text = false := by
  induction text with
  | nil => rfl
  | cons c rest ih =>
    have hhere : bearerHere tables (c :: rest) = false := by
      unfold bearerHere
      rw [afterWord_of_hex ⟨'u', by decide, by decide⟩ htext]
    unfold hasBearer
    rw [hhere, ih fun other hother => htext other (List.mem_cons_of_mem _ hother)]
    rfl

theorem hasAfter_of_hex {opens : Char → Bool} {here : List Char → Bool} {atOpening : Bool}
    (hhere : ∀ suffix : List Char, (∀ c ∈ suffix, isLowerHex c = true) → here suffix = false)
    (htext : ∀ c ∈ text, isLowerHex c = true) : hasAfter opens here atOpening text = false := by
  induction text generalizing atOpening with
  | nil => rfl
  | cons c rest ih =>
    unfold hasAfter
    rw [hhere _ htext, ih fun other hother => htext other (List.mem_cons_of_mem _ hother)]
    simp

/-- No pattern of a secret is found in a digest. -/
theorem isSecretText_of_hex (htext : ∀ c ∈ text, isLowerHex c = true) :
    isSecretText tables text = false := by
  unfold isSecretText
  rw [hasSecretWord_of_hex htext, hasBearer_of_hex htext, hasAfter_of_hex ?_ htext,
    hasAfter_of_hex ?_ htext]
  · rfl
  · intro suffix hsuffix
    unfold loginEntryHere
    rw [afterWord_of_hex ⟨'l', by decide, by decide⟩ hsuffix]
  · intro suffix hsuffix
    unfold loginOptionHere
    rw [afterWord_of_hex ⟨'l', by decide, by decide⟩ hsuffix]

theorem chars_of_lowerSha256 {digest : String} (h : isLowerSha256 digest = true) :
    ∀ c ∈ digest.toList, isLowerHex c = true := by
  unfold isLowerSha256 at h
  simp only [Bool.and_eq_true, List.all_eq_true] at h
  exact h.2

end HexTexts

section Sensitive

variable {tables : UnicodeTables} {path : List String} {members : Members}

theorem walkMembers_eq_ok :
    rejectSensitiveContent.walkMembers tables path members = .ok () ↔
      ∀ member ∈ members, isForbiddenKey tables member.1 = false ∧
        rejectSensitiveContent tables (path ++ [member.1]) member.2 = .ok () := by
  induction members with
  | nil => simp [rejectSensitiveContent.walkMembers]
  | cons member rest ih =>
    obtain ⟨key, value⟩ := member
    simp only [List.mem_cons, forall_eq_or_imp, ← ih]
    rw [rejectSensitiveContent.walkMembers]
    cases hkey : isForbiddenKey tables key with
    | true => simp
    | false =>
      cases hvalue : rejectSensitiveContent tables (path ++ [key]) value with
      | error error => simp
      | ok done => simp

/-- An edit of one member that finds nothing sensitive leaves the document without any. -/
theorem rejectSensitiveContent_updateMember {key : String} {f : JsonValue → JsonValue}
    {value : JsonValue} (h : rejectSensitiveContent tables path value = .ok ())
    (hf : ∀ old, rejectSensitiveContent tables (path ++ [key]) old = .ok () →
      rejectSensitiveContent tables (path ++ [key]) (f old) = .ok ()) :
    rejectSensitiveContent tables path (value.updateMember key f) = .ok () := by
  cases value with
  | obj members =>
    unfold JsonValue.updateMember
    unfold rejectSensitiveContent at h ⊢
    rw [walkMembers_eq_ok] at h ⊢
    intro member hmember
    unfold JsonValue.updateMembers at hmember
    obtain ⟨old, hold, rfl⟩ := List.mem_map.mp hmember
    obtain ⟨hkey, hvalue⟩ := h old hold
    split
    next hname =>
      refine ⟨hkey, ?_⟩
      rw [hname] at hvalue ⊢
      exact hf old.2 hvalue
    next => exact ⟨hkey, hvalue⟩
  | null => exact h
  | bool b => exact h
  | int n => exact h
  | float r => exact h
  | str text => exact h
  | arr items => exact h

end Sensitive

/-- The discovery with another digest as that of the source of the delta. -/
def editDelta (digest : String) : JsonValue → JsonValue :=
  JsonValue.updateMember "endpoint_delta_source_sha256" fun _ => .str digest

/-- The evidence with another digest as that of the source of the delta. -/
def withDeltaDigest (digest : String) : JsonValue → JsonValue :=
  JsonValue.updateMember "discovery" (editDelta digest)

section Reading

variable {digest : String}

theorem requireExactKeys_congr {context : String} {members others : Members}
    {expected : List String} (h : others.map Prod.fst = members.map Prod.fst) :
    requireExactKeys context others expected = requireExactKeys context members expected := by
  unfold requireExactKeys
  rw [h]

theorem requireBool_updateMembers {context key other : String} {f : JsonValue → JsonValue}
    {members : Members} (h : other ≠ key) :
    requireBool context (JsonValue.updateMembers key f members) other =
      requireBool context members other := by
  unfold requireBool
  rw [JsonValue.get_updateMembers_of_ne h]

/-- All keys that are asked for are there. -/
theorem mem_keys_of_exact {context key : String} {members : Members} {expected : List String}
    (h : requireExactKeys context members expected = .ok ()) (hkey : key ∈ expected) :
    key ∈ members.map Prod.fst := by
  unfold requireExactKeys at h
  have hmissing := (demand_eq_ok.mp h).1
  by_contra hnone
  have hmem : key ∈ sortedNames (expected.filter (· ∉ members.map Prod.fst)) := by
    unfold sortedNames
    rw [List.mem_insertionSort]
    simp [hkey, hnone]
  rw [hmissing] at hmem
  exact absurd hmem List.not_mem_nil

/-- A source that has a digest is verified, and belongs to a delta that was acquired. -/
theorem checkDeltaSource_some {discovery : Discovery} (h : checkDeltaSource discovery = .ok ())
    (hsome : discovery.endpointDeltaSourceSha256.isSome = true) :
    discovery.endpointDeltaSource ≠ .none ∧ discovery.endpointDeltaSourceVerified = true ∧
      discovery.endpointDeltaAcquired = true := by
  unfold checkDeltaSource at h
  split at h
  next hnone =>
    obtain ⟨⟨⟩, hneutral, _⟩ := except_bind_eq_ok h
    rw [(demand_eq_ok.mp hneutral).1] at hsome
    cases hsome
  next hsource =>
    obtain ⟨⟨⟩, hverified, hacquired⟩ := except_bind_eq_ok h
    have hacquired := demand_eq_ok.mp hacquired
    refine ⟨hsource, (demand_eq_ok.mp hverified).2, ?_⟩
    by_contra hnot
    exact hacquired ⟨by simpa using hnot, hsource⟩

theorem checkDeltaSource_replace {discovery : Discovery}
    (h : checkDeltaSource discovery = .ok ())
    (hsome : discovery.endpointDeltaSourceSha256.isSome = true) (digest : String) :
    checkDeltaSource { discovery with endpointDeltaSourceSha256 := some digest } = .ok () := by
  obtain ⟨hsource, hverified, hacquired⟩ := checkDeltaSource_some h hsome
  unfold checkDeltaSource
  simp [hsource, hverified, hacquired, demand, bind, Except.bind]

/-- A source with a digest may have any other one as far as the discovery goes. -/
theorem requireDiscovery_updateMember {value : JsonValue} {discovery : Discovery}
    (hdigest : isLowerSha256 digest = true) (h : requireDiscovery value = .ok discovery)
    (hsome : discovery.endpointDeltaSourceSha256.isSome = true) :
    requireDiscovery (editDelta digest value) =
      .ok { discovery with endpointDeltaSourceSha256 := some digest } := by
  unfold requireDiscovery at h
  obtain ⟨data, hdata, h⟩ := except_bind_eq_ok h
  obtain ⟨⟨⟩, hkeys, h⟩ := except_bind_eq_ok h
  obtain ⟨_, h1, h⟩ := except_bind_eq_ok h
  obtain ⟨_, h2, h⟩ := except_bind_eq_ok h
  obtain ⟨_, h3, h⟩ := except_bind_eq_ok h
  obtain ⟨_, h4, h⟩ := except_bind_eq_ok h
  obtain ⟨_, h5, h⟩ := except_bind_eq_ok h
  obtain ⟨_, h6, h⟩ := except_bind_eq_ok h
  obtain ⟨_, h7, h⟩ := except_bind_eq_ok h
  obtain ⟨_, h8, h⟩ := except_bind_eq_ok h
  obtain ⟨_, h9, h⟩ := except_bind_eq_ok h
  obtain ⟨_, h10, h⟩ := except_bind_eq_ok h
  obtain ⟨_, h11, h⟩ := except_bind_eq_ok h
  obtain ⟨_, h12, h⟩ := except_bind_eq_ok h
  obtain ⟨_, h13, h⟩ := except_bind_eq_ok h
  obtain ⟨_, h14, h⟩ := except_bind_eq_ok h
  obtain ⟨_, h15, h⟩ := except_bind_eq_ok h
  obtain ⟨old, _, h⟩ := except_bind_eq_ok h
  obtain ⟨⟨⟩, hsource, h⟩ := except_bind_eq_ok h
  cases h
  have hvalue : value = .obj data := by
    unfold requireMapping at hdata
    split at hdata
    next => cases hdata; rfl
    next => cases hdata
  have hown : "endpoint_delta_source_sha256" ∈ data.map Prod.fst :=
    mem_keys_of_exact hkeys (by simp [discoveryKeys])
  have hnew : validatedNullableSha256 (.str digest) "discovery.endpoint_delta_source_sha256" =
      .ok (some digest) := by
    simp [validatedNullableSha256, validatedSha256, isSha256_of_lower hdigest,
      lowerDigest_of_lower hdigest, bind, Except.bind, pure, Except.pure]
  have hchecked := checkDeltaSource_replace hsource hsome digest
  subst hvalue
  have hedited : requireExactKeys "discovery"
      (JsonValue.updateMembers "endpoint_delta_source_sha256" (fun _ => .str digest) data)
      discoveryKeys = .ok () := by
    rw [requireExactKeys_congr JsonValue.keys_updateMembers]
    exact hkeys
  have hget : JsonValue.get
      (JsonValue.updateMembers "endpoint_delta_source_sha256" (fun _ => .str digest) data)
      "endpoint_delta_source_sha256" = .str digest := JsonValue.get_updateMembers hown
  have hother : ∀ key, key ≠ "endpoint_delta_source_sha256" → JsonValue.get
      (JsonValue.updateMembers "endpoint_delta_source_sha256" (fun _ => .str digest) data) key =
        JsonValue.get data key := fun key hkey => JsonValue.get_updateMembers_of_ne hkey
  show (requireDiscovery (.obj (JsonValue.updateMembers _ _ data))) = _
  generalize JsonValue.updateMembers "endpoint_delta_source_sha256" (fun _ => .str digest) data =
    edited at hedited hget hother ⊢
  have hbool : ∀ key, key ≠ "endpoint_delta_source_sha256" →
      requireBool "discovery" edited key = requireBool "discovery" data key := by
    intro key hkey
    unfold requireBool
    rw [hother key hkey]
  unfold requireDiscovery
  simp only [requireMapping, hedited, hbool, hother, hget, hnew, ne_eq, String.reduceEq,
    not_false_eq_true, h1, h2, h3, h4, h5, h6, h7, h8, h9, h10, h11, h12, h13, h14, h15, bind,
    Except.bind]
  simp only at hchecked
  rw [hchecked]
  rfl

theorem rejectSensitiveContent_withDeltaDigest {tables : UnicodeTables} {payload : JsonValue}
    (hdigest : isLowerSha256 digest = true)
    (h : rejectSensitiveContent tables [] payload = .ok ()) :
    rejectSensitiveContent tables [] (withDeltaDigest digest payload) = .ok () := by
  apply rejectSensitiveContent_updateMember h
  intro discovery hdiscovery
  apply rejectSensitiveContent_updateMember hdiscovery
  intro _ _
  unfold rejectSensitiveContent
  rw [isSecretText_of_hex (chars_of_lowerSha256 hdigest)]
  rfl

/-- Evidence with another digest of the delta's source is accepted when the invariants of its
control still hold. -/
theorem validateEvidence_withDeltaDigest {env : LabEnv} {payload : JsonValue}
    {evidence : Evidence} (hdigest : isLowerSha256 digest = true)
    (h : validateEvidence env payload = .ok evidence)
    (hsome : evidence.discovery.endpointDeltaSourceSha256.isSome = true) :
    validateEvidence env (withDeltaDigest digest payload) = do
      let edited : Evidence := { evidence with
        discovery := { evidence.discovery with endpointDeltaSourceSha256 := some digest } }
      validateControlInvariants edited
      return edited := by
  unfold validateEvidence at h
  obtain ⟨⟨⟩, hclean, h⟩ := except_bind_eq_ok h
  obtain ⟨data, hdata, h⟩ := except_bind_eq_ok h
  obtain ⟨⟨⟩, hkeys, h⟩ := except_bind_eq_ok h
  obtain ⟨⟨⟩, h1, h⟩ := except_bind_eq_ok h
  obtain ⟨_, h2, h⟩ := except_bind_eq_ok h
  obtain ⟨_, h3, h⟩ := except_bind_eq_ok h
  obtain ⟨_, h4, h⟩ := except_bind_eq_ok h
  obtain ⟨_, h5, h⟩ := except_bind_eq_ok h
  obtain ⟨_, h6, h⟩ := except_bind_eq_ok h
  obtain ⟨_, h7, h⟩ := except_bind_eq_ok h
  obtain ⟨_, h8, h⟩ := except_bind_eq_ok h
  obtain ⟨_, h9, h⟩ := except_bind_eq_ok h
  obtain ⟨⟨⟩, h10, h⟩ := except_bind_eq_ok h
  obtain ⟨_, h11, h⟩ := except_bind_eq_ok h
  obtain ⟨discovery, hdiscovery, h⟩ := except_bind_eq_ok h
  obtain ⟨_, h12, h⟩ := except_bind_eq_ok h
  obtain ⟨_, h13, h⟩ := except_bind_eq_ok h
  obtain ⟨_, h14, h⟩ := except_bind_eq_ok h
  obtain ⟨_, h15, h⟩ := except_bind_eq_ok h
  obtain ⟨⟨⟩, h16, h⟩ := except_bind_eq_ok h
  obtain ⟨_, h17, h⟩ := except_bind_eq_ok h
  obtain ⟨_, h18, h⟩ := except_bind_eq_ok h
  obtain ⟨_, h19, h⟩ := except_bind_eq_ok h
  obtain ⟨⟨⟩, h20, h⟩ := except_bind_eq_ok h
  obtain ⟨_, h21, h⟩ := except_bind_eq_ok h
  obtain ⟨⟨⟩, h22, h⟩ := except_bind_eq_ok h
  obtain ⟨⟨⟩, h23, h⟩ := except_bind_eq_ok h
  obtain ⟨⟨⟩, _, h⟩ := except_bind_eq_ok h
  cases h
  have hvalue : payload = .obj data := by
    unfold requireMapping at hdata
    split at hdata
    next => cases hdata; rfl
    next => cases hdata
  subst hvalue
  have hown : "discovery" ∈ data.map Prod.fst :=
    mem_keys_of_exact hkeys (by simp [evidenceKeys])
  have hsafe := rejectSensitiveContent_withDeltaDigest hdigest hclean
  have hnew := requireDiscovery_updateMember hdigest hdiscovery hsome
  have hedited : requireExactKeys "evidence"
      (JsonValue.updateMembers "discovery" (editDelta digest) data) evidenceKeys = .ok () := by
    rw [requireExactKeys_congr JsonValue.keys_updateMembers]
    exact hkeys
  have hget : JsonValue.get (JsonValue.updateMembers "discovery" (editDelta digest) data)
      "discovery" = editDelta digest (JsonValue.get data "discovery") :=
    JsonValue.get_updateMembers hown
  have hother : ∀ key, key ≠ "discovery" →
      JsonValue.get (JsonValue.updateMembers "discovery" (editDelta digest) data) key =
        JsonValue.get data key := fun key hkey => JsonValue.get_updateMembers_of_ne hkey
  have hobject : withDeltaDigest digest (.obj data) =
      .obj (JsonValue.updateMembers "discovery" (editDelta digest) data) := rfl
  rw [hobject] at hsafe ⊢
  generalize JsonValue.updateMembers "discovery" (editDelta digest) data = edited
    at hsafe hedited hget hother ⊢
  unfold validateEvidence
  simp only [requireMapping, hsafe, hedited, hother, hget, hnew, ne_eq, String.reduceEq,
    not_false_eq_true, h1, h2, h3, h4, h5, h6, h7, h8, h9, h10, h11, h12, h13, h14, h15, h16, h17,
    h18, h19, h20, h21, h22, h23, bind, Except.bind]

end Reading

end TradeJournalWorker.Lab
