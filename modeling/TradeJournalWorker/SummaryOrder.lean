import Mathlib.Data.List.Perm.Basic
import TradeJournalWorker.NetworkSummary

namespace TradeJournalWorker.Lab

section Sorting

theorem sortedNames_perm {names others : List String} (h : names.Perm others) :
    sortedNames names = sortedNames others := by
  have hperm : (sortedNames names).Perm (sortedNames others) :=
    ((List.perm_insertionSort _ _).trans h).trans (List.perm_insertionSort _ _).symm
  exact List.Perm.eq_of_pairwise' (List.pairwise_insertionSort _ _)
    (List.pairwise_insertionSort _ _) hperm

theorem less_perm {endpoints others : List String} {sets otherSets : List (List String)}
    (h : endpoints.Perm others) (hsets : List.Forall₂ List.Perm sets otherSets) :
    (less endpoints sets).Perm (less others otherSets) := by
  have hsame : ∀ endpoint, (sets.all fun other => endpoint ∉ other) =
      otherSets.all fun other => endpoint ∉ other := by
    intro endpoint
    induction hsets with
    | nil => rfl
    | cons hset _ ih => simp only [List.all_cons, hset.mem_iff, ih]
  unfold less
  simp only [hsame]
  exact h.filter _

/-- The text of an array is that of its items' texts. -/
theorem itemTexts_eq (floatText : Rat → String) (items : List JsonValue) :
    canonicalJson.itemTexts floatText items = items.map (canonicalJson floatText) := by
  induction items with
  | nil => rw [canonicalJson.itemTexts, List.map_nil]
  | cons item rest ih => rw [canonicalJson.itemTexts, List.map_cons, ih]

end Sorting

section FlowSets

variable {env : LabEnv} {records others : List VerifiedRecord}

def recordTexts (env : LabEnv) (records : List VerifiedRecord) : List (String × JsonValue) :=
  records.map fun record => (canonicalJson env.floatText record.json, record.json)

/-- The texts of the sorted records are the sorted texts. -/
theorem sortedRecords_texts (env : LabEnv) (records : List VerifiedRecord) :
    canonicalJson.itemTexts env.floatText
        (((recordTexts env records).insertionSort fun a b => a.1 ≤ b.1).map Prod.snd) =
      sortedNames (records.map fun record => canonicalJson env.floatText record.json) := by
  rw [itemTexts_eq, List.map_map]
  have hfirst : ∀ entry ∈ (recordTexts env records).insertionSort fun a b => a.1 ≤ b.1,
      (canonicalJson env.floatText ∘ Prod.snd) entry = entry.1 := by
    intro entry hmem
    rw [List.mem_insertionSort] at hmem
    obtain ⟨record, _, rfl⟩ := List.mem_map.mp hmem
    rfl
  rw [List.map_congr_left hfirst]
  have hsort := List.map_insertionSort (fun a b : String × JsonValue => a.1 ≤ b.1)
    (fun a b : String => a ≤ b) Prod.fst (recordTexts env records) fun _ _ _ _ => Iff.rfl
  rw [hsort]
  unfold recordTexts
  rw [List.map_map]
  rfl

/-- The digest of a set of flows does not depend on their order. -/
theorem digestFlowRecords_perm (runId setKind : String) (h : records.Perm others) :
    digestFlowRecords env runId setKind records = digestFlowRecords env runId setKind others := by
  have htexts : ∀ flows : List VerifiedRecord,
      canonicalJson env.floatText (flowSetPayload env runId setKind flows) =
        canonicalJson env.floatText (.obj [("run_id", .str runId), ("set_kind", .str setKind),
          ("records", .arr (((recordTexts env flows).insertionSort
            fun a b => a.1 ≤ b.1).map Prod.snd))]) := fun _ => rfl
  unfold digestFlowRecords contractDigest contractPreimage
  rw [htexts, htexts]
  have hsame : canonicalJson env.floatText (.arr (((recordTexts env records).insertionSort
        fun a b => a.1 ≤ b.1).map Prod.snd)) =
      canonicalJson env.floatText (.arr (((recordTexts env others).insertionSort
        fun a b => a.1 ≤ b.1).map Prod.snd)) := by
    rw [canonicalJson, canonicalJson, sortedRecords_texts, sortedRecords_texts]
    rw [sortedNames_perm (h.map _)]
  rw [canonicalJson, canonicalJson]
  simp only [canonicalJson.memberTexts]
  rw [hsame]

theorem dispositionCounts_perm (h : records.Perm others) :
    dispositionCounts records = dispositionCounts others := by
  unfold dispositionCounts
  simp only [h.countP_eq]

theorem allVerified_perm (h : records.Perm others) :
    allVerified records = allVerified others := by
  unfold allVerified
  rw [Bool.eq_iff_iff, List.all_eq_true, List.all_eq_true]
  simp only [h.mem_iff]

end FlowSets

/-- The two loops ended with the same counts, and with the same endpoints and flows of every
phase in some order. -/
structure Alike (state other : FlowState) : Prop where
  total : other.total = state.total
  networkCounts : other.networkCounts = state.networkCounts
  nonTcpNetworkCounts : other.nonTcpNetworkCounts = state.nonTcpNetworkCounts
  dnsCounts : other.dnsCounts = state.dnsCounts
  candidateCounts : other.candidateCounts = state.candidateCounts
  unphasedRelevant : other.unphasedRelevant = state.unphasedRelevant
  endpoints : ∀ phase, (other.endpoints phase).Perm (state.endpoints phase)
  records : ∀ phase, (other.records phase).Perm (state.records phase)

namespace Alike

variable {env : LabEnv} {runId : String} {state other : FlowState}

theorem phaseAccounting_eq (h : Alike state other) (phase : NetworkPhase) :
    phaseAccounting other phase = phaseAccounting state phase := by
  have hrecords := h.records phase
  unfold phaseAccounting
  simp only [hrecords.length_eq, (hrecords.filter _).length_eq, allVerified_perm hrecords,
    dispositionCounts_perm (hrecords.filter _), h.nonTcpNetworkCounts, h.dnsCounts]

theorem exactDelta (h : Alike state other) :
    (exactDeltaEndpoints other).Perm (exactDeltaEndpoints state) := by
  unfold exactDeltaEndpoints
  refine less_perm (h.endpoints _) ?_
  exact .cons (h.endpoints _) (.cons (h.endpoints _) .nil)

theorem exactDeltaRecords_perm (h : Alike state other) :
    (exactDeltaRecords env other).Perm (exactDeltaRecords env state) := by
  have hsame : inExactDelta env other = inExactDelta env state := by
    funext verified
    unfold inExactDelta
    simp only [h.exactDelta.mem_iff]
  unfold exactDeltaRecords
  rw [hsame]
  exact (h.records _).filter _

theorem discoveryDeltaSource_eq (h : Alike state other) :
    discoveryDeltaSource env runId other = discoveryDeltaSource env runId state := by
  have hperm := @exactDeltaRecords_perm env state other h
  have hempty : exactDeltaRecords env other = [] ↔ exactDeltaRecords env state = [] := by
    rw [← List.length_eq_zero_iff, ← List.length_eq_zero_iff, hperm.length_eq]
  unfold discoveryDeltaSource
  simp only [hempty, digestFlowRecords_perm runId _ hperm, allVerified_perm hperm]

theorem summaryDeltas_eq (h : Alike state other) : summaryDeltas other = summaryDeltas state := by
  have hlogin := h.endpoints .c2Login
  have hbefore : List.Forall₂ List.Perm
      [other.endpoints .c0Baseline, other.endpoints .c1DiscoveryNegative,
        other.endpoints .c1DiscoveryExact]
      [state.endpoints .c0Baseline, state.endpoints .c1DiscoveryNegative,
        state.endpoints .c1DiscoveryExact] :=
    .cons (h.endpoints _) (.cons (h.endpoints _) (.cons (h.endpoints _) .nil))
  have hafter := List.rel_append hbefore (.cons hlogin .nil)
  have hcommon : ((other.endpoints .c1DiscoveryNegative).filter
        (· ∈ other.endpoints .c1DiscoveryExact)).Perm
      ((state.endpoints .c1DiscoveryNegative).filter
        (· ∈ state.endpoints .c1DiscoveryExact)) := by
    simp only [(h.endpoints .c1DiscoveryExact).mem_iff]
    exact (h.endpoints _).filter _
  unfold summaryDeltas
  dsimp only
  rw [sortedNames_perm hcommon, sortedNames_perm h.exactDelta,
    sortedNames_perm (less_perm hlogin hbefore),
    sortedNames_perm (less_perm (h.endpoints .c2Connected) hafter),
    sortedNames_perm (less_perm (h.endpoints .c2Reconnect) hafter)]

theorem unexpected_eq (h : Alike state other) (candidateText : Option String) :
    (NetworkPhase.direct.map fun phase => (phase, sortedNames
      ((other.endpoints phase).filter fun endpoint => some endpoint ≠ candidateText))) =
    NetworkPhase.direct.map fun phase => (phase, sortedNames
      ((state.endpoints phase).filter fun endpoint => some endpoint ≠ candidateText)) := by
  apply List.map_congr_left
  intro phase _
  rw [sortedNames_perm ((h.endpoints phase).filter _)]

theorem endpointSets_eq (h : Alike state other) :
    (NetworkPhase.named.map fun phase => (phase, sortedNames (other.endpoints phase))) =
      NetworkPhase.named.map fun phase => (phase, sortedNames (state.endpoints phase)) := by
  apply List.map_congr_left
  intro phase _
  rw [sortedNames_perm (h.endpoints phase)]

theorem summaryOf_eq (h : Alike state other) (sourceSha256 : String)
    (candidateText : Option String) (accounting : List (NetworkPhase × PhaseAccounting)) :
    summaryOf env runId other sourceSha256 candidateText accounting =
      summaryOf env runId state sourceSha256 candidateText accounting := by
  have hflows : (allFlowRecords other).Perm (allFlowRecords state) :=
    List.Perm.flatMap_left _ fun phase _ => h.records phase
  unfold summaryOf
  dsimp only
  rw [digestFlowRecords_perm runId _ hflows, allVerified_perm hflows, h.total, h.networkCounts,
    h.nonTcpNetworkCounts, h.dnsCounts, h.candidateCounts, h.unphasedRelevant,
    h.discoveryDeltaSource_eq, h.summaryDeltas_eq, h.unexpected_eq, h.endpointSets_eq]

end Alike

end TradeJournalWorker.Lab
