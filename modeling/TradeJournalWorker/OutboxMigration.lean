import TradeJournalWorker.ExceptRules
import TradeJournalWorker.JsonSorting
import TradeJournalWorker.StableSorting

namespace TradeJournalWorker.OutboxFile

open JsonValue StableSorting

/-- The texts of the `OutboxError`s of a load. -/
inductive LoadError where
  | rootNotObject
  | deadLetterNotObject
  | legacyPendingNotObject
  | pendingNotArray
  | versionUnsupported
  | payloadNotObject
  | eventIdMissing
  | eventIdIncoherent (part : String)
  | pendingDuplicate
  | deadLetterRecord
  | eventInTwoStates
  deriving DecidableEq, Repr

/-- What `datetime.fromisoformat` reads: an instant and, for an aware time, its offset. -/
structure ParsedTime where
  instant : Int
  utcOffset : Option Int
  deriving DecidableEq, Repr

structure JsonState where
  pending : List JsonValue
  deadLetter : List (String × JsonValue)

def formatVersion : Int := 2

def legacyFormatVersion : Int := 1

/-- `_validate_payload`; the result is the event id. -/
def eventIdOf (payload : JsonValue) : Except LoadError String :=
  match payload with
  | .obj members =>
    match members.lookup "event_id" with
    | some (.str eventId) => if eventId = "" then .error .eventIdMissing else .ok eventId
    | _ => .error .eventIdMissing
  | _ => .error .payloadNotObject

/-- `_validate_keyed_payload`. -/
def validateKeyedPayload (eventId : String) (payload : JsonValue) (part : String) :
    Except LoadError Unit := do
  let own ← eventIdOf payload
  if own = eventId then return () else .error (.eventIdIncoherent part)

/-- The ids of the pending payloads, none of them twice. -/
def validatePendingIds (seen : List String) : List JsonValue → Except LoadError (List String)
  | [] => .ok seen
  | payload :: rest => do
    let eventId ← eventIdOf payload
    if eventId ∈ seen then .error .pendingDuplicate else validatePendingIds (eventId :: seen) rest

def validateLetter (pendingIds : List String) (letter : String × JsonValue) :
    Except LoadError Unit :=
  match letter.2 with
  | .obj members =>
    match members.lookup "payload" with
    | some (.obj payload) => do
      validateKeyedPayload letter.1 (.obj payload) "dead-letter"
      if letter.1 ∈ pendingIds then .error .eventInTwoStates else return ()
    | _ => .error .deadLetterRecord
  | _ => .error .deadLetterRecord

/-- `_validate_state`. -/
def validateJsonState (state : JsonState) : Except LoadError Unit := do
  let pendingIds ← validatePendingIds [] state.pending
  state.deadLetter.forM (validateLetter pendingIds)

section Order

variable (fromIsoformat : String → Option ParsedTime)

/-- The text with `+00:00` in place of a `Z` at its end. -/
def normalizedTime (text : String) : String :=
  if text.toList.getLast? = some 'Z' then String.ofList text.toList.dropLast ++ "+00:00" else text

/-- The instant of an `event_time` that is an aware time in UTC. -/
def utcInstant (payload : JsonValue) : Option Int :=
  match payload with
  | .obj members =>
    match members.lookup "event_time" with
    | some (.str text) =>
      match fromIsoformat (normalizedTime text) with
      | some parsed => if parsed.utcOffset = some 0 then some parsed.instant else none
      | none => none
    | _ => none
  | _ => none

/-- `_order_legacy_pending`. -/
def orderLegacyPending (payloads : List JsonValue) : List JsonValue :=
  match payloads.mapM (utcInstant fromIsoformat) with
  | none => payloads
  | some instants => (stableSort Prod.fst (instants.zip payloads)).map Prod.snd

/-- `_load` of a file that is there; the flag says that a migration is required. -/
def load (document : JsonValue) : Except LoadError (JsonState × Bool) :=
  match document with
  | .obj members =>
    let version := JsonValue.get members "version"
    match members.lookup "dead_letter" with
    | some (.obj deadLetter) =>
      if version.equals (.int legacyFormatVersion) then
        match members.lookup "pending" with
        | some (.obj legacy) => do
          legacy.forM fun entry => validateKeyedPayload entry.1 entry.2 "pending"
          let state : JsonState :=
            { pending := orderLegacyPending fromIsoformat (legacy.map Prod.snd), deadLetter }
          validateJsonState state
          return (state, true)
        | _ => .error .legacyPendingNotObject
      else if version.equals (.int formatVersion) then
        match members.lookup "pending" with
        | some (.arr pending) => do
          validateJsonState { pending, deadLetter }
          return ({ pending, deadLetter }, false)
        | _ => .error .pendingNotArray
      else .error .versionUnsupported
    | _ => .error .deadLetterNotObject
  | _ => .error .rootNotObject

def JsonState.members (state : JsonState) : List (String × JsonValue) :=
  [("version", .int formatVersion), ("pending", .arr state.pending),
    ("dead_letter", .obj state.deadLetter)]

/-- The state as the dictionary that it is in memory. -/
def JsonState.document (state : JsonState) : JsonValue := .obj state.members

/-- What `_persist` writes. -/
def persisted (state : JsonState) : JsonValue := sortKeys state.document

end Order

section Validation

theorem eventIdOf_ok {payload : JsonValue} {eventId : String} (h : eventIdOf payload = .ok eventId) :
    ∃ members, payload = .obj members ∧ members.lookup "event_id" = some (.str eventId) := by
  unfold eventIdOf at h
  split at h
  next members =>
    split at h
    next own hown =>
      split at h
      next => cases h
      next =>
        cases h
        exact ⟨members, rfl, hown⟩
    next => cases h
  next => cases h

/-- An object is validated by what it has under its keys. -/
theorem eventIdOf_sortKeys {payload : JsonValue} (hunique : UniqueKeys payload) {eventId : String}
    (h : eventIdOf payload = .ok eventId) : eventIdOf (sortKeys payload) = .ok eventId := by
  obtain ⟨members, rfl, hlookup⟩ := eventIdOf_ok h
  rw [sortKeys_obj]
  unfold eventIdOf at h ⊢
  simp only [lookup_sortedMembers (uniqueKeys_obj.mp hunique).1, hlookup] at h ⊢
  exact h

theorem validateKeyed_sortKeys {payload : JsonValue} (hunique : UniqueKeys payload)
    {eventId part : String} (h : validateKeyedPayload eventId payload part = .ok ()) :
    validateKeyedPayload eventId (sortKeys payload) part = .ok () := by
  unfold validateKeyedPayload at h ⊢
  obtain ⟨own, hown, h⟩ := except_bind_eq_ok h
  rw [eventIdOf_sortKeys hunique hown]
  exact h

theorem validatePendingIds_sortKeys {pending : List JsonValue}
    (hunique : ∀ payload ∈ pending, UniqueKeys payload) {seen ids : List String}
    (h : validatePendingIds seen pending = .ok ids) :
    validatePendingIds seen (pending.map sortKeys) = .ok ids := by
  induction pending generalizing seen with
  | nil => exact h
  | cons payload rest ih =>
    unfold validatePendingIds at h
    obtain ⟨own, hown, h⟩ := except_bind_eq_ok h
    rw [List.map_cons]
    unfold validatePendingIds
    rw [eventIdOf_sortKeys (hunique payload List.mem_cons_self) hown]
    show (if own ∈ seen then _ else _ : Except LoadError (List String)) = _
    split at h
    next => cases h
    next hfresh =>
      rw [if_neg hfresh]
      exact ih (fun other hother => hunique other (List.mem_cons_of_mem _ hother)) h

theorem validateLetter_sortKeys {letter : String × JsonValue} (hunique : UniqueKeys letter.2)
    {ids : List String} (h : validateLetter ids letter = .ok ()) :
    validateLetter ids (letter.1, sortKeys letter.2) = .ok () := by
  unfold validateLetter at h
  split at h
  next members hmembers =>
    split at h
    next payload hpayload =>
      rw [hmembers] at hunique ⊢
      obtain ⟨hnodup, hvalues⟩ := uniqueKeys_obj.mp hunique
      have hinner : UniqueKeys (.obj payload) := hvalues _ ((mem_iff_lookup hnodup).mpr hpayload)
      obtain ⟨checked, hkeyed, h⟩ := except_bind_eq_ok h
      have hsorted := validateKeyed_sortKeys hinner hkeyed
      rw [sortKeys_obj] at hsorted
      rw [sortKeys_obj]
      unfold validateLetter
      simp only [lookup_sortedMembers hnodup, hpayload, Option.map_some, sortKeys_obj]
      rw [hsorted]
      exact h
    next => cases h
  next => cases h

theorem validateJsonState_sortKeys {state : JsonState}
    (hpending : ∀ payload ∈ state.pending, UniqueKeys payload)
    (hletters : UniqueKeys (.obj state.deadLetter)) (h : validateJsonState state = .ok ()) :
    validateJsonState
      { pending := state.pending.map sortKeys, deadLetter := sortedMembers state.deadLetter } =
        .ok () := by
  unfold validateJsonState at h ⊢
  obtain ⟨ids, hids, h⟩ := except_bind_eq_ok h
  have hall := forM_ok_iff.mp h
  dsimp only
  rw [validatePendingIds_sortKeys hpending hids]
  refine forM_ok_iff.mpr fun letter hletter => ?_
  have hmem := (sortedMembers_perm state.deadLetter).mem_iff.mp hletter
  obtain ⟨old, hold, rfl⟩ := List.mem_map.mp hmem
  exact validateLetter_sortKeys ((uniqueKeys_obj.mp hletters).2 old hold) (hall old hold)

end Validation

section Migration

variable {fromIsoformat : String → Option ParsedTime}

theorem orderLegacy_of_all {payloads : List JsonValue}
    (h : ∀ payload ∈ payloads, (utcInstant fromIsoformat payload).isSome) :
    StablySorted (fun payload => (utcInstant fromIsoformat payload).getD 0) payloads
      (orderLegacyPending fromIsoformat payloads) := by
  have hall : payloads.mapM (utcInstant fromIsoformat) =
      some (payloads.map fun payload => (utcInstant fromIsoformat payload).getD 0) := by
    induction payloads with
    | nil => rfl
    | cons payload rest ih =>
      obtain ⟨instant, hinstant⟩ := Option.isSome_iff_exists.mp (h payload List.mem_cons_self)
      rw [List.mapM_cons, ih fun other hother => h other (List.mem_cons_of_mem _ hother),
        hinstant, List.map_cons, hinstant]
      rfl
  unfold orderLegacyPending
  rw [hall]
  have hzip : ∀ (time : JsonValue → Int) (payloads : List JsonValue),
      (payloads.map time).zip payloads = payloads.map fun payload => (time payload, payload) := by
    intro time payloads
    induction payloads with
    | nil => rfl
    | cons payload rest ih => simp [ih]
  simp only [hzip]
  have hsorted := stableSort_spec Prod.fst
    (payloads.map fun payload => ((utcInstant fromIsoformat payload).getD 0, payload))
  exact hsorted.comap Prod.snd fun payload => rfl

theorem orderLegacy_of_none {payloads : List JsonValue}
    (h : ∃ payload ∈ payloads, utcInstant fromIsoformat payload = none) :
    orderLegacyPending fromIsoformat payloads = payloads := by
  have hnone : payloads.mapM (utcInstant fromIsoformat) = none := by
    obtain ⟨payload, hmem, hpayload⟩ := h
    induction payloads with
    | nil => exact absurd hmem List.not_mem_nil
    | cons head rest ih =>
      rw [List.mapM_cons]
      rcases List.mem_cons.mp hmem with rfl | hrest
      · rw [hpayload]
        rfl
      · rw [ih hrest]
        cases utcInstant fromIsoformat head with
        | none => rfl
        | some instant => rfl
  unfold orderLegacyPending
  rw [hnone]

theorem orderLegacy_perm (payloads : List JsonValue) :
    (orderLegacyPending fromIsoformat payloads).Perm payloads := by
  by_cases hall : ∀ payload ∈ payloads, (utcInstant fromIsoformat payload).isSome
  · exact (orderLegacy_of_all hall).perm
  · have hsome : ∃ payload ∈ payloads, utcInstant fromIsoformat payload = none := by
      simpa using hall
    rw [orderLegacy_of_none hsome]

theorem nodup_members (state : JsonState) : (state.members.map Prod.fst).Nodup := by
  simp [JsonState.members]

/-- A state that was accepted is read back from what is persisted of it, with nothing to
migrate. -/
theorem load_persisted {state : JsonState} (hpending : ∀ payload ∈ state.pending, UniqueKeys payload)
    (hletters : UniqueKeys (.obj state.deadLetter)) (h : validateJsonState state = .ok ()) :
    ∃ again, load fromIsoformat (persisted state) = .ok (again, false) ∧
      state.document.equals again.document = true := by
  refine ⟨⟨state.pending.map sortKeys, sortedMembers state.deadLetter⟩, ?_, ?_⟩
  · have hvalid := validateJsonState_sortKeys hpending hletters h
    have hnodup := nodup_members state
    have hversion : (sortedMembers state.members).lookup "version" = some (.int formatVersion) :=
      lookup_sortedMembers hnodup "version"
    have hitems : (sortedMembers state.members).lookup "pending" =
        some (.arr (state.pending.map sortKeys)) := by
      rw [lookup_sortedMembers hnodup, ← sortKeys_arr]
      rfl
    have hdead : (sortedMembers state.members).lookup "dead_letter" =
        some (.obj (sortedMembers state.deadLetter)) := by
      rw [lookup_sortedMembers hnodup, ← sortKeys_obj]
      rfl
    unfold persisted JsonState.document
    rw [sortKeys_obj]
    unfold load JsonValue.get
    simp only [hversion, hitems, hdead, Option.getD_some]
    rw [if_neg (by decide), if_pos (by decide), hvalid]
    rfl
  · have hitems : equals.equalItems state.pending (state.pending.map sortKeys) = true :=
      equalItems_sortKeys fun payload hmem => equals_sortKeys (hpending payload hmem)
    have hobject := equals_sortKeys hletters
    rw [sortKeys_obj] at hobject
    unfold JsonState.document
    have hsplit : ∀ a b : List (String × JsonValue), (JsonValue.obj a).equals (.obj b) =
        (decide (a.length = b.length) && equals.equalMembers a b) := fun a b => rfl
    rw [hsplit, equalMembers_of_lookup]
    · rfl
    · intro member hmember
      simp only [JsonState.members, List.mem_cons, List.not_mem_nil, or_false] at hmember
      rcases hmember with rfl | rfl | rfl
      · exact ⟨_, rfl, rfl⟩
      · exact ⟨_, rfl, hitems⟩
      · exact ⟨_, rfl, hobject⟩

/-- What the load of an accepted file of version 1 goes through. -/
theorem load_legacy {document : JsonValue} {state : JsonState}
    (h : load fromIsoformat document = .ok (state, true)) :
    ∃ members legacy, document = .obj members ∧
      (JsonValue.get members "version").equals (.int legacyFormatVersion) = true ∧
      members.lookup "pending" = some (.obj legacy) ∧
      members.lookup "dead_letter" = some (.obj state.deadLetter) ∧
      state.pending = orderLegacyPending fromIsoformat (legacy.map Prod.snd) ∧
      validateJsonState state = .ok () := by
  unfold load at h
  split at h
  next members =>
    simp only at h
    split at h
    next deadLetter hdead =>
      split at h
      next hversion =>
        split at h
        next legacy hlegacy =>
          obtain ⟨-, -, h⟩ := except_bind_eq_ok h
          obtain ⟨checked, hvalid, h⟩ := except_bind_eq_ok h
          cases h
          exact ⟨members, legacy, rfl, hversion, hlegacy, hdead, rfl, hvalid⟩
        next => cases h
      next =>
        split at h
        next =>
          split at h
          next =>
            obtain ⟨-, -, h⟩ := except_bind_eq_ok h
            cases h
          next => cases h
        next => cases h
    next => cases h
  next => cases h

/-- An accepted file of version 1 keeps its dead letters and its pending payloads, stably sorted
when every `event_time` is an aware time in UTC and as they were otherwise; what is persisted is
loaded again as the same state without a migration. -/
theorem migration_exact {document : JsonValue} {state : JsonState} (hunique : UniqueKeys document)
    (h : load fromIsoformat document = .ok (state, true)) :
    ∃ members legacy, document = .obj members ∧
      members.lookup "pending" = some (.obj legacy) ∧
      members.lookup "dead_letter" = some (.obj state.deadLetter) ∧
      state.pending.Perm (legacy.map Prod.snd) ∧
      ((∀ payload ∈ legacy.map Prod.snd, (utcInstant fromIsoformat payload).isSome) →
        StablySorted (fun payload => (utcInstant fromIsoformat payload).getD 0)
          (legacy.map Prod.snd) state.pending) ∧
      ((∃ payload ∈ legacy.map Prod.snd, utcInstant fromIsoformat payload = none) →
        state.pending = legacy.map Prod.snd) ∧
      ∃ again, load fromIsoformat (persisted state) = .ok (again, false) ∧
        state.document.equals again.document = true := by
  obtain ⟨members, legacy, rfl, -, hlegacy, hdead, hpending, hvalid⟩ := load_legacy h
  obtain ⟨hnodup, hvalues⟩ := uniqueKeys_obj.mp hunique
  have hperm := @orderLegacy_perm fromIsoformat (legacy.map Prod.snd)
  have hlegacyUnique := uniqueKeys_obj.mp (hvalues _ ((mem_iff_lookup hnodup).mpr hlegacy))
  have hpayloads : ∀ payload ∈ state.pending, UniqueKeys payload := by
    intro payload hmem
    rw [hpending, hperm.mem_iff] at hmem
    obtain ⟨entry, hentry, rfl⟩ := List.mem_map.mp hmem
    exact hlegacyUnique.2 entry hentry
  have hletters : UniqueKeys (.obj state.deadLetter) :=
    hvalues _ ((mem_iff_lookup hnodup).mpr hdead)
  refine ⟨members, legacy, rfl, hlegacy, hdead, ?_, fun hall => ?_, fun hnone => ?_,
    load_persisted hpayloads hletters hvalid⟩
  · rw [hpending]
    exact hperm
  · rw [hpending]
    exact orderLegacy_of_all hall
  · rw [hpending]
    exact orderLegacy_of_none hnone

/-- A file of version 1 with one pending payload. -/
def legacySample : JsonValue :=
  .obj [("version", .int 1), ("dead_letter", .obj []),
    ("pending", .obj [("a", .obj [("event_id", .str "a"), ("event_time", .str "t")])])]

theorem migration_exact_sample : ∃ state : JsonState,
    load (fun _ => some ⟨0, some 0⟩) legacySample = .ok (state, true) ∧
      ∃ again, load (fun _ => some ⟨0, some 0⟩) (persisted state) = .ok (again, false) ∧
        state.document.equals again.document = true := by
  have hload : load (fun _ => some ⟨0, some 0⟩) legacySample =
      .ok (⟨[.obj [("event_id", .str "a"), ("event_time", .str "t")]], []⟩, true) := rfl
  have hunique : UniqueKeys legacySample := by
    simp [legacySample, UniqueKeys, UniqueKeys.uniqueMembers]
  obtain ⟨-, -, -, -, -, -, -, -, hagain⟩ := migration_exact hunique hload
  exact ⟨_, hload, hagain⟩

end Migration

end TradeJournalWorker.OutboxFile
