import Mathlib.Data.List.Perm.Basic
import TradeJournalWorker.EventCheckpoint

namespace TradeJournalWorker

open FaultProgram

section Reading

def EventFile.number (file : EventFile) : Nat := (eventNumber file.name).getD 0

instance (through : Nat) (file : EventFile) : Decidable (file.Above through) :=
  decidable_of_iff ((eventNumber file.name).any (through < ·) = true) (by
    unfold EventFile.Above
    cases eventNumber file.name with
    | none => simp
    | some number => simp)

/-- A plain file whose envelope is the one of this account and carries the number of the name. -/
def EventFile.Holds (config : AdapterConfig) (file : EventFile) (number : Nat)
    (ownSequence : Option Nat) (record : EventRecord) : Prop :=
  file.regular = true ∧ eventNumber file.name = some number ∧
    readPathEnvelope config file.content = .ok (number, .record ownSequence record)

/-- The event that `pending_events` gives of a file. -/
def EventFile.OfferedAs (config : AdapterConfig) (tickets : List String) (file : EventFile)
    (event : EventRecord) : Prop :=
  ∃ number ownSequence record, file.Holds config number ownSequence record ∧
    event = record.offered tickets number ownSequence

/-- One event for each file above the number, in the order of the numbers. -/
structure OffersAbove (config : AdapterConfig) (tickets : List String) (last : Nat)
    (files chosen : List EventFile) (events : List EventRecord) : Prop where
  exact : chosen.Perm (files.filter fun file => file.Above last)
  ascending : chosen.Pairwise fun a b => a.number ≤ b.number
  once : ((files.filter fun file => file.Above last).map EventFile.number).Nodup →
    chosen.Pairwise fun a b => a.number < b.number
  offered : List.Forall₂ (EventFile.OfferedAs config tickets) chosen events

variable {config : AdapterConfig} {locked : String → Bool} {tickets : List String} {last : Nat}

/-- What one round of the loop finds out about its file. -/
theorem readEvent_ok {file : EventFile} {found : Option (Nat × EventRecord)}
    (h : readEvent config locked tickets last file = .ok found) :
    (found = none ∧ ¬ file.Above last) ∨
      ∃ event, found = some (file.number, event) ∧ file.Above last ∧
        file.OfferedAs config tickets event := by
  unfold readEvent at h
  split at h
  next hnone =>
    cases h
    refine Or.inl ⟨rfl, fun habove => ?_⟩
    obtain ⟨number, hnumber, _⟩ := habove
    rw [hnone] at hnumber
    cases hnumber
  next number hnumber =>
    split at h
    next => cases h
    next hregular =>
      split at h
      next hle =>
        cases h
        refine Or.inl ⟨rfl, fun habove => ?_⟩
        obtain ⟨other, hother, hlt⟩ := habove
        rw [hnumber] at hother
        cases hother
        omega
      next hgt =>
        split at h
        next => cases h
        next =>
          split at h
          next => cases h
          next => cases h
          next sequence own record hread =>
            split at h
            next => cases h
            next hsame =>
              cases h
              have hsequence : sequence = number := by simpa using hsame
              have hown : file.number = number := by
                unfold EventFile.number
                simp [hnumber]
              refine Or.inr ⟨record.offered tickets number own, by rw [hown], ?_, ?_⟩
              · exact ⟨number, hnumber, by omega⟩
              · refine ⟨number, own, record, ⟨by simpa using hregular, hnumber, ?_⟩, rfl⟩
                rw [hread, hsequence]

theorem readEvent_of_holds {file : EventFile}
    (hregular : (eventNumber file.name).isSome → file.regular = true)
    (hlocked : locked file.name = false)
    (hreadable : file.Above last → ∃ number own record, file.Holds config number own record) :
    ∃ found, readEvent config locked tickets last file = .ok found := by
  unfold readEvent
  split
  next => exact ⟨none, rfl⟩
  next number hnumber =>
    have hplain := hregular (by simp [hnumber])
    rw [if_neg (by simpa using hplain)]
    by_cases hle : number ≤ last
    · exact ⟨none, if_pos hle⟩
    · obtain ⟨other, own, record, _, hother, hread⟩ :=
        hreadable ⟨number, hnumber, by omega⟩
      rw [hnumber] at hother
      cases hother
      rw [if_neg hle, if_neg (by simp [hlocked]), hread]
      exact ⟨_, if_neg (by simp)⟩

/-- The pairs that the loop collects belong to the files above the checkpoint, one to each. -/
theorem collected_files {files : List EventFile} {found : List (Option (Nat × EventRecord))}
    (h : List.Forall₂ (fun file pair => readEvent config locked tickets last file = .ok pair)
      files found) :
    List.Forall₂ (fun file (pair : Nat × EventRecord) => file.number = pair.1 ∧
        file.OfferedAs config tickets pair.2)
      (files.filter fun file => file.Above last) found.reduceOption := by
  induction h with
  | nil => exact .nil
  | cons hfile _ ih =>
    rcases readEvent_ok hfile with ⟨rfl, hbelow⟩ | ⟨event, rfl, habove, hoffered⟩
    · rw [List.reduceOption_cons_of_none, List.filter_cons_of_neg (by simpa using hbelow)]
      exact ih
    · rw [List.reduceOption_cons_of_some, List.filter_cons_of_pos (by simpa using habove)]
      exact .cons ⟨rfl, hoffered⟩ ih

theorem offersAbove_sorted {files : List EventFile} {found : List (Option (Nat × EventRecord))}
    (h : List.Forall₂ (fun file pair => readEvent config locked tickets last file = .ok pair)
      files found) :
    ∃ chosen, OffersAbove config tickets last files chosen
      ((sortEvents found.reduceOption).map Prod.snd) := by
  have hsorted : (sortEvents found.reduceOption).Perm found.reduceOption :=
    List.perm_insertionSort _ _
  have hordered : (sortEvents found.reduceOption).Pairwise fun a b => a.1 ≤ b.1 := by
    unfold sortEvents
    have htotal : Std.Total fun a b : Nat × EventRecord => a.1 ≤ b.1 := ⟨fun a b => le_total _ _⟩
    have htrans : IsTrans (Nat × EventRecord) fun a b => a.1 ≤ b.1 := ⟨fun _ _ _ => le_trans⟩
    exact List.pairwise_insertionSort _ _
  obtain ⟨chosen, hpairs, hchosen⟩ := List.perm_comp_forall₂ hsorted (collected_files h).flip
  have hnumbers : chosen.map EventFile.number = (sortEvents found.reduceOption).map Prod.fst := by
    rw [← List.forall₂_eq_eq_eq, List.forall₂_map_left_iff, List.forall₂_map_right_iff]
    exact hpairs.flip.imp fun _ _ hpair => hpair.1
  have hascending : (chosen.map EventFile.number).Pairwise (· ≤ ·) := by
    rw [hnumbers]
    exact List.pairwise_map.mpr hordered
  refine ⟨chosen, hchosen, List.pairwise_map.mp hascending, fun hnodup => ?_, ?_⟩
  · have hdistinct : (chosen.map EventFile.number).Nodup :=
      (hchosen.map EventFile.number).nodup_iff.mpr hnodup
    have hstrict := hascending.and hdistinct
    exact (List.pairwise_map.mp hstrict).imp fun hboth => by omega
  · rw [List.forall₂_map_right_iff]
    exact hpairs.flip.imp fun _ _ hpair => hpair.2

end Reading

section Calls

variable (config : AdapterConfig)

/-- The files are plain and readable and nothing gets in the way of what is left of a call. -/
structure Unhindered (last : Nat) (env : EventEnv) (store : EventStore) : Prop where
  unlinks : ∀ answer ∈ env.unlinks, answer = .done
  unlocked : ∀ name, env.locked name = false
  handoff : ∃ tickets, env.handoff = .ok tickets
  regular : ∀ file, file ∈ store.files ∨ file ∈ env.arrivals →
    (eventNumber file.name).isSome → file.regular = true
  readable : ∀ file, file ∈ store.files ∨ file ∈ env.arrivals →
    file.Above last → ∃ number own record, file.Holds config number own record

/-- Nothing gets in the way of the call. -/
structure Undisturbed (env : EventEnv) (store : EventStore) : Prop where
  valid : 0 ≤ store.number
  directory : store.directory ≠ .invalid
  unhindered : Unhindered config store.number.toNat env store

variable {config}

theorem collectEvents_offers (last : Nat) :
    Triple (fun _ _ => True) (collectEvents config last)
      (returning
        (fun events env store => ∃ tickets chosen, env.handoff = .ok tickets ∧
          OffersAbove config tickets last store.files chosen events)
        fun _ _ => True) := by
  unfold collectEvents
  refine triple_after fun _ => ?_
  refine triple_readEnv fun env => ?_
  refine triple_read fun store => ?_
  split
  next => exact triple_raise _ fun _ _ _ => trivial
  next tickets hhandoff =>
    split
    next => exact triple_raise _ fun _ _ _ => trivial
    next found hfound =>
      rintro current world ⟨⟨_, rfl⟩, rfl⟩
      obtain ⟨chosen, hchosen⟩ := offersAbove_sorted (forall₂_of_mapM hfound)
      exact ⟨tickets, chosen, hhandoff, hchosen⟩

/-- A call that returns has one event for each file above the checkpoint. -/
theorem pendingEventFiles_offers {env rest : EventEnv} {store after : EventStore}
    {events : List EventRecord}
    (h : pendingEventFiles config env store = (.returned events, rest, after)) :
    ∃ tickets chosen, (rest.handoff = .ok tickets ∨ events = []) ∧
      OffersAbove config tickets store.number.toNat after.files chosen events := by
  have hcall : Triple (fun _ world => world = store) (pendingEventFiles config)
      (returning
        (fun events env world => ∃ tickets chosen, (env.handoff = .ok tickets ∨ events = []) ∧
          OffersAbove config tickets store.number.toNat world.files chosen events)
        fun _ _ => True) := by
    unfold pendingEventFiles
    refine triple_read fun start => ?_
    split
    next => exact triple_raise _ fun _ _ _ => trivial
    next last _ hmissing =>
      rintro current world ⟨rfl, rfl⟩
      have hnone : world.files = [] := by
        unfold EventStore.files
        rw [hmissing]
      show ∃ tickets chosen, _ ∧ OffersAbove config tickets _ world.files chosen []
      rw [hnone]
      exact ⟨[], [], Or.inr rfl, .refl _, .nil, fun _ => .nil, .nil⟩
    next => exact triple_raise _ fun _ _ _ => trivial
    next last files hlast _ =>
      rintro current world ⟨rfl, rfl⟩
      have hnumber : world.number.toNat = last := (lastSequenceOf_ok hlast).1
      rw [hnumber]
      refine triple_after (fun _ => ?_) current world trivial
      refine (collectEvents_offers last).weaken (fun _ _ h => h) fun exit env store hoffers => ?_
      refine returning_mono ?_ (fun _ _ h => h) exit env store hoffers
      rintro events env store ⟨tickets, chosen, hhandoff, hoffered⟩
      exact ⟨tickets, chosen, Or.inl hhandoff, hoffered⟩
  have hreturned := hcall env store rfl
  rw [h] at hreturned
  exact hreturned

theorem mem_remove {store : EventStore} {name : String} {file : EventFile}
    (h : file ∈ (store.remove name).files) : file ∈ store.files := by
  unfold EventStore.remove EventStore.files at h
  unfold EventStore.files
  cases hdirectory : store.directory with
  | missing => simp [hdirectory] at h
  | invalid => simp [hdirectory] at h
  | present files =>
    simp only [hdirectory] at h
    exact List.mem_of_mem_filter h

theorem mem_arrive {store : EventStore} {file other : EventFile}
    (h : other ∈ (store.arrive file).files) : other ∈ store.files ∨ other = file := by
  unfold EventStore.arrive EventStore.files at h
  unfold EventStore.files
  cases hdirectory : store.directory with
  | missing =>
    simp only [hdirectory] at h
    exact Or.inr (List.mem_singleton.mp h)
  | invalid => simp [hdirectory] at h
  | present files =>
    simp only [hdirectory] at h ⊢
    by_cases hused : file.name ∈ files.map EventFile.name
    · simp only [if_pos hused] at h
      obtain ⟨kept, hkept, rfl⟩ := List.mem_map.mp h
      by_cases hname : kept.name = file.name
      · exact Or.inr (if_pos hname)
      · rw [if_neg hname]
        exact Or.inl hkept
    · simp only [if_neg hused] at h
      rcases List.mem_append.mp h with hold | hnew
      · exact Or.inl hold
      · exact Or.inr (List.mem_singleton.mp hnew)

theorem mem_arrivals {store : EventStore} {files : List EventFile} {other : EventFile}
    (h : other ∈ (files.foldl EventStore.arrive store).files) :
    other ∈ store.files ∨ other ∈ files := by
  induction files generalizing store with
  | nil => exact Or.inl h
  | cons file rest ih =>
    rcases ih h with harrived | hrest
    · rcases mem_arrive harrived with hold | rfl
      · exact Or.inl hold
      · exact Or.inr List.mem_cons_self
    · exact Or.inr (List.mem_cons_of_mem _ hrest)

theorem Unhindered.remove {last : Nat} {env : EventEnv} {store : EventStore}
    (h : Unhindered config last env store) (name : String) :
    Unhindered config last env (store.remove name) := by
  refine ⟨h.unlinks, h.unlocked, h.handoff, fun file hfile => h.regular file ?_,
    fun file hfile => h.readable file ?_⟩
  · exact hfile.imp_left mem_remove
  · exact hfile.imp_left mem_remove

theorem Unhindered.arrivals {last : Nat} {env : EventEnv} {store : EventStore}
    (h : Unhindered config last env store) :
    Unhindered config last env (env.arrivals.foldl EventStore.arrive store) := by
  have hback : ∀ file, file ∈ (env.arrivals.foldl EventStore.arrive store).files ∨
      file ∈ env.arrivals → file ∈ store.files ∨ file ∈ env.arrivals := by
    intro file hfile
    rcases hfile with hthere | hnew
    · exact mem_arrivals hthere
    · exact Or.inr hnew
  exact ⟨h.unlinks, h.unlocked, h.handoff, fun file hfile => h.regular file (hback file hfile),
    fun file hfile => h.readable file (hback file hfile)⟩

/-- The program returns and leaves the rest of the call unhindered. -/
theorem pruneAcknowledged_returns {last : Nat} (through : Nat) {listed : List EventFile}
    (hregular : ∀ file ∈ listed, (eventNumber file.name).isSome → file.regular = true) :
    Triple (Unhindered config last) (pruneAcknowledged through listed)
      (returning (fun _ => Unhindered config last) fun _ _ => False) := by
  induction listed with
  | nil => exact triple_pure _ fun _ _ h => h
  | cons file rest ih =>
    have hrest := ih fun other hother => hregular other (List.mem_cons_of_mem _ hother)
    unfold pruneAcknowledged
    split
    next => exact hrest
    next number hnumber =>
      split
      next => exact hrest
      next =>
        have hplain := hregular file List.mem_cons_self (by simp [hnumber])
        rw [if_neg (by simpa using hplain)]
        refine triple_returning ?_ fun _ => hrest
        refine triple_write fun env store hfree => ?_
        have hanswer : (EventEnv.nextUnlink env).1 = .done := by
          show WriteAnswer.mapError _ (nextAnswer .done env.unlinks).1 = .done
          rcases nextAnswer_fst_mem .done env.unlinks with hdone | hmem
          · rw [hdone]
            rfl
          · rw [hfree.unlinks _ hmem]
            rfl
        have hleft : Unhindered config last (EventEnv.nextUnlink env).2 store :=
          ⟨fun answer hmem => hfree.unlinks answer (nextAnswer_snd_subset env.unlinks hmem),
            hfree.unlocked, hfree.handoff, hfree.regular, hfree.readable⟩
        rw [hanswer]
        exact hleft.remove file.name

theorem letArrive_returns (last : Nat) :
    Triple (Unhindered config last) letArrive
      (returning (fun _ => Unhindered config last) fun _ _ => False) := by
  unfold letArrive
  refine triple_readEnv fun env => ?_
  refine triple_modifyWorld _ fun current store hfree => ?_
  obtain ⟨hfree, rfl⟩ := hfree
  exact hfree.arrivals

theorem collectEvents_returns (last : Nat) :
    Triple (Unhindered config last) (collectEvents config last)
      (returning (fun _ _ _ => True) fun _ _ => False) := by
  unfold collectEvents
  refine triple_returning (letArrive_returns last) fun _ => ?_
  refine triple_readEnv fun env => ?_
  refine triple_read fun store => ?_
  split
  next error hfailed =>
    rintro current world ⟨⟨hfree, rfl⟩, rfl⟩
    obtain ⟨tickets, hhandoff⟩ := hfree.handoff
    rw [hfailed] at hhandoff
    cases hhandoff
  next tickets _ =>
    split
    next error hfailed =>
      rintro current world ⟨⟨hfree, rfl⟩, rfl⟩
      have hread : ∀ file ∈ world.files, ∃ found,
          readEvent config current.locked tickets last file = .ok found := by
        intro file hfile
        exact readEvent_of_holds (hfree.regular file (Or.inl hfile)) (hfree.unlocked file.name)
          (hfree.readable file (Or.inl hfile))
      obtain ⟨found, hfound⟩ := exists_mapM_eq_ok hread
      rw [hfailed] at hfound
      cases hfound
    next => exact triple_pure _ fun _ _ _ => trivial

theorem lastSequenceOf_valid {store : EventStore} (hvalid : 0 ≤ store.number) :
    lastSequenceOf store.checkpoint = .ok store.number.toNat := by
  unfold EventStore.number at hvalid ⊢
  cases hcheckpoint : store.checkpoint with
  | none => rfl
  | some number =>
    rw [hcheckpoint] at hvalid
    have hle : ¬ number < 0 := by simpa using hvalid
    exact if_neg hle

/-- A call that nothing gets in the way of returns. -/
theorem pendingEventFiles_returns {env : EventEnv} {store : EventStore}
    (h : Undisturbed config env store) :
    ∃ events rest after, pendingEventFiles config env store = (.returned events, rest, after) := by
  have hcall : returning (fun (_ : List EventRecord) _ _ => True) (fun _ _ => False)
      (pendingEventFiles config env store).1 (pendingEventFiles config env store).2.1
      (pendingEventFiles config env store).2.2 := by
    have hlast := lastSequenceOf_valid h.valid
    cases hdirectory : store.directory with
    | missing =>
      have hrun : pendingEventFiles config env store = (.returned [], env, store) := by
        unfold pendingEventFiles
        rw [Program.run_bind]
        simp only [Program.getWorld, hlast, hdirectory]
        rfl
      rw [hrun]
      trivial
    | invalid => exact absurd hdirectory h.directory
    | present files =>
      have hrun : pendingEventFiles config env store =
          (pruneAcknowledged store.number.toNat files >>= fun _ =>
            collectEvents config store.number.toNat) env store := by
        unfold pendingEventFiles
        rw [Program.run_bind]
        simp only [Program.getWorld, hlast, hdirectory]
      have hregular : ∀ file ∈ files, (eventNumber file.name).isSome → file.regular = true := by
        intro file hfile
        refine h.unhindered.regular file (Or.inl ?_)
        unfold EventStore.files
        rw [hdirectory]
        exact hfile
      rw [hrun]
      exact triple_returning (pruneAcknowledged_returns _ hregular)
        (fun _ => collectEvents_returns _) env store h.unhindered
  rcases hrun : pendingEventFiles config env store with ⟨exit, rest, after⟩
  rw [hrun] at hcall
  cases exit with
  | returned events => exact ⟨events, rest, after, rfl⟩
  | raised error => exact absurd hcall id
  | crashed => exact absurd hcall id

def sampleAdapter : AdapterConfig where
  unicode := asciiUnicode
  parsesTime _ := true
  expectedLogin := "500"
  expectedServer := "Demo"

def sampleRecord : EventRecord := { sequence := 0, eventType := .dealAdd, ticket := "11" }

def sampleEventFile : EventFile where
  name := "event-1.json"
  content := .object
    { schemaVersion := some 1, generatedAt := some "2026-07-17T10:00:00Z", sequence := some 1
      login := some "500", server := some "Demo", serverIdentity := some "Demo"
      payload := some (.record none sampleRecord) }

theorem sampleEventFile_holds : sampleEventFile.Holds sampleAdapter 1 none sampleRecord := by
  refine ⟨rfl, by decide +kernel, ?_⟩
  unfold readPathEnvelope
  simp [sampleEventFile, sampleAdapter, schemaVersion]

theorem sample_undisturbed :
    Undisturbed sampleAdapter {} { directory := .present [sampleEventFile] } := by
  have honly : ∀ file, file ∈ [sampleEventFile] ∨ file ∈ ([] : List EventFile) →
      file = sampleEventFile := by simp
  refine ⟨by decide, by simp, by simp, fun _ => rfl, ⟨[], rfl⟩, ?_, ?_⟩
  · intro file hfile _
    rw [honly file hfile]
    rfl
  · intro file hfile _
    rw [honly file hfile]
    exact ⟨1, none, sampleRecord, sampleEventFile_holds⟩

end Calls

end TradeJournalWorker
