import TradeJournalWorker.EventFiles
import TradeJournalWorker.ExceptRules
import TradeJournalWorker.FaultRules

namespace TradeJournalWorker

open FaultProgram

section Kept

/-- A file that the number does not acknowledge. -/
def EventFile.Above (through : Nat) (file : EventFile) : Prop :=
  ∃ number, eventNumber file.name = some number ∧ through < number

/-- The same file, or one that was published in its place. -/
def EventFile.Renewed (published : EventFile → Prop) (file other : EventFile) : Prop :=
  other.name = file.name ∧ (other = file ∨ published other)

/-- The checkpoint is this one and the files that it does not acknowledge are there. -/
structure HoldsAbove (published : EventFile → Prop) (checkpoint : Option Int) (through : Nat)
    (old : List EventFile) (env : EventEnv) (store : EventStore) : Prop where
  arriving : ∀ file ∈ env.arrivals, published file
  same : store.checkpoint = checkpoint
  there : ∀ file ∈ old, file.Above through → ∃ other ∈ store.files, file.Renewed published other

variable {published : EventFile → Prop}

theorem EventFile.renewed_self (file : EventFile) : file.Renewed published file :=
  ⟨rfl, Or.inl rfl⟩

theorem EventFile.Renewed.next {file other last : EventFile} (h : file.Renewed published other)
    (hlast : other.Renewed published last) : file.Renewed published last := by
  refine ⟨hlast.1.trans h.1, ?_⟩
  rcases hlast.2 with hsame | hnew
  · rw [hsame]
    exact h.2
  · exact Or.inr hnew

theorem EventFile.Renewed.above {file other : EventFile} (h : file.Renewed published other)
    {through : Nat} (habove : file.Above through) : other.Above through := by
  unfold EventFile.Above at habove ⊢
  rw [h.1]
  exact habove

theorem mem_files_arrive {store : EventStore} {file other : EventFile} (hnew : published file)
    (h : other ∈ store.files) :
    ∃ kept ∈ (store.arrive file).files, other.Renewed published kept := by
  unfold EventStore.files at h
  cases hdirectory : store.directory with
  | missing => simp [hdirectory] at h
  | invalid => simp [hdirectory] at h
  | present files =>
    simp only [hdirectory] at h
    unfold EventStore.arrive EventStore.files
    simp only [hdirectory]
    by_cases hused : file.name ∈ files.map EventFile.name
    · simp only [if_pos hused]
      by_cases hname : other.name = file.name
      · refine ⟨file, List.mem_map.mpr ⟨other, h, by simp [hname]⟩, ?_⟩
        exact ⟨hname.symm, Or.inr hnew⟩
      · exact ⟨other, List.mem_map.mpr ⟨other, h, by simp [hname]⟩, other.renewed_self⟩
    · simp only [if_neg hused]
      exact ⟨other, List.mem_append_left _ h, other.renewed_self⟩

theorem checkpoint_arrive (store : EventStore) (file : EventFile) :
    (store.arrive file).checkpoint = store.checkpoint := by
  unfold EventStore.arrive
  split
  · rfl
  · rfl
  · split
    · rfl
    · rfl

theorem mem_files_remove {store : EventStore} {name : String} {other : EventFile}
    (h : other ∈ store.files) (hname : other.name ≠ name) : other ∈ (store.remove name).files := by
  unfold EventStore.files at h
  cases hdirectory : store.directory with
  | missing => simp [hdirectory] at h
  | invalid => simp [hdirectory] at h
  | present files =>
    simp only [hdirectory] at h
    unfold EventStore.remove EventStore.files
    simp only [hdirectory]
    exact List.mem_filter.mpr ⟨h, by simpa using hname⟩

theorem checkpoint_remove (store : EventStore) (name : String) :
    (store.remove name).checkpoint = store.checkpoint := by
  unfold EventStore.remove
  split
  · rfl
  · rfl

variable {checkpoint : Option Int} {through : Nat} {old : List EventFile}

theorem HoldsAbove.arrival {env : EventEnv} {store : EventStore}
    (h : HoldsAbove published checkpoint through old env store) {file : EventFile}
    (hnew : published file) : HoldsAbove published checkpoint through old env (store.arrive file) := by
  refine ⟨h.arriving, ?_, fun wanted hwanted habove => ?_⟩
  · rw [checkpoint_arrive]
    exact h.same
  · obtain ⟨other, hother, hrenewed⟩ := h.there wanted hwanted habove
    obtain ⟨kept, hkept, hagain⟩ := mem_files_arrive hnew hother
    exact ⟨kept, hkept, hrenewed.next hagain⟩

theorem HoldsAbove.arrivals {env : EventEnv} {store : EventStore}
    (h : HoldsAbove published checkpoint through old env store) {files : List EventFile}
    (hnew : ∀ file ∈ files, published file) :
    HoldsAbove published checkpoint through old env (files.foldl EventStore.arrive store) := by
  induction files generalizing store with
  | nil => exact h
  | cons file rest ih =>
    have hfirst := h.arrival (hnew file List.mem_cons_self)
    exact ih hfirst fun other hother => hnew other (List.mem_cons_of_mem _ hother)

theorem HoldsAbove.remove {env : EventEnv} {store : EventStore}
    (h : HoldsAbove published checkpoint through old env store) {file : EventFile} {number : Nat}
    (hnumber : eventNumber file.name = some number) (hle : ¬ through < number) :
    HoldsAbove published checkpoint through old env (store.remove file.name) := by
  refine ⟨h.arriving, ?_, fun wanted hwanted habove => ?_⟩
  · rw [checkpoint_remove]
    exact h.same
  · obtain ⟨other, hother, hrenewed⟩ := h.there wanted hwanted habove
    refine ⟨other, mem_files_remove hother fun hsame => hle ?_, hrenewed⟩
    obtain ⟨high, hhigh, hlt⟩ := hrenewed.above habove
    rw [hsame, hnumber] at hhigh
    cases hhigh
    exact hlt

/-- The cleanup takes nothing away that the number does not acknowledge, wherever it ends. -/
theorem pruneAcknowledged_keeps (listed : List EventFile) :
    Preserves (HoldsAbove published checkpoint through old) (pruneAcknowledged through listed) := by
  induction listed with
  | nil => exact preserves_pure ()
  | cons file rest ih =>
    unfold pruneAcknowledged
    split
    next => exact ih
    next number hnumber =>
      split
      next => exact ih
      next hle =>
        split
        next => exact preserves_raise _
        next =>
          refine preserves_bind ?_ fun _ => ih
          refine triple_write fun env store hkeeps => ?_
          have hnext : HoldsAbove published checkpoint through old (EventEnv.nextUnlink env).2 store :=
            ⟨hkeeps.arriving, hkeeps.same, hkeeps.there⟩
          cases (EventEnv.nextUnlink env).1 with
          | done => exact hnext.remove hnumber hle
          | failed error => exact hnext
          | failedLate error => exact hnext.remove hnumber hle
          | crash => exact hnext

theorem letArrive_keeps : Preserves (HoldsAbove published checkpoint through old) letArrive := by
  unfold letArrive
  refine triple_readEnv fun env => ?_
  refine triple_modifyWorld _ fun current store hkeeps => ?_
  obtain ⟨hkeeps, rfl⟩ := hkeeps
  exact hkeeps.arrivals hkeeps.arriving

theorem collectEvents_keeps (config : AdapterConfig) (last : Nat) :
    Preserves (HoldsAbove published checkpoint through old) (collectEvents config last) := by
  unfold collectEvents
  refine preserves_bind letArrive_keeps fun _ => ?_
  refine preserves_bind preserves_getEnv fun env => ?_
  refine preserves_bind preserves_getWorld fun store => ?_
  split
  · exact preserves_raise _
  · split
    · exact preserves_raise _
    · exact preserves_pure _

end Kept

section Forward

variable (config : AdapterConfig) (published : EventFile → Prop)

def EventStore.number (store : EventStore) : Int := store.checkpoint.getD 0

/-- What happens to an events directory and its checkpoint. The worker keeps nothing from one call
to the next, and a call that a crash cuts off is one whose answers have a crash in them. -/
inductive EventStep : EventStore → EventStore → Prop where
  | creates (store : EventStore) (hmissing : store.directory = .missing) :
      EventStep store { store with directory := .present [] }
  | arrives (store : EventStore) (file : EventFile) (hnew : published file) :
      EventStep store (store.arrive file)
  | relists (store : EventStore) (files others : List EventFile)
      (hfiles : store.directory = .present files) (hperm : others.Perm files) :
      EventStep store { store with directory := .present others }
  | pends (store : EventStore) (env : EventEnv) (hnew : ∀ file ∈ env.arrivals, published file) :
      EventStep store (pendingEventFiles config env store).2.2
  | acknowledges (store : EventStore) (env : EventEnv) (through : Int)
      (hnew : ∀ file ∈ env.arrivals, published file) :
      EventStep store (acknowledgeEventFiles through env store).2.2

/-- The checkpoint has not gone back and the files that it does not acknowledge are there. -/
structure MovesOn (before after : EventStore) : Prop where
  forward : before.number ≤ after.number
  there : ∀ file ∈ before.files, file.Above after.number.toNat →
    ∃ other ∈ after.files, file.Renewed published other

variable {config published}

theorem EventFile.Above.down {file : EventFile} {low high : Nat} (h : file.Above high)
    (hle : low ≤ high) : file.Above low := by
  obtain ⟨number, hnumber, hlt⟩ := h
  exact ⟨number, hnumber, by omega⟩

theorem MovesOn.refl (store : EventStore) : MovesOn published store store :=
  ⟨le_rfl, fun file hfile _ => ⟨file, hfile, file.renewed_self⟩⟩

theorem MovesOn.trans {first second third : EventStore} (h : MovesOn published first second)
    (hnext : MovesOn published second third) : MovesOn published first third := by
  have hforward := hnext.forward
  refine ⟨h.forward.trans hforward, fun file hfile habove => ?_⟩
  have hbelow : file.Above second.number.toNat := habove.down (by omega)
  obtain ⟨other, hother, hrenewed⟩ := h.there file hfile hbelow
  obtain ⟨last, hlast, hagain⟩ := hnext.there other hother (hrenewed.above habove)
  exact ⟨last, hlast, hrenewed.next hagain⟩

theorem HoldsAbove.movesOn {checkpoint : Option Int} {through : Nat} {env : EventEnv}
    {start store : EventStore} (h : HoldsAbove published checkpoint through start.files env store)
    (hthrough : (checkpoint.getD 0).toNat = through) (hle : start.number ≤ checkpoint.getD 0) :
    MovesOn published start store := by
  have hnumber : store.number = checkpoint.getD 0 := by
    unfold EventStore.number
    rw [h.same]
  refine ⟨by omega, fun file hfile habove => h.there file hfile ?_⟩
  rw [hnumber, hthrough] at habove
  exact habove

theorem lastSequenceOf_ok {checkpoint : Option Int} {last : Nat}
    (h : lastSequenceOf checkpoint = .ok last) :
    (checkpoint.getD 0).toNat = last ∧ 0 ≤ checkpoint.getD 0 := by
  unfold lastSequenceOf at h
  split at h
  · cases h
    simp
  · split at h
    · cases h
    next hnonneg =>
      cases h
      simpa using hnonneg

theorem holdsAbove_start {env : EventEnv} (hnew : ∀ file ∈ env.arrivals, published file)
    (store : EventStore) (through : Nat) :
    HoldsAbove published store.checkpoint through store.files env store :=
  ⟨hnew, rfl, fun file hfile _ => ⟨file, hfile, file.renewed_self⟩⟩

/-- `pending_events` leaves the checkpoint and the files above it, however it ends. -/
theorem pendingEventFiles_holds {env : EventEnv} (hnew : ∀ file ∈ env.arrivals, published file)
    (store : EventStore) :
    HoldsAbove published store.checkpoint store.number.toNat store.files
      (pendingEventFiles config env store).2.1 (pendingEventFiles config env store).2.2 := by
  have hstart := holdsAbove_start hnew store store.number.toNat
  have hcall : Triple
      (fun env world => HoldsAbove published store.checkpoint store.number.toNat store.files env
        world ∧ world = store)
      (pendingEventFiles config)
      (fun _ => HoldsAbove published store.checkpoint store.number.toNat store.files) := by
    unfold pendingEventFiles
    refine triple_read fun start => ?_
    split
    next => exact triple_raise _ fun env world h => h.1.1
    next => exact triple_pure _ fun env world h => h.1.1
    next => exact triple_raise _ fun env world h => h.1.1
    next last files hlast _ =>
      rintro env world ⟨⟨hholds, rfl⟩, rfl⟩
      have hnumber : world.number.toNat = last := (lastSequenceOf_ok hlast).1
      rw [hnumber] at hholds ⊢
      exact preserves_bind (pruneAcknowledged_keeps files)
        (fun _ => collectEvents_keeps config last) env world hholds
  exact hcall env store ⟨hstart, rfl⟩

theorem pendingEventFiles_movesOn {env : EventEnv} (hnew : ∀ file ∈ env.arrivals, published file)
    (store : EventStore) : MovesOn published store (pendingEventFiles config env store).2.2 :=
  (pendingEventFiles_holds hnew store).movesOn rfl le_rfl

theorem pruneDirectory_keeps {checkpoint : Option Int} {through : Nat} {old : List EventFile} :
    Preserves (HoldsAbove published checkpoint through old) (pruneDirectory through) := by
  unfold pruneDirectory
  refine preserves_bind preserves_getWorld fun store => ?_
  split
  · exact preserves_pure ()
  · exact preserves_raise _
  · exact pruneAcknowledged_keeps _

/-- `acknowledge_events` keeps the files above the checkpoint that it leaves, however it ends. -/
theorem acknowledgeEventFiles_movesOn {env : EventEnv}
    (hnew : ∀ file ∈ env.arrivals, published file) (through : Int) (store : EventStore) :
    MovesOn published store (acknowledgeEventFiles through env store).2.2 := by
  have hcall : Triple
      (fun env world => (∀ file ∈ env.arrivals, published file) ∧ world = store)
      (acknowledgeEventFiles through) (fun _ _ world => MovesOn published store world) := by
    unfold acknowledgeEventFiles
    refine triple_read fun start => ?_
    split
    next =>
      refine triple_raise _ fun env world h => ?_
      rw [h.1.2]
      exact MovesOn.refl store
    next previous hprevious =>
      have hsame : ∀ (env : EventEnv) (world : EventStore),
          ((∀ file ∈ env.arrivals, published file) ∧ world = store) ∧ world = start →
          MovesOn published store world := by
        intro env world h
        rw [h.1.2]
        exact MovesOn.refl store
      split
      next => exact triple_raise _ hsame
      next hnonneg =>
        split
        next => exact triple_raise _ hsame
        next hforward =>
          have hmoves : ∀ (env : EventEnv) (world : EventStore), start = store →
              HoldsAbove published (some through) through.toNat store.files env world →
              MovesOn published store world := by
            intro env world hstart hholds
            refine hholds.movesOn rfl ?_
            have hnumber : start.number.toNat = previous := (lastSequenceOf_ok hprevious).1
            rw [hstart] at hnumber
            show store.number ≤ through
            omega
          refine triple_seq
            (fun _ env world => start = store ∧
              HoldsAbove published (some through) through.toNat store.files env world) ?_ fun _ => ?_
          · refine triple_write fun env world h => ?_
            obtain ⟨⟨hnew, hworld⟩, hstart⟩ := h
            have hsaved : HoldsAbove published (some through) through.toNat store.files
                (EventEnv.saveCheckpoint env).2 { world with checkpoint := some through } := by
              rw [hworld]
              exact ⟨hnew, rfl, (holdsAbove_start hnew store through.toNat).there⟩
            have hstore : start = store := hstart.symm.trans hworld
            cases (EventEnv.saveCheckpoint env).1 with
            | done => exact ⟨hstore, hsaved⟩
            | failed error => exact hsame env world ⟨⟨hnew, hworld⟩, hstart⟩
            | failedLate error => exact hmoves _ _ hstore hsaved
            | crash => exact hsame env world ⟨⟨hnew, hworld⟩, hstart⟩
          · intro env world h
            have hends := preserves_bind letArrive_keeps (fun _ => pruneDirectory_keeps) env world h.2
            exact hmoves _ _ h.1 hends
  exact hcall env store ⟨hnew, rfl⟩

theorem EventStep.movesOn {before after : EventStore} (h : EventStep config published before after) :
    MovesOn published before after := by
  cases h with
  | creates hmissing =>
    refine ⟨le_rfl, fun file hfile _ => ?_⟩
    unfold EventStore.files at hfile
    rw [hmissing] at hfile
    exact absurd hfile List.not_mem_nil
  | arrives file hnew =>
    refine ⟨?_, fun other hother _ => mem_files_arrive hnew hother⟩
    unfold EventStore.number
    rw [checkpoint_arrive]
  | relists files others hfiles hperm =>
    refine ⟨le_rfl, fun file hfile _ => ⟨file, ?_, file.renewed_self⟩⟩
    unfold EventStore.files at hfile
    rw [hfiles] at hfile
    exact hperm.mem_iff.mpr hfile
  | pends env hnew => exact pendingEventFiles_movesOn hnew before
  | acknowledges env through hnew => exact acknowledgeEventFiles_movesOn hnew through before

theorem movesOn_of_run {start reached : EventStore}
    (hrun : Relation.ReflTransGen (EventStep config published) start reached) :
    MovesOn published start reached := by
  induction hrun with
  | refl => exact MovesOn.refl start
  | tail _ hstep ih => exact ih.trans hstep.movesOn

end Forward

end TradeJournalWorker
