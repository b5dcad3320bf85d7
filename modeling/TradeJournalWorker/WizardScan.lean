import TradeJournalWorker.EventNormalizer
import TradeJournalWorker.FreshKeys

namespace TradeJournalWorker.WizardScan

open FreshKeys

/-- What `text()` of the two sub-items of a row gives; `none` where it raises. -/
structure Row where
  first : Option String
  second : Option String
  deriving DecidableEq, Repr

/-- The result list, as long as it is shown. -/
structure Page where
  count : Int
  row : Nat → Row

structure Request where
  expectedServerName : String
  suggestedBrokerLabel : String
  searchTerms : List String

def maxBrokerResults : Nat := 50

/-- `_LABEL`. -/
def isLabel (text : List Char) : Bool :=
  text ≠ [] && text.length ≤ 128 && text.all fun c => c.isAlphanum || "&'()._ /+-".toList.contains c

/-- `_SERVER`. -/
def isServer (text : List Char) : Bool :=
  text ≠ [] && text.length ≤ 128 && text.all fun c => c.isAlphanum || "._ -".toList.contains c

/-- `casefold` of a text that one of the patterns let through. -/
def folded (text : List Char) : List Char := text.map Char.toLower

def labelKey (value : List Char) : List Char := (folded value).filter Char.isAlphanum

/-- The labels read so far, and the one of the next sub-item if it is usable and new. -/
def addLabel (labels : List (List Char)) (raw : Option String) : List (List Char) :=
  match raw with
  | none => labels
  | some raw =>
    if isLabel (pyStrip raw) && labelKey (pyStrip raw) ≠ [] &&
        !(labels.map labelKey).contains (labelKey (pyStrip raw)) then labels ++ [pyStrip raw]
    else labels

def brokerResultLabels (row : Row) : List (List Char) :=
  addLabel (addLabel [] row.first) row.second

/-- The fingerprint of a row that has readable labels. -/
def rowKey (row : Row) : Option (List (List Char)) :=
  let fingerprint := (brokerResultLabels row).map labelKey
  if fingerprint = [] then none else some fingerprint

/-- The positions that a scan looks at. -/
def positions (page : Page) : List Nat := List.range (min page.count.toNat maxBrokerResults)

/-- The positions to be probed, and the tested brokers afterwards. A row is marked here, before
it is probed. -/
def orderedBrokerResultIndices (page : Page) (testedBrokers : List (List (List Char))) :
    List Nat × List (List (List Char)) :=
  fresh (fun index => rowKey (page.row index)) testedBrokers (positions page)

def allRowsReadable (page : Page) : Bool :=
  (positions page).all fun index => (rowKey (page.row index)).isSome

/-- `_selected_broker_label`, `none` where it raises. -/
def selectedBrokerLabel (labels : List (List Char)) (suggestedLabel : String) :
    Option (List Char) :=
  (labels.find? fun label => labelKey label = labelKey suggestedLabel.toList).or labels.head?

def insertServer (name : List Char) : List (List Char) → List (List Char)
  | [] => [name]
  | other :: rest =>
    if folded name ≤ folded other then name :: other :: rest else other :: insertServer name rest

/-- The names of a menu: the valid ones, each spelling of a name once, in order. -/
def serverNames (items : List (Option String)) : List (List Char) :=
  let valid := (items.filterMap fun item => item.map pyStrip).filter isServer
  let names := valid.foldl (fun names name =>
    if (names.map folded).contains (folded name) then names else names ++ [name]) []
  names.foldr insertServer []

def listsServer (expected : String) (items : List (List Char)) : Bool :=
  items.any fun item => folded item = folded expected.toList

inductive FailureReason where
  | terminalStartFailed
  | terminalProcessAmbiguous
  | wizardNotFound
  | driverFailure
  | timeout
  | serverNotFound
  | cleanupFailed
  deriving DecidableEq, Repr

/-- How far the terminal and the wizard come up. -/
inductive Start where
  | ready
  | terminalStartFailed
  | terminalProcessAmbiguous
  | wizardNotFound
  | driverFailure
  deriving DecidableEq, Repr

/-- A click on a button: it is done, it ends in a `WizardUiError`, or in another exception. -/
inductive Click where
  | done
  | recoverable
  | crash
  deriving DecidableEq, Repr

/-- The server page up to the closed menu again. -/
inductive Menu where
  | items (texts : List (Option String))
  | recoverable
  | crash
  deriving DecidableEq, Repr

/-- The terminal with its wizard; what is asked for and done may change its state. Where a list
of results does not come up, an exception is raised. -/
structure WizardUi (σ : Type) where
  start : σ → Start × σ
  searchBrokerResults : String → σ → Option Page × σ
  late : σ → Bool × σ
  clickBrokerResult : Nat → σ → Bool × σ
  clickNext : σ → Click × σ
  resumeBrokerResults : String → σ → Option Page × σ
  readMenu : σ → Menu × σ
  recoverBrokerResults : String → σ → Option Page × σ
  close : σ → Bool × σ

/-- The errors that end a scan. -/
inductive Raised where
  | driverFailure
  | timeout
  deriving DecidableEq, Repr

/-- What happened to a row: the scan is over, or it goes on with the list that is shown now. -/
inductive RowEnd where
  | raised (error : Raised)
  | failed (next : Page)
  | missed (items : List (List Char)) (next : Page)
  | found (label : List Char) (labels items : List (List Char))

section Run

variable {σ : Type} (ui : WizardUi σ) (request : Request)

/-- The way back to the results. -/
def backTo (answer : Option Page × σ) (go : Page → RowEnd) : RowEnd × σ :=
  match answer.1 with
  | none => (.raised .driverFailure, answer.2)
  | some page => (go page, answer.2)

/-- What follows on a menu that was read. -/
def afterMenu (term : String) (labels items : List (List Char)) (state : σ) : RowEnd × σ :=
  if listsServer request.expectedServerName items then
    match selectedBrokerLabel labels request.suggestedBrokerLabel with
    | none => (.raised .driverFailure, state)
    | some label => (.found label labels items, state)
  else backTo (ui.recoverBrokerResults term state) (.missed items)

def afterNext (term : String) (labels : List (List Char)) (state : σ) : RowEnd × σ :=
  match ui.readMenu state with
  | (.crash, state) => (.raised .driverFailure, state)
  | (.recoverable, state) => backTo (ui.recoverBrokerResults term state) .failed
  | (.items texts, state) => afterMenu ui request term labels (serverNames texts) state

def afterClick (term : String) (labels : List (List Char)) (state : σ) : RowEnd × σ :=
  match ui.clickNext state with
  | (.crash, state) => (.raised .driverFailure, state)
  | (.recoverable, state) => backTo (ui.resumeBrokerResults term state) .failed
  | (.done, state) => afterNext ui request term labels state

/-- One turn of the loop over the rows. -/
def probeRow (term : String) (index : Nat) (page : Page) (state : σ) : RowEnd × σ :=
  match ui.late state with
  | (true, state) => (.raised .timeout, state)
  | (false, state) =>
    match ui.clickBrokerResult index state with
    | (false, state) => (.raised .driverFailure, state)
    | (true, state) => afterClick ui request term (brokerResultLabels (page.row index)) state

/-- A row that was clicked: where, what it showed, and the menu it led to. -/
structure Probe where
  index : Nat
  shown : Row
  menu : Option (List (List Char))
  deriving DecidableEq, Repr

inductive ScanEnd where
  | finished
  | raised (error : Raised)
  | found (label : List Char) (labels items : List (List Char))
  deriving DecidableEq, Repr

def scanRows (term : String) : List Nat → Page → σ → ScanEnd × List Probe × σ
  | [], _, state => (.finished, [], state)
  | index :: rest, page, state =>
    match probeRow ui request term index page state with
    | (.raised error, state) => (.raised error, [], state)
    | (.found label labels items, state) =>
      (.found label labels items, [⟨index, page.row index, some items⟩], state)
    | (.failed next, state) =>
      let later := scanRows term rest next state
      (later.1, ⟨index, page.row index, none⟩ :: later.2.1, later.2.2)
    | (.missed items next, state) =>
      let later := scanRows term rest next state
      (later.1, ⟨index, page.row index, some items⟩ :: later.2.1, later.2.2)

/-- A search, the positions it left to be probed and what was probed of them. -/
structure Search where
  page : Page
  indices : List Nat
  probes : List Probe

/-- The loop over the terms. The first term is always searched for, a later one only as long as
every row was readable. -/
def scanTerms (first : Bool) (testedBrokers : List (List (List Char)))
    (allowFallbackSearch : Bool) : List String → σ → ScanEnd × List Search × σ
  | [], state => (.finished, [], state)
  | term :: rest, state =>
    if !first && !allowFallbackSearch then (.finished, [], state)
    else
      match ui.searchBrokerResults term state with
      | (none, state) => (.raised .driverFailure, [], state)
      | (some page, state) =>
        if page.count < 0 then (.raised .driverFailure, [], state)
        else
          let ordered := orderedBrokerResultIndices page testedBrokers
          match scanRows ui request term ordered.1 page state with
          | (.finished, probes, state) =>
            let later := scanTerms false ordered.2 (allowFallbackSearch && allRowsReadable page)
              rest state
            (later.1, ⟨page, ordered.1, probes⟩ :: later.2.1, later.2.2)
          | (ended, probes, state) => (ended, [⟨page, ordered.1, probes⟩], state)

structure WizardResult where
  failureReason : Option FailureReason
  selectedBrokerLabel : Option (List Char)
  selectedBrokerLabels : List (List Char)
  censusedServerNames : List (List Char)
  deriving DecidableEq, Repr

def WizardResult.failed (reason : FailureReason) : WizardResult := ⟨some reason, none, [], []⟩

def Start.reason : Start → Option FailureReason
  | .ready => none
  | .terminalStartFailed => some .terminalStartFailed
  | .terminalProcessAmbiguous => some .terminalProcessAmbiguous
  | .wizardNotFound => some .wizardNotFound
  | .driverFailure => some .driverFailure

def ScanEnd.result : ScanEnd → WizardResult
  | .finished => .failed .serverNotFound
  | .raised .driverFailure => .failed .driverFailure
  | .raised .timeout => .failed .timeout
  | .found label labels items => ⟨none, some label, labels, items⟩

/-- `_run` up to the closing of the terminals, with the searches it made. -/
def scan (state : σ) : WizardResult × List Search × σ :=
  match (ui.start state).1.reason with
  | some reason => (.failed reason, [], (ui.start state).2)
  | none =>
    let scanned := scanTerms ui request true [] true request.searchTerms (ui.start state).2
    (scanned.1.result, scanned.2)

/-- `_run`: the record it returns. -/
def run (state : σ) : WizardResult :=
  if (ui.close (scan ui request state).2.2).1 then (scan ui request state).1
  else .failed .cleanupFailed

end Run

section Exhaustion

/-- Row `index` of the search led to a server menu. A row with labels is known by them wherever
it was clicked, the others only by their place in the scan. -/
def Search.Probed (search : Search) (searches : List Search) (index : Nat) : Prop :=
  match rowKey (search.page.row index) with
  | some key => ∃ other ∈ searches, ∃ probe ∈ other.probes,
      probe.menu.isSome = true ∧ rowKey probe.shown = some key
  | none => ∃ probe ∈ search.probes,
      probe.index = index ∧ probe.menu.isSome = true ∧ rowKey probe.shown = none

/-- Every row that was returned was probed, and no menu lists the server; a row of which every
probe failed is probed again when a later search returns it. -/
structure Exhaustive (expected : String) (searches : List Search) : Prop where
  probed : ∀ search ∈ searches, ∀ index ∈ positions search.page, search.Probed searches index
  unlisted : ∀ search ∈ searches, ∀ probe ∈ search.probes, ∀ items, probe.menu = some items →
    listsServer expected items = false
  retried : ∀ before search after, searches = before ++ search :: after →
    ∀ index ∈ positions search.page, ∀ key, rowKey (search.page.row index) = some key →
      (∃ earlier ∈ before, ∃ probe ∈ earlier.probes, rowKey probe.shown = some key) →
      (∀ earlier ∈ before, ∀ probe ∈ earlier.probes, rowKey probe.shown = some key →
        probe.menu = none) →
      ∃ again ∈ search.indices, rowKey (search.page.row again) = some key

/-- Each list that was shown again held the rows of the search in their places. -/
def AsListed (searches : List Search) : Prop :=
  ∀ search ∈ searches, ∀ probe ∈ search.probes,
    rowKey probe.shown = rowKey (search.page.row probe.index)

def Reached (searches : List Search) : Prop :=
  ∀ search ∈ searches, ∀ probe ∈ search.probes, probe.menu.isSome = true

/-- What the searches of a scan that found nothing have in common. -/
inductive Scanned (expected : String) : List (List (List Char)) → List Search → Prop where
  | nil (tested : List (List (List Char))) : Scanned expected tested []
  | cons {tested : List (List (List Char))} {search : Search} {rest : List Search}
      (hindices : search.indices = (orderedBrokerResultIndices search.page tested).1)
      (hprobes : search.probes.map Probe.index = search.indices)
      (hunlisted : ∀ probe ∈ search.probes, ∀ items, probe.menu = some items →
        listsServer expected items = false)
      (hrest : Scanned expected (orderedBrokerResultIndices search.page tested).2 rest) :
      Scanned expected tested (search :: rest)

variable {σ : Type} {ui : WizardUi σ} {request : Request}

theorem probeRow_missed {term : String} {index : Nat} {page next : Page} {state state' : σ}
    {items : List (List Char)}
    (h : probeRow ui request term index page state = (.missed items next, state')) :
    listsServer request.expectedServerName items = false := by
  have hback : ∀ {answer : Option Page × σ} {go : Page → RowEnd} {items : List (List Char)}
      {next : Page} {state : σ}, backTo answer go = (.missed items next, state) →
        ∃ page, go page = .missed items next := by
    intro answer go items next state h
    unfold backTo at h
    split at h
    next => cases (Prod.mk.inj h).1
    next page _ => exact ⟨page, (Prod.mk.inj h).1⟩
  unfold probeRow at h
  split at h
  next => cases (Prod.mk.inj h).1
  next =>
    split at h
    next => cases (Prod.mk.inj h).1
    next =>
      unfold afterClick at h
      split at h
      next => cases (Prod.mk.inj h).1
      next =>
        obtain ⟨page, hpage⟩ := hback h
        cases hpage
      next =>
        unfold afterNext at h
        split at h
        next => cases (Prod.mk.inj h).1
        next =>
          obtain ⟨page, hpage⟩ := hback h
          cases hpage
        next =>
          unfold afterMenu at h
          split at h
          next =>
            split at h
            next => cases (Prod.mk.inj h).1
            next => cases (Prod.mk.inj h).1
          next hlisted =>
            obtain ⟨page, hpage⟩ := hback h
            cases hpage
            exact Bool.eq_false_iff.mpr hlisted

theorem scanRows_finished {term : String} {indices : List Nat} {page : Page} {state state' : σ}
    {probes : List Probe}
    (h : scanRows ui request term indices page state = (.finished, probes, state')) :
    probes.map Probe.index = indices ∧ ∀ probe ∈ probes, ∀ items, probe.menu = some items →
      listsServer request.expectedServerName items = false := by
  induction indices generalizing page state probes with
  | nil =>
    cases h
    exact ⟨rfl, fun probe hmem => absurd hmem List.not_mem_nil⟩
  | cons index rest ih =>
    unfold scanRows at h
    split at h
    next => cases (Prod.mk.inj h).1
    next => cases (Prod.mk.inj h).1
    next next' state'' hrow =>
      generalize hlater : scanRows ui request term rest next' state'' = later at h
      obtain ⟨ended, others, last⟩ := later
      cases h
      obtain ⟨hindices, hunlisted⟩ := ih hlater
      refine ⟨by rw [List.map_cons, hindices], ?_⟩
      intro probe hmem items hitems
      cases List.mem_cons.mp hmem with
      | inl heq =>
        rw [heq] at hitems
        cases hitems
      | inr hother => exact hunlisted probe hother items hitems
    next items' next' state'' hrow =>
      generalize hlater : scanRows ui request term rest next' state'' = later at h
      obtain ⟨ended, others, last⟩ := later
      cases h
      obtain ⟨hindices, hunlisted⟩ := ih hlater
      refine ⟨by rw [List.map_cons, hindices], ?_⟩
      intro probe hmem items hitems
      cases List.mem_cons.mp hmem with
      | inl heq =>
        rw [heq] at hitems
        cases hitems
        exact probeRow_missed hrow
      | inr hother => exact hunlisted probe hother items hitems

theorem scanTerms_finished {first allow : Bool} {tested : List (List (List Char))}
    {terms : List String} {state state' : σ} {searches : List Search}
    (h : scanTerms ui request first tested allow terms state = (.finished, searches, state')) :
    Scanned request.expectedServerName tested searches := by
  induction terms generalizing first allow tested state searches with
  | nil =>
    cases h
    exact .nil tested
  | cons term rest ih =>
    unfold scanTerms at h
    split at h
    next =>
      cases h
      exact .nil tested
    next =>
      split at h
      next => cases (Prod.mk.inj h).1
      next page state'' hsearch =>
        split at h
        next => cases (Prod.mk.inj h).1
        next =>
          simp only at h
          split at h
          next probes last hrows =>
            generalize hlater : scanTerms ui request false
              (orderedBrokerResultIndices page tested).2 (allow && allRowsReadable page) rest
                last = later at h
            obtain ⟨ended, others, final⟩ := later
            cases h
            obtain ⟨hindices, hunlisted⟩ := scanRows_finished hrows
            exact .cons rfl hindices hunlisted (ih hlater)
          next ended probes last hother hrows =>
            exact absurd (Prod.mk.inj h).1 (fun heq => hother (by rw [heq]))

theorem mem_positions_of_index {expected : String} {tested : List (List (List Char))}
    {searches : List Search} (h : Scanned expected tested searches) {search : Search}
    (hsearch : search ∈ searches) :
    search.probes.map Probe.index = search.indices ∧ search.indices.Nodup ∧
      ∀ index ∈ search.indices, index ∈ positions search.page := by
  induction h with
  | nil => exact absurd hsearch List.not_mem_nil
  | @cons tested first rest hindices hprobes _ _ ih =>
    cases List.mem_cons.mp hsearch with
    | inl heq =>
      subst heq
      have hsublist := fresh_sublist (fun index => rowKey (search.page.row index)) tested
        (positions search.page)
      refine ⟨hprobes, ?_, ?_⟩
      · rw [hindices]
        exact hsublist.nodup List.nodup_range
      · rw [hindices]
        exact fun index hmem => hsublist.subset hmem
    | inr hrest => exact ih hrest

/-- An unreadable row is probed at its place; a readable one was tested before the scan, or some
probe of the scan shows its labels. -/
theorem probe_of_position {expected : String} {tested : List (List (List Char))}
    {searches : List Search} (h : Scanned expected tested searches) (hlisted : AsListed searches)
    {search : Search} (hsearch : search ∈ searches) {index : Nat}
    (hindex : index ∈ positions search.page) :
    match rowKey (search.page.row index) with
    | some key => key ∈ tested ∨ ∃ other ∈ searches, ∃ probe ∈ other.probes,
        rowKey probe.shown = some key
    | none => ∃ probe ∈ search.probes, probe.index = index ∧ rowKey probe.shown = none := by
  induction h with
  | nil => exact absurd hsearch List.not_mem_nil
  | @cons tested first rest hindices hprobes _ _ ih =>
    have hprobe : ∀ position ∈ first.indices, ∃ probe ∈ first.probes, probe.index = position ∧
        rowKey probe.shown = rowKey (first.page.row position) := by
      intro position hmem
      rw [← hprobes] at hmem
      obtain ⟨probe, hprobe, hposition⟩ := List.mem_map.mp hmem
      have hshown := hlisted first List.mem_cons_self probe hprobe
      rw [hposition] at hshown
      exact ⟨probe, hprobe, hposition, hshown⟩
    have hkeys : ∀ key ∈ (orderedBrokerResultIndices first.page tested).2,
        key ∈ tested ∨ ∃ probe ∈ first.probes, rowKey probe.shown = some key := by
      intro key hmem
      unfold orderedBrokerResultIndices at hmem hindices
      rw [fresh_seen, ← hindices] at hmem
      cases List.mem_append.mp hmem with
      | inl hbefore => exact Or.inl hbefore
      | inr hnew =>
        obtain ⟨position, hposition, hkey⟩ := List.mem_filterMap.mp hnew
        obtain ⟨probe, hmemProbe, _, hshown⟩ := hprobe position hposition
        exact Or.inr ⟨probe, hmemProbe, hshown.trans hkey⟩
    cases List.mem_cons.mp hsearch with
    | inl heq =>
      subst heq
      cases hkey : rowKey (search.page.row index) with
      | none =>
        have hkept := mem_fresh_of_none (fun index => rowKey (search.page.row index)) tested
          hindex hkey
        obtain ⟨probe, hmem, hposition, hshown⟩ := hprobe index (hindices ▸ hkept)
        exact ⟨probe, hmem, hposition, hshown.trans hkey⟩
      | some key =>
        have hseen := mem_fresh_seen (fun index => rowKey (search.page.row index)) tested
          hindex hkey
        rcases hkeys key hseen with hbefore | ⟨probe, hmem, hshown⟩
        · exact Or.inl hbefore
        · exact Or.inr ⟨search, List.mem_cons_self, probe, hmem, hshown⟩
    | inr hrest =>
      have hlater := ih (fun other hmem => hlisted other (List.mem_cons_of_mem _ hmem)) hrest
      cases hkey : rowKey (search.page.row index) with
      | none =>
        rw [hkey] at hlater
        exact hlater
      | some key =>
        rw [hkey] at hlater
        rcases hlater with hseen | ⟨other, hother, probe, hmem, hshown⟩
        · rcases hkeys key hseen with hbefore | ⟨probe, hmem, hshown⟩
          · exact Or.inl hbefore
          · exact Or.inr ⟨first, List.mem_cons_self, probe, hmem, hshown⟩
        · exact Or.inr ⟨other, List.mem_cons_of_mem _ hother, probe, hmem, hshown⟩

/-- No labels are probed twice in a scan. -/
theorem shown_nodup {expected : String} {tested : List (List (List Char))}
    {searches : List Search} (h : Scanned expected tested searches) (hlisted : AsListed searches)
    (htested : tested.Nodup) :
    (tested ++ (searches.flatMap Search.probes).filterMap fun probe => rowKey probe.shown).Nodup := by
  induction h with
  | nil tested =>
    rw [List.flatMap_nil, List.filterMap_nil, List.append_nil]
    exact htested
  | @cons tested first rest hindices hprobes _ _ ih =>
    have hfirst : (first.probes.filterMap fun probe => rowKey probe.shown) =
        first.indices.filterMap fun index => rowKey (first.page.row index) := by
      rw [← hprobes, List.filterMap_map]
      apply List.filterMap_congr
      intro probe hmem
      exact hlisted first List.mem_cons_self probe hmem
    have hseen : (orderedBrokerResultIndices first.page tested).2 =
        tested ++ first.probes.filterMap fun probe => rowKey probe.shown := by
      rw [hfirst, hindices]
      exact fresh_seen _ _ _
    have hnodup : (orderedBrokerResultIndices first.page tested).2.Nodup :=
      fresh_nodup _ htested _
    have hrest := ih (fun other hmem => hlisted other (List.mem_cons_of_mem _ hmem)) hnodup
    rw [hseen, List.append_assoc, ← List.filterMap_append] at hrest
    exact hrest

theorem exhaustive_of_reached {expected : String} {searches : List Search}
    (h : Scanned expected [] searches) (hlisted : AsListed searches)
    (hreached : Reached searches) : Exhaustive expected searches where
  probed := by
    intro search hsearch index hindex
    have hprobe := probe_of_position h hlisted hsearch hindex
    unfold Search.Probed
    cases hkey : rowKey (search.page.row index) with
    | none =>
      rw [hkey] at hprobe
      obtain ⟨probe, hmem, hposition, hshown⟩ := hprobe
      exact ⟨probe, hmem, hposition, hreached search hsearch probe hmem, hshown⟩
    | some key =>
      rw [hkey] at hprobe
      rcases hprobe with hnone | ⟨other, hother, probe, hmem, hshown⟩
      · exact absurd hnone List.not_mem_nil
      · exact ⟨other, hother, probe, hmem, hreached other hother probe hmem, hshown⟩
  unlisted := by
    have hall : ∀ {tested : List (List (List Char))} {searches : List Search},
        Scanned expected tested searches → ∀ search ∈ searches, ∀ probe ∈ search.probes, ∀ items,
          probe.menu = some items → listsServer expected items = false := by
      intro tested searches hscanned
      induction hscanned with
      | nil => exact fun search hmem => absurd hmem List.not_mem_nil
      | cons _ _ hunlisted _ ih =>
        intro search hmem
        cases List.mem_cons.mp hmem with
        | inl heq => exact heq ▸ hunlisted
        | inr hrest => exact ih search hrest
    exact hall h
  retried := by
    intro before search after hsplit index hindex key hkey hshown hfailed
    obtain ⟨earlier, hearlier, probe, hmem, hprobe⟩ := hshown
    have hmember : earlier ∈ searches := by
      rw [hsplit]
      exact List.mem_append_left _ hearlier
    have hmenu := hreached earlier hmember probe hmem
    rw [hfailed earlier hearlier probe hmem hprobe] at hmenu
    cases hmenu

theorem reached_of_exhaustive {expected : String} {searches : List Search}
    (h : Scanned expected [] searches) (hlisted : AsListed searches)
    (hexhaustive : Exhaustive expected searches) : Reached searches := by
  intro search hsearch probe hmem
  obtain ⟨hprobes, hnodup, hpositions⟩ := mem_positions_of_index h hsearch
  have hindex : probe.index ∈ search.indices := by
    rw [← hprobes]
    exact List.mem_map_of_mem hmem
  have hprobed := hexhaustive.probed search hsearch probe.index (hpositions _ hindex)
  have hshown := hlisted search hsearch probe hmem
  unfold Search.Probed at hprobed
  cases hkey : rowKey (search.page.row probe.index) with
  | none =>
    rw [hkey] at hprobed
    obtain ⟨other, hother, hplace, hmenu, _⟩ := hprobed
    rw [← hprobes] at hnodup
    have hsame := List.inj_on_of_nodup_map hnodup hother hmem hplace
    rw [← hsame]
    exact hmenu
  | some key =>
    rw [hkey] at hprobed hshown
    obtain ⟨found, hfound, other, hother, hmenu, hotherShown⟩ := hprobed
    have hkeys := shown_nodup h hlisted List.nodup_nil
    rw [List.nil_append] at hkeys
    have hsame := eq_of_key_eq (fun probe : Probe => rowKey probe.shown) hkeys
      (List.mem_flatMap.mpr ⟨found, hfound, hother⟩)
      (List.mem_flatMap.mpr ⟨search, hsearch, hmem⟩) hotherShown hshown
    rw [← hsame]
    exact hmenu

theorem scanned_of_run {state : σ}
    (h : (run ui request state).failureReason = some .serverNotFound) :
    Scanned request.expectedServerName [] (scan ui request state).2.1 := by
  unfold run at h
  split at h
  next =>
    unfold scan at h ⊢
    cases hstart : (ui.start state).1 with
    | ready =>
      rw [hstart] at h
      simp only [Start.reason] at h ⊢
      generalize hscanned : scanTerms ui request true [] true request.searchTerms
        (ui.start state).2 = scanned at h ⊢
      obtain ⟨ended, searches, final⟩ := scanned
      cases ended with
      | finished => exact scanTerms_finished hscanned
      | raised error =>
        cases error with
        | driverFailure => cases h
        | timeout => cases h
      | found label labels items => cases h
    | terminalStartFailed =>
      rw [hstart] at h
      cases h
    | terminalProcessAmbiguous =>
      rw [hstart] at h
      cases h
    | wizardNotFound =>
      rw [hstart] at h
      cases h
    | driverFailure =>
      rw [hstart] at h
      cases h
  next => cases h

/-- As long as the rows keep their places, a scan that does not find the server was exhaustive
exactly when every row it clicked led to a server menu. -/
theorem scan_exhaustive (ui : WizardUi σ) (request : Request) (state : σ)
    (h : (run ui request state).failureReason = some .serverNotFound)
    (hlisted : AsListed (scan ui request state).2.1) :
    Exhaustive request.expectedServerName (scan ui request state).2.1 ↔
      Reached (scan ui request state).2.1 := by
  have hscanned := scanned_of_run h
  constructor
  · intro hexhaustive
    exact reached_of_exhaustive hscanned hlisted hexhaustive
  · intro hreached
    exact exhaustive_of_reached hscanned hlisted hreached

def oneRow : Page := ⟨1, fun _ => ⟨some "Pepperstone", some "PepperstoneUK"⟩⟩

/-- A wizard that finds the same broker for every term. The menu is read or not. -/
def oneBrokerUi (next : Click) (menu : Menu) : WizardUi Unit where
  start := fun state => (.ready, state)
  searchBrokerResults := fun _ state => (some oneRow, state)
  late := fun state => (false, state)
  clickBrokerResult := fun _ state => (true, state)
  clickNext := fun state => (next, state)
  resumeBrokerResults := fun _ state => (some oneRow, state)
  readMenu := fun state => (menu, state)
  recoverBrokerResults := fun _ state => (some oneRow, state)
  close := fun state => (true, state)

def twoTerms : Request := ⟨"Pepperstone-Live", "Pepperstone", ["Pepperstone", "Pepper"]⟩

theorem scan_exhaustive_oneBroker :
    Exhaustive "Pepperstone-Live"
      (scan (oneBrokerUi .done (.items [some "Other-Live"])) twoTerms ()).2.1 := by
  have h : (run (oneBrokerUi .done (.items [some "Other-Live"])) twoTerms ()).failureReason =
      some .serverNotFound := by decide +kernel
  have hprobes : ∀ search ∈ (scan (oneBrokerUi .done (.items [some "Other-Live"])) twoTerms ()).2.1,
      ∀ probe ∈ search.probes, rowKey probe.shown = rowKey (search.page.row probe.index) ∧
        probe.menu.isSome = true := by decide +kernel
  exact (scan_exhaustive _ twoTerms () h fun search hsearch probe hmem =>
    (hprobes search hsearch probe hmem).1).mpr fun search hsearch probe hmem =>
      (hprobes search hsearch probe hmem).2

/-- The click on Next fails once, and the broker counts as tested although its servers were never
read: the second search, which returns it again, does not probe it either. -/
theorem failed_row_dropped :
    (run (oneBrokerUi .recoverable .crash) twoTerms ()).failureReason = some .serverNotFound ∧
      (scan (oneBrokerUi .recoverable .crash) twoTerms ()).2.1.map (fun search =>
        (search.indices, search.probes.map Probe.menu)) = [([0], [none]), ([], [])] ∧
      ¬ Exhaustive "Pepperstone-Live" (scan (oneBrokerUi .recoverable .crash) twoTerms ()).2.1 := by
  have hsearches : (scan (oneBrokerUi .recoverable .crash) twoTerms ()).2.1 =
      [⟨oneRow, [0], [⟨0, oneRow.row 0, none⟩]⟩, ⟨oneRow, [], []⟩] := by
    rfl
  refine ⟨by decide +kernel, by decide +kernel, ?_⟩
  intro h
  rw [hsearches] at h
  have hprobed := h.probed _ List.mem_cons_self 0 (by decide)
  obtain ⟨other, hother, probe, hmem, hmenu, _⟩ := hprobed
  have hnone : ∀ search ∈ [(⟨oneRow, [0], [⟨0, oneRow.row 0, none⟩]⟩ : Search), ⟨oneRow, [], []⟩],
      ∀ probe ∈ search.probes, probe.menu = none := by decide
  rw [hnone other hother probe hmem] at hmenu
  cases hmenu

def twoRows (swapped : Bool) : Page :=
  ⟨2, fun index => if (index == 0) == swapped then ⟨some "Axi", none⟩ else ⟨some "Tickmill", none⟩⟩

/-- A wizard whose list comes back with its two rows in the other order. -/
def swappingUi : WizardUi Unit where
  start := fun state => (.ready, state)
  searchBrokerResults := fun _ state => (some (twoRows false), state)
  late := fun state => (false, state)
  clickBrokerResult := fun _ state => (true, state)
  clickNext := fun state => (.done, state)
  resumeBrokerResults := fun _ state => (some (twoRows true), state)
  readMenu := fun state => (.items [some "Other-Live"], state)
  recoverBrokerResults := fun _ state => (some (twoRows true), state)
  close := fun state => (true, state)

/-- Every click leads to a menu, but the second one falls on the first broker again. -/
theorem moved_row_dropped :
    (run swappingUi ⟨"Axi-Live", "Axi", ["Axi"]⟩ ()).failureReason = some .serverNotFound ∧
      Reached (scan swappingUi ⟨"Axi-Live", "Axi", ["Axi"]⟩ ()).2.1 ∧
      ¬ Exhaustive "Axi-Live" (scan swappingUi ⟨"Axi-Live", "Axi", ["Axi"]⟩ ()).2.1 := by
  refine ⟨by decide +kernel, ?_, ?_⟩
  · unfold Reached
    decide +kernel
  intro h
  have hone : ∀ search ∈ (scan swappingUi ⟨"Axi-Live", "Axi", ["Axi"]⟩ ()).2.1,
      ∀ probe ∈ search.probes, rowKey probe.shown ≠ some ["axi".toList] := by decide +kernel
  have hlast : ∃ search ∈ (scan swappingUi ⟨"Axi-Live", "Axi", ["Axi"]⟩ ()).2.1,
      1 ∈ positions search.page ∧
        rowKey (search.page.row 1) = some ["axi".toList] := by decide +kernel
  obtain ⟨search, hsearch, hposition, hkey⟩ := hlast
  have hprobed := h.probed search hsearch 1 hposition
  unfold Search.Probed at hprobed
  rw [hkey] at hprobed
  obtain ⟨other, hother, probe, hmem, _, hshown⟩ := hprobed
  exact hone other hother probe hmem hshown

end Exhaustion

end TradeJournalWorker.WizardScan
