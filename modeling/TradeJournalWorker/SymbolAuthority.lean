import TradeJournalWorker.AuthoritativeSymbol
import TradeJournalWorker.FirstOccurrences

namespace TradeJournalWorker

open FirstOccurrences

/-- One of the values is one of the wanted identifiers. -/
def sharesIdentifier (wanted : List Nat) (values : List (Option String)) : Bool :=
  (identifiers values).any (· ∈ wanted)

namespace SymbolQuery

def positionIds (query : SymbolQuery) : List Nat :=
  identifiers ([query.positionId, query.positionTicket] ++
    if query.isDealAdd then [] else [query.ticket])

def dealIds (query : SymbolQuery) : List Nat :=
  identifiers ([query.dealId] ++ if query.isDealAdd then [query.ticket] else [])

def orderIds (query : SymbolQuery) : List Nat := identifiers [query.orderId]

end SymbolQuery

/-- A row of one of the three collections of a snapshot, with its key. -/
inductive SymbolRow where
  | position (key : String) (row : PositionRow)
  | deal (key : String) (row : DealRow)
  | order (key : String) (row : OrderRow)
  deriving DecidableEq

def Snapshot.symbolRows (snapshot : Snapshot) : List SymbolRow :=
  snapshot.positions.entries.map (fun entry => .position entry.1 entry.2) ++
    snapshot.deals.entries.map (fun entry => .deal entry.1 entry.2) ++
    snapshot.orders.entries.map (fun entry => .order entry.1 entry.2)

namespace SymbolRow

def symbol : SymbolRow → Option String
  | position _ row => row.symbol
  | deal _ row => row.symbol
  | order _ row => row.symbol

/-- A row shares an identifier of the query, each kind of identifier compared with its own kind;
the key of a deal or an order never names a position. -/
def related (query : SymbolQuery) : SymbolRow → Bool
  | position key row =>
    sharesIdentifier query.positionIds [some key, row.ticket, row.positionId, row.positionTicket]
  | deal key row =>
    sharesIdentifier query.dealIds [some key, row.ticket, row.dealId] ||
      sharesIdentifier query.positionIds [row.positionId, row.positionTicket]
  | order key row =>
    sharesIdentifier query.orderIds [some key, row.ticket, row.orderId] ||
      sharesIdentifier query.positionIds [row.positionId, row.positionTicket]

/-- The row is related to the query and its symbol is usable. -/
def Names (query : SymbolQuery) (text : String) (row : SymbolRow) : Prop :=
  row.related query ∧ usableSymbol row.symbol = some text

instance (query : SymbolQuery) (text : String) (row : SymbolRow) :
    Decidable (row.Names query text) :=
  inferInstanceAs (Decidable (_ ∧ _))

end SymbolRow

/-- The rows of the two snapshots of a poll. -/
def pollRows (previous current : Snapshot) : List SymbolRow :=
  current.symbolRows ++ previous.symbolRows

/-- Some related row has a usable symbol, and every such symbol is `text`. -/
def RelatedAgree (query : SymbolQuery) (rows : List SymbolRow) (text : String) : Prop :=
  (∃ row ∈ rows, row.Names query text) ∧ ∀ row ∈ rows, ∀ other, row.Names query other → other = text

theorem mem_symbolsFromRows {ρ : Type} {rows : OrderedDict String ρ} {wanted : List Nat}
    {identity : ρ → List (Option String)} {symbol : ρ → Option String} {includeKey : Bool}
    {text : String} :
    text ∈ symbolsFromRows rows wanted identity symbol includeKey ↔
      ∃ key row, (key, row) ∈ rows.entries ∧
        sharesIdentifier wanted ((if includeKey then [some key] else []) ++ identity row) ∧
        usableSymbol (symbol row) = some text := by
  have hempty : ∀ values, sharesIdentifier [] values = false := by
    intro values
    simp [sharesIdentifier]
  unfold symbolsFromRows
  split
  next hwanted =>
    subst hwanted
    simp [hempty]
  next =>
    simp only [List.mem_filterMap, Prod.exists]
    constructor
    · intro ⟨key, row, hmem, hrow⟩
      obtain ⟨hshared, hsymbol⟩ := Option.ite_none_right_eq_some.mp hrow
      exact ⟨key, row, hmem, hshared, hsymbol⟩
    · intro ⟨key, row, hmem, hshared, hsymbol⟩
      exact ⟨key, row, hmem, Option.ite_none_right_eq_some.mpr ⟨hshared, hsymbol⟩⟩

/-- The five searches through a snapshot find what its related rows name. -/
theorem mem_symbolCandidates {query : SymbolQuery} {snapshot : Snapshot} {text : String} :
    text ∈ symbolCandidates query.positionIds query.dealIds query.orderIds snapshot ↔
      ∃ row ∈ snapshot.symbolRows, row.Names query text := by
  simp only [symbolCandidates, List.mem_append, mem_symbolsFromRows, Snapshot.symbolRows,
    List.mem_map, Prod.exists]
  constructor
  · intro h
    rcases h with (((h | h) | h) | h) | h
    all_goals obtain ⟨key, row, hmem, hshared, hsymbol⟩ := h
    · exact ⟨.position key row, Or.inl (Or.inl ⟨key, row, hmem, rfl⟩), hshared, hsymbol⟩
    · exact ⟨.deal key row, Or.inl (Or.inr ⟨key, row, hmem, rfl⟩),
        Bool.or_eq_true_iff.mpr (Or.inl hshared), hsymbol⟩
    · exact ⟨.order key row, Or.inr ⟨key, row, hmem, rfl⟩,
        Bool.or_eq_true_iff.mpr (Or.inl hshared), hsymbol⟩
    · exact ⟨.deal key row, Or.inl (Or.inr ⟨key, row, hmem, rfl⟩),
        Bool.or_eq_true_iff.mpr (Or.inr hshared), hsymbol⟩
    · exact ⟨.order key row, Or.inr ⟨key, row, hmem, rfl⟩,
        Bool.or_eq_true_iff.mpr (Or.inr hshared), hsymbol⟩
  · rintro ⟨found, hfound, hrelated, hsymbol⟩
    rcases hfound with (⟨key, row, hmem, h⟩ | ⟨key, row, hmem, h⟩) | ⟨key, row, hmem, h⟩
    all_goals subst h
    · exact Or.inl (Or.inl (Or.inl (Or.inl ⟨key, row, hmem, hrelated, hsymbol⟩)))
    · rcases Bool.or_eq_true_iff.mp hrelated with hshared | hshared
      · exact Or.inl (Or.inl (Or.inl (Or.inr ⟨key, row, hmem, hshared, hsymbol⟩)))
      · exact Or.inl (Or.inr ⟨key, row, hmem, hshared, hsymbol⟩)
    · rcases Bool.or_eq_true_iff.mp hrelated with hshared | hshared
      · exact Or.inl (Or.inl (Or.inr ⟨key, row, hmem, hshared, hsymbol⟩))
      · exact Or.inr ⟨key, row, hmem, hshared, hsymbol⟩

/-- The one text of a list without repetitions. -/
def soleText : List String → Option String
  | [text] => some text
  | _ => none

theorem soleText_dedup {texts : List String} {text : String} :
    soleText texts.dedup = some text ↔ text ∈ texts ∧ ∀ other ∈ texts, other = text := by
  rw [← dedup_eq_singleton]
  unfold soleText
  split
  next only hlist => simp [hlist]
  next hlist =>
    constructor
    · intro h
      cases h
    · intro h
      exact absurd h (hlist text)

theorem authoritativeSymbol_own {query : SymbolQuery} {previous current : Snapshot} {own : String}
    (hown : usableSymbol query.symbol = some own) :
    authoritativeSymbol query previous current = some own := by
  unfold authoritativeSymbol
  simp only [hown]

theorem authoritativeSymbol_lookup {query : SymbolQuery} {previous current : Snapshot}
    (hown : usableSymbol query.symbol = none) :
    authoritativeSymbol query previous current =
      soleText (symbolCandidates query.positionIds query.dealIds query.orderIds current ++
        symbolCandidates query.positionIds query.dealIds query.orderIds previous).dedup := by
  unfold authoritativeSymbol
  simp only [hown]
  rfl

/-- Without a usable symbol of its own, a record gets what its related rows agree on. -/
theorem authoritativeSymbol_iff {query : SymbolQuery} {previous current : Snapshot} {text : String}
    (hown : usableSymbol query.symbol = none) :
    authoritativeSymbol query previous current = some text ↔
      RelatedAgree query (pollRows previous current) text := by
  have hnames : ∀ other, other ∈
      symbolCandidates query.positionIds query.dealIds query.orderIds current ++
        symbolCandidates query.positionIds query.dealIds query.orderIds previous ↔
      ∃ row ∈ pollRows previous current, row.Names query other := by
    intro other
    simp only [List.mem_append, mem_symbolCandidates, pollRows, or_and_right, exists_or]
  rw [authoritativeSymbol_lookup hown, soleText_dedup]
  simp only [hnames, RelatedAgree]
  constructor
  · intro ⟨hex, hall⟩
    exact ⟨hex, fun row hrow other hother => hall other ⟨row, hrow, hother⟩⟩
  · intro ⟨hex, hall⟩
    exact ⟨hex, fun other ⟨row, hrow, hother⟩ => hall row hrow other hother⟩

/-- Agreement looks at the related rows only, and at no order among them. -/
theorem relatedAgree_congr {query : SymbolQuery} {rows rows' : List SymbolRow} {text : String}
    (hrows : ∀ row : SymbolRow, row.related query → (row ∈ rows ↔ row ∈ rows')) :
    RelatedAgree query rows text ↔ RelatedAgree query rows' text := by
  have hnamed : ∀ row : SymbolRow, ∀ other,
      (row ∈ rows ∧ row.Names query other) ↔ (row ∈ rows' ∧ row.Names query other) := by
    intro row other
    constructor
    · intro ⟨hmem, hrow⟩
      exact ⟨(hrows row hrow.1).mp hmem, hrow⟩
    · intro ⟨hmem, hrow⟩
      exact ⟨(hrows row hrow.1).mpr hmem, hrow⟩
  unfold RelatedAgree
  constructor
  · intro ⟨⟨row, hmem⟩, hall⟩
    exact ⟨⟨row, (hnamed row text).mp hmem⟩, fun row hrow other hother =>
      hall row ((hnamed row other).mpr ⟨hrow, hother⟩).1 other hother⟩
  · intro ⟨⟨row, hmem⟩, hall⟩
    exact ⟨⟨row, (hnamed row text).mpr hmem⟩, fun row hrow other hother =>
      hall row ((hnamed row other).mp ⟨hrow, hother⟩).1 other hother⟩

theorem authoritativeSymbol_congr {query : SymbolQuery}
    {previous current previous' current' : Snapshot}
    (hrows : ∀ row : SymbolRow, row.related query →
      (row ∈ pollRows previous current ↔ row ∈ pollRows previous' current')) :
    authoritativeSymbol query previous current =
      authoritativeSymbol query previous' current' := by
  cases hown : usableSymbol query.symbol with
  | some own => rw [authoritativeSymbol_own hown, authoritativeSymbol_own hown]
  | none =>
    apply Option.ext
    intro text
    rw [authoritativeSymbol_iff hown, authoritativeSymbol_iff hown]
    exact relatedAgree_congr hrows

/-- The entries of the three collections are the same, in any order. -/
def Snapshot.Reordered (snapshot snapshot' : Snapshot) : Prop :=
  snapshot.positions.entries.Perm snapshot'.positions.entries ∧
    snapshot.deals.entries.Perm snapshot'.deals.entries ∧
    snapshot.orders.entries.Perm snapshot'.orders.entries

theorem Snapshot.Reordered.mem_symbolRows {snapshot snapshot' : Snapshot}
    (h : snapshot.Reordered snapshot') (row : SymbolRow) :
    row ∈ snapshot.symbolRows ↔ row ∈ snapshot'.symbolRows := by
  obtain ⟨hpositions, hdeals, horders⟩ := h
  simp only [Snapshot.symbolRows, List.mem_append, List.mem_map, hpositions.mem_iff,
    hdeals.mem_iff, horders.mem_iff]

/-- A record of a deal that names its symbol, and one that does not. -/
def namedDeal : SymbolQuery :=
  { symbol := some "EURUSD", isDealAdd := true, ticket := some "7", positionId := some "3"
    positionTicket := none, orderId := some "5", dealId := some "7" }

def unnamedDeal : SymbolQuery := { namedDeal with symbol := none }

def noRows : Snapshot := {}

def poundPosition : Snapshot :=
  { positions := (∅ : OrderedDict String PositionRow).set "3" { symbol := some "GBPUSD" } }

end TradeJournalWorker
