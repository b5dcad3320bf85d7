import Mathlib.Data.List.Dedup
import TradeJournalWorker.EventNormalizer

namespace TradeJournalWorker

/-- The digits of an `int` literal, with single underscores between them. -/
def pyDigits (value : Nat) (afterDigit : Bool) : List Char → Option Nat
  | [] => if afterDigit then some value else none
  | c :: rest =>
    if c.isDigit then pyDigits (value * 10 + (c.toNat - '0'.toNat)) true rest
    else if c = '_' ∧ afterDigit then pyDigits value false rest
    else none

/-- `int(text)` of a stripped text. -/
def pyInt : List Char → Option Int
  | '-' :: rest => (pyDigits 0 false rest).map fun value => -(value : Int)
  | '+' :: rest => (pyDigits 0 false rest).map Int.ofNat
  | text => (pyDigits 0 false text).map Int.ofNat

def identifier (value : Option String) : Option Nat :=
  match value.bind fun text => pyInt (pyStrip text) with
  | some number => if 0 < number then some number.toNat else none
  | none => none

/-- `_identifiers`. -/
def identifiers (values : List (Option String)) : List Nat := values.filterMap identifier

/-- `_symbols_from_rows` on rows of any kind; `identity` reads the identity fields. -/
def symbolsFromRows {ρ : Type} (rows : OrderedDict String ρ) (wanted : List Nat)
    (identity : ρ → List (Option String)) (symbol : ρ → Option String) (includeKey : Bool) :
    List String :=
  if wanted = [] then []
  else
    rows.entries.filterMap fun (key, row) =>
      let own := identifiers ((if includeKey then [some key] else []) ++ identity row)
      if own.any (· ∈ wanted) then usableSymbol (symbol row) else none

/-- What `_authoritative_symbol` reads of a record or of an event. -/
structure SymbolQuery where
  symbol : Option String
  isDealAdd : Bool
  ticket : Option String
  positionId : Option String
  positionTicket : Option String
  orderId : Option String
  dealId : Option String
  deriving DecidableEq, Repr

def EventRecord.symbolQuery (record : EventRecord) : SymbolQuery :=
  { symbol := record.symbol, isDealAdd := record.eventType = .dealAdd, ticket := some record.ticket
    positionId := record.positionId, positionTicket := record.positionTicket
    orderId := record.orderId, dealId := record.dealId }

def RawEvent.symbolQuery (event : RawEvent) : SymbolQuery :=
  { symbol := event.symbol, isDealAdd := false, ticket := some event.ticket
    positionId := none, positionTicket := event.positionTicket, orderId := none, dealId := none }

/-- The symbols that one snapshot binds to the positions, deals and orders of a query. -/
def symbolCandidates (positionIds dealIds orderIds : List Nat) (snapshot : Snapshot) :
    List String :=
  symbolsFromRows snapshot.positions positionIds
      (fun row => [row.ticket, row.positionId, row.positionTicket]) PositionRow.symbol true ++
    symbolsFromRows snapshot.deals dealIds (fun row => [row.ticket, row.dealId])
      DealRow.symbol true ++
    symbolsFromRows snapshot.orders orderIds (fun row => [row.ticket, row.orderId])
      OrderRow.symbol true ++
    symbolsFromRows snapshot.deals positionIds (fun row => [row.positionId, row.positionTicket])
      DealRow.symbol false ++
    symbolsFromRows snapshot.orders positionIds (fun row => [row.positionId, row.positionTicket])
      OrderRow.symbol false

/-- `_authoritative_symbol`: the own symbol, else the one on which all related rows agree. -/
def authoritativeSymbol (query : SymbolQuery) (previous current : Snapshot) : Option String :=
  match usableSymbol query.symbol with
  | some symbol => some symbol
  | none =>
    let positionIds := identifiers ([query.positionId, query.positionTicket] ++
      if query.isDealAdd then [] else [query.ticket])
    let dealIds := identifiers ([query.dealId] ++ if query.isDealAdd then [query.ticket] else [])
    let orderIds := identifiers [query.orderId]
    let candidates := symbolCandidates positionIds dealIds orderIds current ++
      symbolCandidates positionIds dealIds orderIds previous
    match candidates.dedup with
    | [symbol] => some symbol
    | _ => none

theorem mem_symbolsFromRows_usable {ρ : Type} {rows : OrderedDict String ρ} {wanted : List Nat}
    {identity : ρ → List (Option String)} {symbol : ρ → Option String} {includeKey : Bool}
    {text : String} (h : text ∈ symbolsFromRows rows wanted identity symbol includeKey) :
    ∃ row, usableSymbol (symbol row) = some text := by
  unfold symbolsFromRows at h
  split at h
  · exact absurd h List.not_mem_nil
  · obtain ⟨⟨key, row⟩, -, hrow⟩ := List.mem_filterMap.mp h
    obtain ⟨-, hsymbol⟩ := Option.ite_none_right_eq_some.mp hrow
    exact ⟨row, hsymbol⟩

theorem usableSymbol_idem {value : Option String} {text : String}
    (h : usableSymbol value = some text) : usableSymbol (some text) = some text := by
  have hvalue := usableSymbol_eq_some h
  rwa [hvalue] at h

/-- Whatever is resolved is usable itself. -/
theorem authoritativeSymbol_usable {query : SymbolQuery} {previous current : Snapshot}
    {symbol : String} (h : authoritativeSymbol query previous current = some symbol) :
    usableSymbol (some symbol) = some symbol := by
  have hcandidate : ∀ {positionIds dealIds orderIds : List Nat} {snapshot : Snapshot},
      symbol ∈ symbolCandidates positionIds dealIds orderIds snapshot →
      usableSymbol (some symbol) = some symbol := by
    intro positionIds dealIds orderIds snapshot hmem
    simp only [symbolCandidates, List.mem_append] at hmem
    rcases hmem with (((hmem | hmem) | hmem) | hmem) | hmem <;>
      · obtain ⟨row, hrow⟩ := mem_symbolsFromRows_usable hmem
        exact usableSymbol_idem hrow
  unfold authoritativeSymbol at h
  split at h
  next own hown =>
    cases h
    exact usableSymbol_idem hown
  next =>
    simp only at h
    split at h
    next found hfound =>
      cases h
      have hmem : symbol ∈ (symbolCandidates _ _ _ current ++ symbolCandidates _ _ _ previous) :=
        List.mem_dedup.mp (by rw [hfound]; exact List.mem_singleton_self symbol)
      rcases List.mem_append.mp hmem with hmem | hmem
      · exact hcandidate hmem
      · exact hcandidate hmem
    next => cases h

end TradeJournalWorker
