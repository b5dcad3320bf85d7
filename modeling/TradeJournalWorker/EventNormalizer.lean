import Mathlib.Data.List.TakeWhile
import TradeJournalWorker.EventTypes
import TradeJournalWorker.OutboxState

namespace TradeJournalWorker

/-- `str.isspace` of one character. -/
def isPySpace (c : Char) : Bool :=
  c.toNat ∈ [9, 10, 11, 12, 13, 28, 29, 30, 31, 32, 133, 160, 5760, 8192, 8193, 8194, 8195, 8196,
    8197, 8198, 8199, 8200, 8201, 8202, 8232, 8233, 8239, 8287, 12288]

/-- `str.strip`. -/
def pyStrip (text : String) : List Char :=
  ((text.toList.dropWhile isPySpace).reverse.dropWhile isPySpace).reverse

/-- `_usable_symbol`; `validate_event_preflight` repeats the same test. -/
def usableSymbol (value : Option String) : Option String :=
  match value with
  | none => none
  | some symbol =>
    if symbol = "" ∨ symbol.toList ≠ pyStrip symbol ∨ 64 < symbol.length ∨
        symbol.toList.any (fun c => c.toNat < 32) then none
    else some symbol

theorem usableSymbol_eq_some {value : Option String} {symbol : String}
    (h : usableSymbol value = some symbol) : value = some symbol := by
  unfold usableSymbol at h
  cases value with
  | none => cases h
  | some text =>
    simp only at h
    split at h
    · cases h
    · exact h

inductive PreflightError where
  | symbolUnavailable
  | directionUnavailable
  | volumeUnavailable
  deriving DecidableEq, Repr

def PreflightError.text : PreflightError → String
  | symbolUnavailable => "trade_opened symbol unavailable"
  | directionUnavailable => "trade_opened direction unavailable"
  | volumeUnavailable => "trade_opened volume unavailable"

def validateEventPreflight (event : RawEvent) : Except PreflightError Unit :=
  if event.eventType ≠ .tradeOpened then .ok ()
  else if usableSymbol event.symbol = none then .error .symbolUnavailable
  else if event.direction ≠ some "buy" ∧ event.direction ≠ some "sell" then
    .error .directionUnavailable
  else
    match event.volume with
    | none => .error .volumeUnavailable
    | some volume => if volume ≤ 0 then .error .volumeUnavailable else .ok ()

/-- The fields an event id may be computed from. -/
inductive FingerprintField where
  | symbol
  | direction
  | volume
  | price
  | openPrice
  | closePrice
  | stopLoss
  | takeProfit
  | previousStopLoss
  | previousTakeProfit
  | openTime
  | closeTime
  | nativeDealTicket
  | positionTicket
  | timeMsc
  | profit
  | commission
  | totalCommission
  | swap
  | previousVolume
  | partialClose
  | maePoints
  | mfePoints
  | excursionSamples
  deriving DecidableEq, Repr

inductive FieldValue where
  | null
  | text (value : String)
  | number (value : Rat)
  | integer (value : Int)
  | flag (value : Bool)
  deriving DecidableEq, Repr

namespace FieldValue

def ofText (value : Option String) : FieldValue := value.elim null text
def ofNumber (value : Option Rat) : FieldValue := value.elim null number
def ofInteger (value : Option Int) : FieldValue := value.elim null integer
def ofFlag (value : Option Bool) : FieldValue := value.elim null flag

theorem ofText_inj {a b : Option String} (h : ofText a = ofText b) : a = b := by
  cases a <;> cases b <;> simp_all [ofText]

theorem ofNumber_inj {a b : Option Rat} (h : ofNumber a = ofNumber b) : a = b := by
  cases a <;> cases b <;> simp_all [ofNumber]

end FieldValue

/-- `event.get(name)`. -/
def RawEvent.get (event : RawEvent) : FingerprintField → FieldValue
  | .symbol => .ofText event.symbol
  | .direction => .ofText event.direction
  | .volume => .ofNumber event.volume
  | .price => .ofNumber event.price
  | .openPrice => .ofNumber event.openPrice
  | .closePrice => .ofNumber event.closePrice
  | .stopLoss => .ofNumber event.stopLoss
  | .takeProfit => .ofNumber event.takeProfit
  | .previousStopLoss => .ofNumber event.previousStopLoss
  | .previousTakeProfit => .ofNumber event.previousTakeProfit
  | .openTime => .ofText event.openTime
  | .closeTime => .ofText event.closeTime
  | .nativeDealTicket => .ofText event.nativeDealTicket
  | .positionTicket => .ofText event.positionTicket
  | .timeMsc => .ofInteger event.timeMsc
  | .profit => .ofNumber event.profit
  | .commission => .ofNumber event.commission
  | .totalCommission => .ofNumber event.totalCommission
  | .swap => .ofNumber event.swap
  | .previousVolume => .ofNumber event.previousVolume
  | .partialClose => .ofFlag event.partialClose
  | .maePoints => .ofNumber event.excursion.maePoints
  | .mfePoints => .ofNumber event.excursion.mfePoints
  | .excursionSamples => .ofInteger (event.excursion.samples.map Int.ofNat)

/-- `_FINGERPRINT_FIELDS`. -/
def fingerprintFields : EventType → List FingerprintField
  | .tradeOpened => [.symbol, .direction, .volume, .openPrice, .stopLoss, .takeProfit, .openTime]
  | .tradeModified => [.stopLoss, .takeProfit, .previousStopLoss, .previousTakeProfit]
  | .tradeClosed => [.nativeDealTicket, .timeMsc, .volume, .closePrice, .profit, .commission,
      .totalCommission, .swap, .closeTime, .maePoints, .mfePoints, .excursionSamples]
  | .tradePartialClosed => [.nativeDealTicket, .timeMsc, .volume, .closePrice, .profit,
      .commission, .swap, .closeTime]
  | .pendingOrderCreated => [.symbol, .direction, .volume, .price, .stopLoss, .takeProfit]
  | .pendingOrderModified => [.price, .stopLoss, .takeProfit, .previousStopLoss,
      .previousTakeProfit]
  | .pendingOrderCancelled => [.symbol, .direction, .volume, .price]
  | .tradeVolumeChanged => [.volume, .previousVolume, .partialClose]
  | .dealRecorded => [.positionTicket, .closePrice, .profit, .commission, .swap, .closeTime]

/-- `_NATIVE_DEAL_EVENTS`. -/
def nativeDealEvents : List EventType :=
  [.tradeOpened, .tradeVolumeChanged, .tradePartialClosed, .tradeClosed]

abbrev Fingerprint := List (FingerprintField × FieldValue)

def fingerprint (event : RawEvent) : Fingerprint :=
  let fields :=
    if event.eventType ∈ nativeDealEvents ∧ event.nativeDealTicket ≠ none then
      [.nativeDealTicket]
    else fingerprintFields event.eventType
  fields.map fun name => (name, event.get name)

/-- `digest` stands for the first 16 hexadecimal digits of the SHA-256 of the
fingerprint rendered as JSON. -/
def buildEventId (digest : Fingerprint → String) (accountNumber : Option String)
    (event : RawEvent) : String :=
  "mt5-" ++ (pyOr accountNumber (some "unknown")).getD "" ++ "-" ++ event.eventType.text ++ "-" ++
    event.ticket ++ "-" ++ digest (fingerprint event)

structure AccountSnapshot where
  balance : Rat
  equity : Rat
  currency : String
  leverage : Int
  deriving DecidableEq, Repr

/-- The body of one request of the ingestion API. -/
structure Payload where
  eventId : String
  eventType : EventType
  platform : String
  accountNumber : Option String
  server : Option String
  externalTradeId : String
  symbol : Option String
  direction : Option String
  volume : Option Rat
  price : Option Rat
  openPrice : Option Rat
  closePrice : Option Rat
  stopLoss : Option Rat
  takeProfit : Option Rat
  previousStopLoss : Option Rat
  previousTakeProfit : Option Rat
  profit : Option Rat
  commission : Option Rat
  totalCommission : Option Rat
  swap : Option Rat
  openTime : Option String
  closeTime : Option String
  eventTime : String
  excursion : ExcursionFields
  account : Option AccountSnapshot
  balanceBeforeOpen : Option Rat
  nativeDealTicket : Option String
  timeMsc : Option Int
  timeBasis : Option String
  commissionComplete : Option Bool
  previousVolume : Option Rat
  partialClose : Option Bool
  fee : Option Rat
  deriving DecidableEq, Repr

instance : Identified Payload := ⟨Payload.eventId⟩

/-- The account state is forwarded only when all four values are there. -/
def accountSnapshot (event : RawEvent) : Option AccountSnapshot := do
  let balance ← event.balance
  let equity ← event.equity
  let currency ← event.currency
  let leverage ← event.leverage
  return { balance, equity, currency, leverage }

structure Account where
  login : Option String
  server : Option String
  deriving DecidableEq, Repr

def normalizedPayload (digest : Fingerprint → String) (account : Account) (now : String)
    (event : RawEvent) : Payload :=
  { eventId := buildEventId digest account.login event
    eventType := event.eventType
    platform := "mt5"
    accountNumber := account.login
    server := account.server
    externalTradeId := event.ticket
    symbol := event.symbol
    direction := event.direction
    volume := event.volume
    price := event.price
    openPrice := event.openPrice
    closePrice := event.closePrice
    stopLoss := event.stopLoss
    takeProfit := event.takeProfit
    previousStopLoss := event.previousStopLoss
    previousTakeProfit := event.previousTakeProfit
    profit := event.profit
    commission := event.commission
    totalCommission := event.totalCommission
    swap := event.swap
    openTime := event.openTime
    closeTime := event.closeTime
    eventTime := (pyOr event.eventTime (some now)).getD ""
    excursion := event.excursion
    account := accountSnapshot event
    balanceBeforeOpen := event.balanceBeforeOpen
    nativeDealTicket := event.nativeDealTicket
    timeMsc := event.timeMsc
    timeBasis := event.timeBasis
    commissionComplete := event.commissionComplete
    previousVolume := event.previousVolume
    partialClose := event.partialClose
    fee := event.fee }

def normalizeEvent (digest : Fingerprint → String) (account : Account) (now : String)
    (event : RawEvent) : Except PreflightError Payload := do
  validateEventPreflight event
  return normalizedPayload digest account now event

section Identity

variable {digest : Fingerprint → String} {accountNumber : Option String}

theorem append_dash_inj {a b c d : List Char} (ha : '-' ∉ a) (hb : '-' ∉ b)
    (h : a ++ '-' :: c = b ++ '-' :: d) : a = b ∧ c = d := by
  induction a generalizing b with
  | nil =>
    cases b with
    | nil => simpa using h
    | cons x rest =>
      have hx : '-' = x := by simpa using (List.cons.inj h).1
      exact absurd (hx ▸ List.mem_cons_self) hb
  | cons x rest ih =>
    cases b with
    | nil =>
      have hx : x = '-' := by simpa using (List.cons.inj h).1
      exact absurd (hx ▸ List.mem_cons_self) ha
    | cons y tail =>
      obtain ⟨rfl, htail⟩ := List.cons.inj h
      have hrest := ih (fun hm => ha (List.mem_cons_of_mem _ hm))
        (fun hm => hb (List.mem_cons_of_mem _ hm)) htail
      exact ⟨by rw [hrest.1], hrest.2⟩

theorem eventType_text_no_dash (t : EventType) : '-' ∉ t.text.toList := by
  cases t <;> decide

theorem eventType_text_inj {a b : EventType} (h : a.text = b.text) : a = b := by
  cases a <;> cases b <;> first | rfl | exact absurd h (by decide)

theorem dash_append_inj {a b c d : List Char} (hc : '-' ∉ c) (hd : '-' ∉ d)
    (h : a ++ '-' :: c = b ++ '-' :: d) : a = b ∧ c = d := by
  have hreverse := congrArg List.reverse h
  simp only [List.reverse_append, List.reverse_cons, List.append_assoc,
    List.singleton_append] at hreverse
  obtain ⟨htail, hhead⟩ := append_dash_inj (by simpa using hc) (by simpa using hd) hreverse
  exact ⟨List.reverse_injective hhead, List.reverse_injective htail⟩

/-- The letters of `hexdigest`. -/
def HexDigits (digest : Fingerprint → String) : Prop :=
  ∀ f, ∀ c ∈ (digest f).toList, c.isDigit ∨ c ∈ ['a', 'b', 'c', 'd', 'e', 'f']

theorem HexDigits.no_dash (hdigest : HexDigits digest) (f : Fingerprint) :
    '-' ∉ (digest f).toList := by
  intro hmem
  rcases hdigest f '-' hmem with h | h
  · exact absurd h (by decide)
  · exact absurd h (by decide)

/-- One account never gives one id to events of two types, of two tickets or of two
fingerprints with different digests. -/
theorem buildEventId_inj (hdigest : HexDigits digest) {a b : RawEvent}
    (h : buildEventId digest accountNumber a = buildEventId digest accountNumber b) :
    a.eventType = b.eventType ∧ a.ticket = b.ticket ∧
      digest (fingerprint a) = digest (fingerprint b) := by
  unfold buildEventId at h
  have hlist := congrArg String.toList h
  simp only [String.toList_append, List.append_assoc, List.append_cancel_left_eq] at hlist
  have hdash : "-".toList = ['-'] := by decide
  rw [hdash] at hlist
  simp only [List.singleton_append] at hlist
  obtain ⟨htype, hrest⟩ :=
    append_dash_inj (eventType_text_no_dash a.eventType) (eventType_text_no_dash b.eventType) hlist
  obtain ⟨hticket, hsame⟩ := dash_append_inj (hdigest.no_dash _) (hdigest.no_dash _) hrest
  exact ⟨eventType_text_inj (String.toList_injective htype), String.toList_injective hticket,
    String.toList_injective hsame⟩

theorem buildEventId_congr {a b : RawEvent} (htype : a.eventType = b.eventType)
    (hticket : a.ticket = b.ticket) (hfingerprint : fingerprint a = fingerprint b) :
    buildEventId digest accountNumber a = buildEventId digest accountNumber b := by
  unfold buildEventId
  rw [htype, hticket, hfingerprint]

/-- With a native deal ticket the id depends on nothing but type, ticket and deal. -/
theorem buildEventId_native {a b : RawEvent} (htype : a.eventType = b.eventType)
    (hticket : a.ticket = b.ticket) (hnative : a.eventType ∈ nativeDealEvents)
    (hdeal : a.nativeDealTicket = b.nativeDealTicket) (hsome : a.nativeDealTicket ≠ none) :
    buildEventId digest accountNumber a = buildEventId digest accountNumber b := by
  have hfingerprint : fingerprint a = fingerprint b := by
    unfold fingerprint
    rw [if_pos ⟨hnative, hsome⟩, if_pos ⟨htype ▸ hnative, hdeal ▸ hsome⟩]
    simp [RawEvent.get, hdeal]
  exact buildEventId_congr htype hticket hfingerprint

theorem buildEventId_nonempty (event : RawEvent) : buildEventId digest accountNumber event ≠ "" := by
  intro h
  have hlength := congrArg String.length h
  unfold buildEventId at hlength
  simp only [String.length_append] at hlength
  have hhead : "mt5-".length = 4 := by decide
  have hempty : "".length = 0 := by decide
  omega

/-- Digits of the numbers of a fingerprint, in the place of its digest. -/
def numbersDigest (f : Fingerprint) : String :=
  String.ofList (f.flatMap fun entry =>
    match entry.2 with
    | .number value => '2' :: Nat.toDigits 10 value.num.natAbs
    | .text _ => ['1']
    | _ => ['0'])

theorem hexDigits_numbersDigest : HexDigits numbersDigest := by
  intro f c hc
  unfold numbersDigest at hc
  rw [String.toList_ofList] at hc
  obtain ⟨entry, -, hentry⟩ := List.mem_flatMap.mp hc
  left
  split at hentry
  · rcases List.mem_cons.mp hentry with rfl | hdigit
    · rfl
    · exact Nat.isDigit_of_mem_toDigits (by omega) (by omega) hdigit
  · rw [List.mem_singleton.mp hentry]
    rfl
  · rw [List.mem_singleton.mp hentry]
    rfl

end Identity

end TradeJournalWorker
