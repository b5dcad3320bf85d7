import TradeJournalWorker.BridgeText
import TradeJournalWorker.EventFiles

namespace TradeJournalWorker.BridgeDocuments

open SurrogatePairs JsonText

/-- A string of the terminal without unpaired surrogates, and the characters it holds. -/
structure MqlText where
  units : List UInt16
  text : List Char
  written : Written units text

def MqlText.string (s : MqlText) : String := String.ofList s.text

theorem exists_mqlText_iff (units : List UInt16) :
    (∃ s : MqlText, s.units = units) ↔ (joinSurrogates (units.map UInt16.toNat)).isSome := by
  constructor
  · intro h
    obtain ⟨s, rfl⟩ := h
    rw [joinSurrogates_of_joined s.written]
    rfl
  · intro h
    obtain ⟨text, htext⟩ := Option.isSome_iff_exists.mp h
    exact ⟨⟨units, text, joined_of_joinSurrogates htext⟩, rfl⟩

/-- What `AccountInfo…`, `TimeGMT` and the connection file give. -/
structure Terminal (D : Type) where
  connectionId : MqlText
  login : Int
  server : MqlText
  balance : D
  equity : D
  currency : MqlText
  leverage : Int
  timeGmt : Datetime

/-- The arguments of `BuildEventJson`. -/
structure EventArguments (D : Type) where
  eventType : MqlText
  ticket : Int
  positionId : Int
  orderId : Int
  dealId : Int
  symbol : MqlText
  direction : MqlText
  volume : D
  price : D
  stopLoss : D
  takeProfit : D
  profit : D
  commission : D
  swap : D
  magic : Int
  comment : MqlText
  entry : MqlText
  eventTime : Datetime
  timestampMsc : Int

section Documents

variable {D : Type} (doubles : Doubles D) (terminal : Terminal D)

def integerText (value : Int) : List UInt16 := wide (integerToString value)

def fileBridgeSchemaVersion : Int := 1

/-- The time of the event, from its seconds where the milliseconds are missing. -/
def EventArguments.timeMsc (event : EventArguments D) : Int :=
  if event.timestampMsc ≤ 0 then event.eventTime.val.seconds * 1000 else event.timestampMsc

def balanceBeforeOpen (event : EventArguments D) : D :=
  doubles.sub (doubles.sub (doubles.sub terminal.balance event.profit) event.commission) event.swap

/-- An opening deal whose balance before it is known. -/
def opensWithBalance (event : EventArguments D) : Bool :=
  event.eventType.units = wide "DEAL_ADD".toList ∧ event.entry.units = wide "IN".toList ∧
    doubles.isPositive (balanceBeforeOpen doubles terminal event)

def eventId (event : EventArguments D) (eventSeq : Int) : List UInt16 :=
  terminal.connectionId.units ++ wide ['|'] ++ integerText terminal.login ++ wide ['|'] ++
    terminal.server.units ++ wide ['|'] ++ event.eventType.units ++ wide ['|'] ++
    integerText event.ticket ++ wide ['|'] ++ integerText event.timeMsc ++ wide ['|'] ++
    integerText eventSeq

def positiveId (id : Int) : List UInt16 :=
  if 0 < id then jsonString (integerText id) else wide "null".toList

def optionalText (text : List UInt16) : List UInt16 :=
  if text = [] then wide "null".toList else jsonString text

def eventMembers (event : EventArguments D) (eventSeq : Int) : List (String × List UInt16) :=
  [("event_id", jsonString (eventId terminal event eventSeq)),
    ("connection_id", jsonString terminal.connectionId.units),
    ("login", jsonString (integerText terminal.login)),
    ("server", jsonString terminal.server.units),
    ("timestamp_msc", integerText event.timeMsc),
    ("event_type", jsonString event.eventType.units),
    ("ticket", jsonString (integerText event.ticket)),
    ("position_id", positiveId event.positionId),
    ("order_id", positiveId event.orderId),
    ("deal_id", positiveId event.dealId),
    ("symbol", jsonString event.symbol.units),
    ("direction", optionalText event.direction.units),
    ("volume", jsonNumber doubles event.volume),
    ("price", jsonNumber doubles event.price),
    ("stop_loss", jsonNumber doubles event.stopLoss),
    ("take_profit", jsonNumber doubles event.takeProfit),
    ("profit", jsonNumber doubles event.profit),
    ("commission", jsonNumber doubles event.commission),
    ("swap", jsonNumber doubles event.swap),
    ("balance", jsonNumber doubles terminal.balance),
    ("equity", jsonNumber doubles terminal.equity),
    ("currency", jsonString terminal.currency.units),
    ("leverage", integerText terminal.leverage),
    ("balance_before_open",
      if opensWithBalance doubles terminal event then
        jsonNumber doubles (balanceBeforeOpen doubles terminal event)
      else wide "null".toList),
    ("magic", integerText event.magic),
    ("comment", jsonString event.comment.units),
    ("entry", optionalText event.entry.units),
    ("time", jsonString (wide (iso8601FromDatetime event.eventTime)))]

/-- `BuildEventJson` with the counter it leaves; nothing is built where `SaveCursorState` fails. -/
def buildEventJson (cursorSaved : Bool) (eventSeq : Int) (event : EventArguments D) :
    List UInt16 × Int :=
  if cursorSaved then
    (objectText (eventMembers doubles terminal event (eventSeq + 1)), eventSeq + 1)
  else ([], eventSeq)

def buildEnvelope (payload : List UInt16) (sequence : Int) : List UInt16 :=
  objectText
    [("schema_version", integerText fileBridgeSchemaVersion),
      ("generated_at", jsonString (wide (iso8601FromDatetime terminal.timeGmt))),
      ("sequence", integerText sequence),
      ("account_identity", objectText
        [("login", jsonString (integerText terminal.login)),
          ("server", jsonString terminal.server.units)]),
      ("server_identity", jsonString terminal.server.units),
      ("payload", payload)]

/-- `WriteEventAtomic`: the name of the file and what it holds. -/
def writeEventAtomic (payload : List UInt16) (eventSeq : Int) :
    Option (List Char × List UInt16) :=
  if payload = [] then none
  else some ("event-".toList ++ integerToString eventSeq ++ ".json".toList,
    buildEnvelope terminal payload eventSeq)

/-- `WriteEventAtomic(BuildEventJson(…))` with the counter behind it. -/
def emitEvent (cursorSaved : Bool) (eventSeq : Int) (event : EventArguments D) :
    Option (List Char × List UInt16) × Int :=
  (writeEventAtomic terminal (buildEventJson doubles terminal cursorSaved eventSeq event).1
      (buildEventJson doubles terminal cursorSaved eventSeq event).2,
    (buildEventJson doubles terminal cursorSaved eventSeq event).2)

end Documents

/-- What `datetime.fromisoformat` reads as a field. -/
def isoField (text : List Char) (start count : Nat) : List Char := (text.drop start).take count

def isoNumber (text : List Char) (start count : Nat) : Nat :=
  Nat.ofDigitChars 10 (isoField text start count) 0

/-- `YYYY-MM-DD HH:MM:SS+00:00` with any separator in the middle. -/
def IsoShape (text : List Char) : Prop :=
  text.length = 25 ∧
    (∀ field ∈ [(0, 4), (5, 2), (8, 2), (11, 2), (14, 2), (17, 2)],
      ∀ c ∈ isoField text field.1 field.2, c.isDigit = true) ∧
    isoField text 4 1 = ['-'] ∧ isoField text 7 1 = ['-'] ∧ isoField text 13 1 = [':'] ∧
    isoField text 16 1 = [':'] ∧ text.drop 19 = "+00:00".toList

instance (text : List Char) : Decidable (IsoShape text) := inferInstanceAs (Decidable (_ ∧ _))

def isoTime (text : List Char) : MqlDateTime where
  year := isoNumber text 0 4
  month := isoNumber text 5 2
  day := isoNumber text 8 2
  hour := isoNumber text 11 2
  minute := isoNumber text 14 2
  second := isoNumber text 17 2

/-- What the adapter is set up with; `otherShapes` reads the times that are written in another way,
as seconds since 1970. -/
structure BridgeReader where
  unicode : Unicode
  otherShapes : List Char → Option Int
  expectedLogin : Int
  expectedServer : String

def BridgeReader.fromIsoformat (reader : BridgeReader) (text : List Char) : Option Int :=
  if IsoShape text then
    if (isoTime text).Valid then some (isoTime text).seconds else none
  else reader.otherShapes text

/-- `value.replace("Z", "+00:00")`. -/
def zuluReplaced (text : List Char) : List Char :=
  text.flatMap fun c => if c = 'Z' then "+00:00".toList else [c]

def BridgeReader.parseTime (reader : BridgeReader) : JsonValue → Option Int
  | .str text => reader.fromIsoformat (zuluReplaced text.toList)
  | _ => none

inductive EnvelopeError where
  | unavailable (label : String)
  | schemaInvalid (label : String)
  | accountIdentityMismatch
  | serverIdentityMismatch
  deriving DecidableEq, Repr

def EnvelopeError.message : EnvelopeError → String
  | unavailable label => label ++ "_unavailable"
  | schemaInvalid label => label ++ "_schema_invalid"
  | accountIdentityMismatch => "account_identity_mismatch"
  | serverIdentityMismatch => "server_identity_mismatch"

/-- `isinstance(value, int)`, which a boolean is too. -/
def wholeNumber : JsonValue → Option Int
  | .int value => some value
  | .bool value => some (if value then 1 else 0)
  | _ => none

/-- The checks of `_read_path_envelope` on the decoded document. -/
def BridgeReader.acceptEnvelope (reader : BridgeReader) (label : String) :
    JsonValue → Except EnvelopeError (List (String × JsonValue) × JsonValue)
  | .obj raw =>
    if (JsonValue.get raw "schema_version").equals (.int schemaVersion) = false then
      .error (.schemaInvalid label)
    else
      match reader.parseTime (JsonValue.get raw "generated_at"),
        wholeNumber (JsonValue.get raw "sequence"), JsonValue.get raw "account_identity",
        JsonValue.get raw "server_identity", raw.lookup "payload" with
      | some _, some sequence, .obj identity, .str serverIdentity, some payload =>
        match JsonValue.get identity "login", JsonValue.get identity "server" with
        | .str login, .str server =>
          if sequence < 0 then .error (.schemaInvalid label)
          else if login ≠ String.ofList (integerToString reader.expectedLogin) then
            .error .accountIdentityMismatch
          else if reader.unicode.casefold server ≠ reader.unicode.casefold reader.expectedServer ∨
              reader.unicode.casefold serverIdentity ≠
                reader.unicode.casefold reader.expectedServer then
            .error .serverIdentityMismatch
          else .ok (raw, payload)
        | _, _ => .error (.schemaInvalid label)
      | _, _, _, _, _ => .error (.schemaInvalid label)
  | _ => .error (.schemaInvalid label)

/-- What one attempt to read the file finds; `undecodable` is no UTF-8. -/
inductive FileReading where
  | denied
  | undecodable
  | text (content : List Char)

def transientReadAttempts : Nat := 26

/-- The loop over the attempts, `left` of them from the given one on. -/
def readDocument (label : String) (readings : Nat → FileReading) :
    Nat → Nat → Except EnvelopeError JsonValue
  | _, 0 => .error (.unavailable label)
  | attempt, left + 1 =>
    match readings attempt with
    | .denied => readDocument label readings (attempt + 1) left
    | .undecodable => .error (.unavailable label)
    | .text content =>
      match loads content with
      | none => .error (.unavailable label)
      | some raw => .ok raw

def BridgeReader.readPathEnvelope (reader : BridgeReader) (label : String)
    (readings : Nat → FileReading) :
    Except EnvelopeError (List (String × JsonValue) × JsonValue) :=
  match readDocument label readings 0 transientReadAttempts with
  | .error error => .error error
  | .ok raw => reader.acceptEnvelope label raw

/-- What reading finds in a file that holds the units. -/
def fileReading (units : List UInt16) : FileReading :=
  match joinSurrogates (units.map UInt16.toNat) with
  | none => .undecodable
  | some content => .text content

section Times

theorem stringReplace_of_notMem {target replacement : Char} {text : List Char}
    (h : target ∉ text) : stringReplace target replacement text = text := by
  unfold stringReplace
  conv_rhs => rw [← List.map_id text]
  apply List.map_congr_left
  intro c hc
  have hne : c ≠ target := by
    intro heq
    exact h (heq ▸ hc)
  rw [if_neg hne]
  rfl

theorem zuluReplaced_of_notMem {text : List Char} (h : 'Z' ∉ text) : zuluReplaced text = text := by
  unfold zuluReplaced
  induction text with
  | nil => rfl
  | cons c text ih =>
    have hne : c ≠ 'Z' := fun heq => h (by simp [heq])
    rw [List.flatMap_cons, if_neg hne, ih fun hmem => h (by simp [hmem])]
    rfl

theorem notMem_paddedDigits {c : Char} (h : c.isDigit = false) (count value : Nat) :
    c ∉ paddedDigits count value := by
  intro hmem
  rw [paddedDigits_isDigit hmem] at h
  cases h

/-- The time as `datetime.isoformat` writes it. -/
def isoText (t : MqlDateTime) (zone : List Char) : List Char :=
  paddedDigits 4 t.year ++ '-' :: (paddedDigits 2 t.month ++ '-' :: (paddedDigits 2 t.day ++
    'T' :: (paddedDigits 2 t.hour ++ ':' :: (paddedDigits 2 t.minute ++
      ':' :: (paddedDigits 2 t.second ++ zone)))))

theorem stringReplace_append (target replacement : Char) (text text' : List Char) :
    stringReplace target replacement (text ++ text') =
      stringReplace target replacement text ++ stringReplace target replacement text' :=
  List.map_append

theorem stringReplace_cons (target replacement c : Char) (text : List Char) :
    stringReplace target replacement (c :: text) =
      (if c = target then replacement else c) :: stringReplace target replacement text := rfl

theorem stringReplace_padded {target : Char} (replacement : Char) (h : target.isDigit = false)
    (count value : Nat) :
    stringReplace target replacement (paddedDigits count value) = paddedDigits count value :=
  stringReplace_of_notMem (notMem_paddedDigits h count value)

theorem iso8601_eq (value : Datetime) : iso8601FromDatetime value = isoText value.val ['Z'] := by
  have hdot : '.'.isDigit = false := rfl
  have hblank : ' '.isDigit = false := rfl
  unfold iso8601FromDatetime timeToString isoText
  simp only [stringReplace_append, stringReplace_cons, stringReplace_padded _ hdot,
    stringReplace_padded _ hblank, List.append_assoc, List.cons_append]
  simp

theorem zuluReplaced_append (text text' : List Char) :
    zuluReplaced (text ++ text') = zuluReplaced text ++ zuluReplaced text' := List.flatMap_append

theorem zuluReplaced_padded (count value : Nat) :
    zuluReplaced (paddedDigits count value) = paddedDigits count value :=
  zuluReplaced_of_notMem (notMem_paddedDigits rfl count value)

theorem zuluReplaced_iso (t : MqlDateTime) :
    zuluReplaced (isoText t ['Z']) = isoText t "+00:00".toList := by
  have hcons : ∀ (c : Char) (text : List Char), c ≠ 'Z' →
      zuluReplaced (c :: text) = c :: zuluReplaced text := by
    intro c text hne
    unfold zuluReplaced
    rw [List.flatMap_cons, if_neg hne]
    rfl
  unfold isoText
  simp only [zuluReplaced_append, zuluReplaced_padded, hcons '-' _ (by decide),
    hcons 'T' _ (by decide), hcons ':' _ (by decide)]
  rfl

theorem isoText_shape (t : MqlDateTime) : IsoShape (isoText t "+00:00".toList) := by
  refine ⟨rfl, ?_, rfl, rfl, rfl, rfl, rfl⟩
  intro field hfield c hc
  have hcases : field = (0, 4) ∨ field = (5, 2) ∨ field = (8, 2) ∨ field = (11, 2) ∨
      field = (14, 2) ∨ field = (17, 2) := by simpa using hfield
  rcases hcases with rfl | rfl | rfl | rfl | rfl | rfl
  · exact @paddedDigits_isDigit 4 t.year c hc
  · exact @paddedDigits_isDigit 2 t.month c hc
  · exact @paddedDigits_isDigit 2 t.day c hc
  · exact @paddedDigits_isDigit 2 t.hour c hc
  · exact @paddedDigits_isDigit 2 t.minute c hc
  · exact @paddedDigits_isDigit 2 t.second c hc

theorem number_padded {count value : Nat} (h : value < 10 ^ count) :
    Nat.ofDigitChars 10 (paddedDigits count value) 0 = value := by
  rw [ofDigitChars_paddedDigits, Nat.mod_eq_of_lt h, Nat.zero_mul, Nat.zero_add]

theorem isoTime_isoText {t : MqlDateTime} (h : t.Valid) :
    isoTime (isoText t "+00:00".toList) = t := by
  obtain ⟨-, hyear, -, hmonth, -, hday, hhour, hminute, hsecond⟩ := h
  have hdays : daysInMonth t.year t.month ≤ 31 := by
    unfold daysInMonth
    split
    · split
      · omega
      · omega
    · split
      · omega
      · omega
  have hyearNumber : isoNumber (isoText t "+00:00".toList) 0 4 = t.year :=
    @number_padded 4 _ (by omega)
  have hmonthNumber : isoNumber (isoText t "+00:00".toList) 5 2 = t.month :=
    @number_padded 2 _ (by omega)
  have hdayNumber : isoNumber (isoText t "+00:00".toList) 8 2 = t.day :=
    @number_padded 2 _ (by omega)
  have hhourNumber : isoNumber (isoText t "+00:00".toList) 11 2 = t.hour :=
    @number_padded 2 _ (by omega)
  have hminuteNumber : isoNumber (isoText t "+00:00".toList) 14 2 = t.minute :=
    @number_padded 2 _ (by omega)
  have hsecondNumber : isoNumber (isoText t "+00:00".toList) 17 2 = t.second :=
    @number_padded 2 _ (by omega)
  unfold isoTime
  rw [hyearNumber, hmonthNumber, hdayNumber, hhourNumber, hminuteNumber, hsecondNumber]

theorem parseTime_iso8601 (reader : BridgeReader) (value : Datetime) :
    reader.parseTime (.str (String.ofList (iso8601FromDatetime value))) =
      some value.val.seconds := by
  show reader.fromIsoformat (zuluReplaced (String.ofList _).toList) = _
  rw [String.toList_ofList, iso8601_eq, zuluReplaced_iso]
  unfold BridgeReader.fromIsoformat
  rw [if_pos (isoText_shape _), isoTime_isoText value.property, if_pos value.property]

end Times

section Decoded

variable {D : Type} (doubles : Doubles D) (terminal : Terminal D)

/-- The text of a whole number as a decoded value. -/
def integerValue (value : Int) : JsonValue := .str (String.ofList (integerToString value))

def positiveIdValue (id : Int) : JsonValue := if 0 < id then integerValue id else .null

def optionalValue (s : MqlText) : JsonValue := if s.units = [] then .null else .str s.string

def eventIdText (event : EventArguments D) (eventSeq : Int) : List Char :=
  terminal.connectionId.text ++ ['|'] ++ integerToString terminal.login ++ ['|'] ++
    terminal.server.text ++ ['|'] ++ event.eventType.text ++ ['|'] ++
    integerToString event.ticket ++ ['|'] ++ integerToString event.timeMsc ++ ['|'] ++
    integerToString eventSeq

/-- The event as the agent should find it: every argument under its name. -/
def eventEntries (event : EventArguments D) (eventSeq : Int) : List (String × JsonValue) :=
  [("event_id", .str (String.ofList (eventIdText terminal event eventSeq))),
    ("connection_id", .str terminal.connectionId.string),
    ("login", integerValue terminal.login),
    ("server", .str terminal.server.string),
    ("timestamp_msc", .int event.timeMsc),
    ("event_type", .str event.eventType.string),
    ("ticket", integerValue event.ticket),
    ("position_id", positiveIdValue event.positionId),
    ("order_id", positiveIdValue event.orderId),
    ("deal_id", positiveIdValue event.dealId),
    ("symbol", .str event.symbol.string),
    ("direction", optionalValue event.direction),
    ("volume", numberOf doubles event.volume),
    ("price", numberOf doubles event.price),
    ("stop_loss", numberOf doubles event.stopLoss),
    ("take_profit", numberOf doubles event.takeProfit),
    ("profit", numberOf doubles event.profit),
    ("commission", numberOf doubles event.commission),
    ("swap", numberOf doubles event.swap),
    ("balance", numberOf doubles terminal.balance),
    ("equity", numberOf doubles terminal.equity),
    ("currency", .str terminal.currency.string),
    ("leverage", .int terminal.leverage),
    ("balance_before_open",
      if opensWithBalance doubles terminal event then
        numberOf doubles (balanceBeforeOpen doubles terminal event)
      else .null),
    ("magic", .int event.magic),
    ("comment", .str event.comment.string),
    ("entry", optionalValue event.entry),
    ("time", .str (String.ofList (iso8601FromDatetime event.eventTime)))]

/-- The envelope around a payload. -/
def envelopeEntries (payload : JsonValue) (sequence : Int) : List (String × JsonValue) :=
  [("schema_version", .int fileBridgeSchemaVersion),
    ("generated_at", .str (String.ofList (iso8601FromDatetime terminal.timeGmt))),
    ("sequence", .int sequence),
    ("account_identity", .obj
      [("login", integerValue terminal.login), ("server", .str terminal.server.string)]),
    ("server_identity", .str terminal.server.string),
    ("payload", payload)]

variable {doubles terminal}

theorem encodes_text (s : MqlText) : Encodes (jsonString s.units) (.str s.string) :=
  encodes_string s.written

theorem encodes_integerText (value : Int) :
    Encodes (jsonString (integerText value)) (integerValue value) :=
  encodes_string (written_wide _)

theorem encodes_positiveId (id : Int) : Encodes (positiveId id) (positiveIdValue id) := by
  unfold positiveId positiveIdValue
  split
  next => exact encodes_integerText id
  next => exact encodes_null

theorem encodes_optional (s : MqlText) : Encodes (optionalText s.units) (optionalValue s) := by
  unfold optionalText optionalValue
  split
  next => exact encodes_null
  next => exact encodes_text s

theorem eventId_written (event : EventArguments D) (eventSeq : Int) :
    Written (eventId terminal event eventSeq) (eventIdText terminal event eventSeq) := by
  have hbar := written_wide ['|']
  have hlogin := (terminal.connectionId.written.append hbar).append
    (written_wide (integerToString terminal.login))
  have hserver := (hlogin.append hbar).append terminal.server.written
  have htype := (hserver.append hbar).append event.eventType.written
  have hticket := (htype.append hbar).append (written_wide (integerToString event.ticket))
  have htime := (hticket.append hbar).append (written_wide (integerToString event.timeMsc))
  exact (htime.append hbar).append (written_wide (integerToString eventSeq))

theorem encodes_balanceBefore (event : EventArguments D) :
    Encodes
      (if opensWithBalance doubles terminal event then
        jsonNumber doubles (balanceBeforeOpen doubles terminal event)
      else wide "null".toList)
      (if opensWithBalance doubles terminal event then
        numberOf doubles (balanceBeforeOpen doubles terminal event)
      else .null) := by
  split
  next => exact encodes_number doubles _
  next => exact encodes_null

def eventNames : List String :=
  ["event_id", "connection_id", "login", "server", "timestamp_msc", "event_type", "ticket",
    "position_id", "order_id", "deal_id", "symbol", "direction", "volume", "price", "stop_loss",
    "take_profit", "profit", "commission", "swap", "balance", "equity", "currency", "leverage",
    "balance_before_open", "magic", "comment", "entry", "time"]

def envelopeNames : List String :=
  ["schema_version", "generated_at", "sequence", "account_identity", "server_identity", "payload"]

theorem encodes_event (event : EventArguments D) (eventSeq : Int) :
    Encodes (objectText (eventMembers doubles terminal event eventSeq))
      (.obj (eventEntries doubles terminal event eventSeq)) := by
  apply encodes_object
  · apply List.Forall₂.cons ⟨rfl, encodes_string (eventId_written _ _)⟩
    apply List.Forall₂.cons ⟨rfl, encodes_text _⟩
    apply List.Forall₂.cons ⟨rfl, encodes_integerText _⟩
    apply List.Forall₂.cons ⟨rfl, encodes_text _⟩
    apply List.Forall₂.cons ⟨rfl, encodes_integer _⟩
    apply List.Forall₂.cons ⟨rfl, encodes_text _⟩
    apply List.Forall₂.cons ⟨rfl, encodes_integerText _⟩
    apply List.Forall₂.cons ⟨rfl, encodes_positiveId _⟩
    apply List.Forall₂.cons ⟨rfl, encodes_positiveId _⟩
    apply List.Forall₂.cons ⟨rfl, encodes_positiveId _⟩
    apply List.Forall₂.cons ⟨rfl, encodes_text _⟩
    apply List.Forall₂.cons ⟨rfl, encodes_optional _⟩
    apply List.Forall₂.cons ⟨rfl, encodes_number _ _⟩
    apply List.Forall₂.cons ⟨rfl, encodes_number _ _⟩
    apply List.Forall₂.cons ⟨rfl, encodes_number _ _⟩
    apply List.Forall₂.cons ⟨rfl, encodes_number _ _⟩
    apply List.Forall₂.cons ⟨rfl, encodes_number _ _⟩
    apply List.Forall₂.cons ⟨rfl, encodes_number _ _⟩
    apply List.Forall₂.cons ⟨rfl, encodes_number _ _⟩
    apply List.Forall₂.cons ⟨rfl, encodes_number _ _⟩
    apply List.Forall₂.cons ⟨rfl, encodes_number _ _⟩
    apply List.Forall₂.cons ⟨rfl, encodes_text _⟩
    apply List.Forall₂.cons ⟨rfl, encodes_integer _⟩
    apply List.Forall₂.cons ⟨rfl, encodes_balanceBefore _⟩
    apply List.Forall₂.cons ⟨rfl, encodes_integer _⟩
    apply List.Forall₂.cons ⟨rfl, encodes_text _⟩
    apply List.Forall₂.cons ⟨rfl, encodes_optional _⟩
    apply List.Forall₂.cons ⟨rfl, encodes_string (written_wide _)⟩
    exact List.Forall₂.nil
  · show ∀ name ∈ eventNames, PlainName name
    decide +kernel
  · show eventNames.Nodup
    decide +kernel

theorem encodes_envelope (terminal : Terminal D) {payload : List UInt16} {value : JsonValue}
    (h : Encodes payload value) (sequence : Int) :
    Encodes (buildEnvelope terminal payload sequence)
      (.obj (envelopeEntries terminal value sequence)) := by
  have hidentity : Encodes
      (objectText [("login", jsonString (integerText terminal.login)),
        ("server", jsonString terminal.server.units)])
      (.obj [("login", integerValue terminal.login), ("server", .str terminal.server.string)]) := by
    apply encodes_object
    · apply List.Forall₂.cons ⟨rfl, encodes_integerText _⟩
      apply List.Forall₂.cons ⟨rfl, encodes_text _⟩
      exact List.Forall₂.nil
    · show ∀ name ∈ ["login", "server"], PlainName name
      decide
    · show List.Nodup ["login", "server"]
      decide
  apply encodes_object
  · apply List.Forall₂.cons ⟨rfl, encodes_integer _⟩
    apply List.Forall₂.cons ⟨rfl, encodes_string (written_wide _)⟩
    apply List.Forall₂.cons ⟨rfl, encodes_integer _⟩
    apply List.Forall₂.cons ⟨rfl, hidentity⟩
    apply List.Forall₂.cons ⟨rfl, encodes_text _⟩
    apply List.Forall₂.cons ⟨rfl, h⟩
    exact List.Forall₂.nil
  · show ∀ name ∈ envelopeNames, PlainName name
    decide +kernel
  · show envelopeNames.Nodup
    decide

/-- Reading a file with a JSON text gives its value. -/
theorem fileReading_encodes {units : List UInt16} {value : JsonValue} (h : Encodes units value) :
    ∃ content, fileReading units = .text content ∧ loads content = some value := by
  obtain ⟨content, hwritten, hreads⟩ := h
  refine ⟨content, ?_, loads_of_reads hreads⟩
  have hjoin : joinSurrogates (units.map UInt16.toNat) = some content :=
    joinSurrogates_of_joined hwritten
  unfold fileReading
  rw [hjoin]

end Decoded

section Acceptance

variable {D : Type} {doubles : Doubles D} {terminal : Terminal D} {reader : BridgeReader}
  {label : String}

/-- The adapter was set up for the account that the terminal is logged in to. -/
def BridgeReader.Expects (reader : BridgeReader) (terminal : Terminal D) : Prop :=
  terminal.login = reader.expectedLogin ∧
    reader.unicode.casefold terminal.server.string = reader.unicode.casefold reader.expectedServer

theorem loginText_iff (reader : BridgeReader) (terminal : Terminal D) :
    String.ofList (integerToString terminal.login) =
      String.ofList (integerToString reader.expectedLogin) ↔
        terminal.login = reader.expectedLogin := by
  constructor
  · intro h
    exact integerToString_inj (String.ofList_inj.mp h)
  · intro h
    rw [h]

theorem acceptEnvelope_entries (payload : JsonValue) (sequence : Int) :
    reader.acceptEnvelope label (.obj (envelopeEntries terminal payload sequence)) =
      if sequence < 0 then .error (.schemaInvalid label)
      else if terminal.login ≠ reader.expectedLogin then .error .accountIdentityMismatch
      else if reader.unicode.casefold terminal.server.string ≠
          reader.unicode.casefold reader.expectedServer then .error .serverIdentityMismatch
      else .ok (envelopeEntries terminal payload sequence, payload) := by
  have htime := parseTime_iso8601 reader terminal.timeGmt
  have hlogin := loginText_iff reader terminal
  simp [BridgeReader.acceptEnvelope, envelopeEntries, JsonValue.get, List.lookup_cons, htime,
    wholeNumber, integerValue, JsonValue.equals, JsonValue.number?, fileBridgeSchemaVersion,
    schemaVersion, hlogin]

/-- Fewer attempts than the adapter makes are refused before one finds the file. -/
def Finds (readings : Nat → FileReading) (units : List UInt16) : Prop :=
  ∃ attempt, attempt < transientReadAttempts ∧ (∀ i, i < attempt → readings i = .denied) ∧
    readings attempt = fileReading units

theorem readDocument_denied {readings : Nat → FileReading} {value : JsonValue}
    {content : List Char} {attempt : Nat} (hread : readings attempt = .text content)
    (hloads : loads content = some value) :
    ∀ count left start, start + count = attempt → count < left →
      (∀ i, i < attempt → readings i = .denied) →
        readDocument label readings start left = .ok value := by
  intro count
  induction count with
  | zero =>
    intro left start hstart hleft _
    obtain ⟨left, rfl⟩ : ∃ n, left = n + 1 := ⟨left - 1, by omega⟩
    have heq : start = attempt := by omega
    subst heq
    simp only [readDocument, hread, hloads]
  | succ count ih =>
    intro left start hstart hleft hdenied
    obtain ⟨left, rfl⟩ : ∃ n, left = n + 1 := ⟨left - 1, by omega⟩
    have hnext := ih left (start + 1) (by omega) (by omega) hdenied
    simp only [readDocument, hdenied start (by omega), hnext]

theorem readPathEnvelope_found {readings : Nat → FileReading} {units : List UInt16}
    {value : JsonValue} (hunits : Encodes units value) (h : Finds readings units) :
    reader.readPathEnvelope label readings = reader.acceptEnvelope label value := by
  obtain ⟨content, hcontent, hloads⟩ := fileReading_encodes hunits
  obtain ⟨attempt, hattempt, hdenied, hread⟩ := h
  rw [hcontent] at hread
  have hdocument : readDocument label readings 0 transientReadAttempts = .ok value :=
    readDocument_denied hread hloads attempt _ 0 (by omega) hattempt hdenied
  unfold BridgeReader.readPathEnvelope
  rw [hdocument]

theorem acceptEnvelope_iff (payload : JsonValue) (sequence : Int) :
    reader.acceptEnvelope label (.obj (envelopeEntries terminal payload sequence)) =
      .ok (envelopeEntries terminal payload sequence, payload) ↔
        0 ≤ sequence ∧ reader.Expects terminal := by
  rw [acceptEnvelope_entries]
  unfold BridgeReader.Expects
  constructor
  · intro h
    split at h
    next => cases h
    next hsequence =>
      split at h
      next => cases h
      next hlogin =>
        split at h
        next => cases h
        next hserver =>
          exact ⟨by omega, Decidable.not_not.mp hlogin, Decidable.not_not.mp hserver⟩
  · intro h
    obtain ⟨hsequence, hlogin, hserver⟩ := h
    rw [if_neg (by omega), if_neg (Decidable.not_not.mpr hlogin),
      if_neg (Decidable.not_not.mpr hserver)]

theorem encodes_buildEventJson (doubles : Doubles D) (terminal : Terminal D) (eventSeq : Int)
    (event : EventArguments D) :
    Encodes (buildEventJson doubles terminal true eventSeq event).1
      (.obj (eventEntries doubles terminal event (eventSeq + 1))) :=
  encodes_event event (eventSeq + 1)

/-- Whatever the texts and numbers of an event are, its file decodes to them, and the adapter
accepts it exactly when it expects the account and the sequence is not negative. -/
theorem eventDocument_accepted (doubles : Doubles D) (terminal : Terminal D)
    (event : EventArguments D) (eventSeq sequence : Int) :
    (∃ content,
      fileReading (buildEnvelope terminal
        (buildEventJson doubles terminal true eventSeq event).1 sequence) = .text content ∧
      loads content = some (.obj (envelopeEntries terminal
        (.obj (eventEntries doubles terminal event (eventSeq + 1))) sequence))) ∧
    ∀ (reader : BridgeReader) (label : String) (readings : Nat → FileReading),
      Finds readings (buildEnvelope terminal
        (buildEventJson doubles terminal true eventSeq event).1 sequence) →
      (reader.readPathEnvelope label readings =
          .ok (envelopeEntries terminal
              (.obj (eventEntries doubles terminal event (eventSeq + 1))) sequence,
            .obj (eventEntries doubles terminal event (eventSeq + 1))) ↔
        0 ≤ sequence ∧ reader.Expects terminal) := by
  have hpayload := encodes_buildEventJson doubles terminal eventSeq event
  have hdocument := encodes_envelope terminal hpayload sequence
  refine ⟨fileReading_encodes hdocument, ?_⟩
  intro reader label readings hfinds
  rw [readPathEnvelope_found hdocument hfinds]
  exact acceptEnvelope_iff _ sequence

def plainText (text : List Char) : MqlText := ⟨wide text, text, written_wide text⟩

/-- Doubles without a fraction. -/
def wholeDoubles : Doubles Int where
  isValidNumber _ := true
  isNegative value := value < 0
  ticks value := value.natAbs * 10 ^ 16
  sub a b := a - b
  isPositive value := 0 < value

def sampleMoment : Datetime := ⟨⟨2026, 3, 1, 12, 30, 0⟩, by decide⟩

def sampleTerminal : Terminal Int where
  connectionId := plainText "c1".toList
  login := 5001
  server := plainText "Broker \"Demo\" 😀".toList
  balance := 100
  equity := 100
  currency := plainText "EUR".toList
  leverage := 30
  timeGmt := sampleMoment

def sampleEvent : EventArguments Int where
  eventType := plainText "DEAL_ADD".toList
  ticket := 7
  positionId := 7
  orderId := 0
  dealId := 7
  symbol := plainText "EURUSD".toList
  direction := plainText "buy".toList
  volume := 1
  price := 1
  stopLoss := 0
  takeProfit := 0
  profit := 0
  commission := -1
  swap := 0
  magic := 0
  comment := plainText "back\\slash\ttab".toList
  entry := plainText "IN".toList
  eventTime := sampleMoment
  timestampMsc := 0

def sampleReader : BridgeReader where
  unicode := asciiUnicode
  otherShapes _ := none
  expectedLogin := 5001
  expectedServer := "Broker \"Demo\" 😀"

theorem sampleReader_expects : sampleReader.Expects sampleTerminal := ⟨rfl, rfl⟩

theorem finds_at_once (units : List UInt16) : Finds (fun _ => fileReading units) units :=
  ⟨0, by decide, fun i hi => absurd hi (Nat.not_lt_zero i), rfl⟩

theorem eventDocument_accepted_first :
    sampleReader.readPathEnvelope "event" (fun _ => fileReading (buildEnvelope sampleTerminal
        (buildEventJson wholeDoubles sampleTerminal true 0 sampleEvent).1 1)) =
      .ok (envelopeEntries sampleTerminal
          (.obj (eventEntries wholeDoubles sampleTerminal sampleEvent 1)) 1,
        .obj (eventEntries wholeDoubles sampleTerminal sampleEvent 1)) :=
  ((eventDocument_accepted wholeDoubles sampleTerminal sampleEvent 0 1).2 sampleReader "event" _
    (finds_at_once _)).mpr ⟨by decide, sampleReader_expects⟩

/-- A document of the expected account with a negative sequence is refused. -/
theorem negativeSequence_refused :
    sampleReader.Expects sampleTerminal ∧
      sampleReader.readPathEnvelope "event" (fun _ => fileReading (buildEnvelope sampleTerminal
        (buildEventJson wholeDoubles sampleTerminal true 0 sampleEvent).1 (-1))) =
          .error (.schemaInvalid "event") := by
  refine ⟨sampleReader_expects, ?_⟩
  have hpayload := encodes_buildEventJson wholeDoubles sampleTerminal 0 sampleEvent
  have hdocument := encodes_envelope sampleTerminal hpayload (-1)
  rw [readPathEnvelope_found hdocument (finds_at_once _), acceptEnvelope_entries]
  rfl

end Acceptance

section Runs

variable {D : Type} {doubles : Doubles D}

/-- One event: the account as it is then, whether the cursor could be saved, the arguments. -/
structure Emission (D : Type) where
  terminal : Terminal D
  cursorSaved : Bool
  event : EventArguments D

/-- The files that a run of events writes, from a counter on. -/
def emitEvents (doubles : Doubles D) : Int → List (Emission D) → List (List Char × List UInt16)
  | _, [] => []
  | eventSeq, emission :: rest =>
    let emitted := emitEvent doubles emission.terminal emission.cursorSaved eventSeq emission.event
    emitted.1.toList ++ emitEvents doubles emitted.2 rest

/-- A cursor that cannot be saved leaves the counter and writes no file. -/
theorem emitEvent_unsaved (terminal : Terminal D) (eventSeq : Int) (event : EventArguments D) :
    emitEvent doubles terminal false eventSeq event = (none, eventSeq) := rfl

theorem emitEvent_saved (terminal : Terminal D) (eventSeq : Int) (event : EventArguments D) :
    emitEvent doubles terminal true eventSeq event =
      (some ("event-".toList ++ integerToString (eventSeq + 1) ++ ".json".toList,
        buildEnvelope terminal (buildEventJson doubles terminal true eventSeq event).1
          (eventSeq + 1)), eventSeq + 1) := by
  have hne : (buildEventJson doubles terminal true eventSeq event).1 ≠ [] := by
    show objectText _ ≠ []
    unfold objectText wide splitChar
    simp
  show (writeEventAtomic terminal (buildEventJson doubles terminal true eventSeq event).1
    (eventSeq + 1), eventSeq + 1) = _
  unfold writeEventAtomic
  rw [if_neg hne]

/-- No file of a run that starts with a counter is refused while the account is the expected one:
nothing that the broker sends stops the stream. -/
theorem emitEvents_accepted (reader : BridgeReader) (label : String)
    (emissions : List (Emission D))
    (haccount : ∀ emission ∈ emissions, reader.Expects emission.terminal) :
    ∀ eventSeq : Int, 0 ≤ eventSeq → ∀ file ∈ emitEvents doubles eventSeq emissions,
      ∀ readings, Finds readings file.2 →
        ∃ found, reader.readPathEnvelope label readings = .ok found := by
  induction emissions with
  | nil =>
    intro eventSeq _ file hfile
    cases hfile
  | cons emission rest ih =>
    intro eventSeq hseq file hfile readings hfinds
    obtain ⟨terminal, cursorSaved, event⟩ := emission
    have hrest : ∀ emission ∈ rest, reader.Expects emission.terminal :=
      fun other hother => haccount other (by simp [hother])
    cases cursorSaved with
    | false => exact ih hrest eventSeq hseq file hfile readings hfinds
    | true =>
      simp only [emitEvents, emitEvent_saved, Option.toList_some, List.mem_append,
        List.mem_singleton] at hfile
      rcases hfile with rfl | hfile
      · have hpayload := encodes_buildEventJson doubles terminal eventSeq event
        have hdocument := encodes_envelope terminal hpayload (eventSeq + 1)
        have haccept := (@acceptEnvelope_iff D terminal reader label
          (.obj (eventEntries doubles terminal event (eventSeq + 1))) (eventSeq + 1)).mpr
            ⟨by omega, haccount ⟨terminal, true, event⟩ List.mem_cons_self⟩
        exact ⟨_, (readPathEnvelope_found hdocument hfinds).trans haccept⟩
      · exact ih hrest (eventSeq + 1) (by omega) file hfile readings hfinds

/-- The first event of a new connection. -/
theorem firstEmission_accepted :
    ∃ found, sampleReader.readPathEnvelope "event" (fun _ => fileReading
      (buildEnvelope sampleTerminal
        (buildEventJson wholeDoubles sampleTerminal true 0 sampleEvent).1 1)) = .ok found := by
  have hfile : ("event-".toList ++ integerToString 1 ++ ".json".toList,
      buildEnvelope sampleTerminal
        (buildEventJson wholeDoubles sampleTerminal true 0 sampleEvent).1 1) ∈
        emitEvents wholeDoubles 0 [⟨sampleTerminal, true, sampleEvent⟩] := by
    simp only [emitEvents, emitEvent_saved, Option.toList_some]
    exact List.mem_cons_self
  have haccount : ∀ emission ∈ [(⟨sampleTerminal, true, sampleEvent⟩ : Emission Int)],
      sampleReader.Expects emission.terminal := by
    intro emission hemission
    rw [List.mem_singleton.mp hemission]
    exact sampleReader_expects
  exact emitEvents_accepted sampleReader "event" _ haccount 0 le_rfl _ hfile _ (finds_at_once _)

end Runs

end TradeJournalWorker.BridgeDocuments
