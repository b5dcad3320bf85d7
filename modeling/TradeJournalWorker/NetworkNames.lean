import TradeJournalWorker.LabTexts

namespace TradeJournalWorker.Routing

open Lab (UnicodeTables isHexDigit)

/-- The number that ASCII digits write. -/
def decimalValue (digits : List Char) : Nat :=
  digits.foldl (fun value c => 10 * value + (c.toNat - '0'.toNat)) 0

/-- One part of a dotted address: one to three digits, no zero in front, at most 255. -/
def isOctet (part : List Char) : Bool :=
  part ≠ [] && part.all Char.isDigit && part.length ≤ 3 &&
    (part = ['0'] || part.head? ≠ some '0') && decimalValue part ≤ 255

/-- The texts `ipaddress.IPv4Address` reads. -/
def isIpv4 (text : List Char) : Bool :=
  (text.splitOn '.').length = 4 && (text.splitOn '.').all isOctet

def isHextet (part : List Char) : Bool :=
  part ≠ [] && part.length ≤ 4 && part.all isHexDigit

/-- The parts between the colons; a dotted address at the end stands for two of them. -/
def ipv6Parts (text : List Char) : Option (List (List Char)) :=
  let parts := text.splitOn ':'
  let last := parts.getLastD []
  if parts.length < 3 then none
  else if '.' ∈ last then
    if isIpv4 last then some (parts.dropLast ++ [['0'], ['0']]) else none
  else some parts

/-- The side of a `::` that has no part of its own is empty. -/
def beside (parts : List (List Char)) : List (List Char) := if parts = [[]] then [] else parts

/-- Eight parts, or fewer with one `::` for the parts left out. -/
def fitsIpv6 (parts : List (List Char)) : Bool :=
  let inner := (List.range (parts.length - 2)).map (· + 1)
  match inner.filter fun index => parts[index]? = some [] with
  | [] => parts.length = 8 && parts.all isHextet
  | [skip] =>
    let high := beside (parts.take skip)
    let low := beside (parts.drop (skip + 1))
    parts.length ≤ 9 && high.length + low.length ≤ 7 && high.all isHextet && low.all isHextet
  | _ => false

/-- The texts `ipaddress.IPv6Address` reads, with a scope after a `%` or without. -/
def isIpv6 (text : List Char) : Bool :=
  let fits := fun address =>
    match ipv6Parts address with
    | some parts => fitsIpv6 parts
    | none => false
  if '/' ∈ text then false
  else
    match text.splitOn '%' with
    | [address] => fits address
    | [address, scope] => scope ≠ [] && fits address
    | _ => false

/-- The texts `ipaddress.ip_address` reads. -/
def isIpAddress (text : List Char) : Bool := isIpv4 text || isIpv6 text

/-- `_DNS_LABEL_PATTERN`. -/
def isDnsLabel (label : List Char) : Bool :=
  label.length ≤ 63 && label.all (fun c => c.isAlphanum || c = '-') &&
    label.head?.any Char.isAlphanum && label.getLast?.any Char.isAlphanum

/-- `_DNS_NAME`: at least two labels, and possibly a dot after the last one. -/
def isDnsName (text : List Char) : Bool :=
  let name := if text.getLast? = some '.' then text.dropLast else text
  let labels := name.splitOn '.'
  2 ≤ labels.length && labels.all isDnsLabel

/-- `re.fullmatch(r"[0-9.]+", value)`. -/
def isDotted (text : List Char) : Bool := text ≠ [] && text.all fun c => c.isDigit || c = '.'

/-- `re.fullmatch(r"0x[0-9a-f]+", folded)`. -/
def isHexNumber : List Char → Bool
  | '0' :: 'x' :: digits => digits ≠ [] && digits.all Lab.isLowerHex
  | _ => false

def withoutDots (text : List Char) : List Char :=
  (text.reverse.dropWhile (· = '.')).reverse

section Targets

variable (tables : UnicodeTables)

/-- The names of the machine or of its own network. -/
def isLocalName (folded : List Char) : Bool :=
  folded = "localhost".toList || ".localhost".toList.isSuffixOf folded ||
    ".local".toList.isSuffixOf folded || ".internal".toList.isSuffixOf folded

def isNetworkTarget (value : String) : Bool :=
  let text := value.toList
  let folded := withoutDots (tables.casefoldText value)
  text.contains ':' || text.contains '[' || text.contains ']' || isLocalName folded ||
    isDotted text || isHexNumber folded || (!text.any tables.isSpace && isDnsName text) ||
    isIpAddress text

/-- `reject_network_target`. -/
def rejectNetworkTarget (value field : String) : Except String Unit :=
  if isNetworkTarget tables value then .error (field ++ " cannot be a network target")
  else .ok ()

theorem rejectNetworkTarget_ok {value field : String} :
    rejectNetworkTarget tables value field = .ok () ↔ isNetworkTarget tables value = false := by
  unfold rejectNetworkTarget
  split
  next h => simp [h]
  next h => simpa using h

end Targets

example : isIpAddress "2001:db8::192.0.2.1%eth0".toList = true := by decide +kernel

end TradeJournalWorker.Routing
