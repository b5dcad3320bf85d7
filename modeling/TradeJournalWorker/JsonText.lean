import Mathlib.Data.List.TakeWhile
import Mathlib.Data.String.Basic
import TradeJournalWorker.JsonValues
import TradeJournalWorker.OrderedDict
import TradeJournalWorker.SurrogatePairs

namespace JsonText

open SurrogatePairs

def isBlank (c : Char) : Bool := c == ' ' || c == '\t' || c == '\n' || c == '\r'

def skipBlanks (text : List Char) : List Char := text.dropWhile isBlank

def hexValue (c : Char) : Option Nat :=
  if c.isDigit then some (c.toNat - 48)
  else if 'a' ≤ c ∧ c ≤ 'f' then some (c.toNat - 87)
  else if 'A' ≤ c ∧ c ≤ 'F' then some (c.toNat - 55)
  else none

def hexCode (a b c d : Char) : Option Nat := do
  let a ← hexValue a
  let b ← hexValue b
  let c ← hexValue c
  let d ← hexValue d
  some (((a * 16 + b) * 16 + c) * 16 + d)

/-- The code of a character behind a backslash. -/
def escapeCode (c : Char) : Option Nat :=
  if c = '"' then some 34
  else if c = '\\' then some 92
  else if c = '/' then some 47
  else if c = 'b' then some 8
  else if c = 'f' then some 12
  else if c = 'n' then some 10
  else if c = 'r' then some 13
  else if c = 't' then some 9
  else none

/-- The codes of a string whose opening quote is read, and the text behind its closing quote.
Control characters are refused. -/
def scanCodes : List Char → Option (List Nat × List Char)
  | [] => none
  | '"' :: rest => some ([], rest)
  | '\\' :: 'u' :: a :: b :: c :: d :: rest =>
    match hexCode a b c d with
    | none => none
    | some code => (scanCodes rest).map fun found => (code :: found.1, found.2)
  | '\\' :: c :: rest =>
    match escapeCode c with
    | none => none
    | some code => (scanCodes rest).map fun found => (code :: found.1, found.2)
  | c :: rest =>
    if c.toNat < 32 then none
    else (scanCodes rest).map fun found => (c.toNat :: found.1, found.2)

def scanString (text : List Char) : Option (String × List Char) :=
  match scanCodes text with
  | none => none
  | some (codes, rest) => (joinSurrogates codes).map fun text => (String.ofList text, rest)

def scanDigits (text : List Char) : List Char × List Char :=
  (text.takeWhile Char.isDigit, text.dropWhile Char.isDigit)

/-- The digits before the point, without a leading zero. -/
def scanWhole : List Char → Option (List Char × List Char)
  | [] => none
  | c :: rest =>
    if c = '0' then some (['0'], rest)
    else if c.isDigit then some (scanDigits (c :: rest))
    else none

def scanFraction : List Char → List Char × List Char
  | [] => ([], [])
  | c :: rest =>
    if c = '.' ∧ rest.takeWhile Char.isDigit ≠ [] then scanDigits rest else ([], c :: rest)

def scanSign : List Char → Int × List Char
  | [] => (1, [])
  | c :: rest => if c = '-' then (-1, rest) else if c = '+' then (1, rest) else (1, c :: rest)

def scanExponent : List Char → Option Int × List Char
  | [] => (none, [])
  | c :: rest =>
    if (c = 'e' ∨ c = 'E') ∧ (scanSign rest).2.takeWhile Char.isDigit ≠ [] then
      (some ((scanSign rest).1 * Nat.ofDigitChars 10 (scanDigits (scanSign rest).2).1 0),
        (scanDigits (scanSign rest).2).2)
    else (none, c :: rest)

def powerOfTen (exponent : Int) : Rat :=
  if 0 ≤ exponent then 10 ^ exponent.toNat else 1 / 10 ^ (-exponent).toNat

/-- The value of a literal, a float exactly as its digits say. -/
def numberValue (sign : Int) (whole fraction : List Char) (exponent : Option Int) : JsonValue :=
  if fraction = [] ∧ exponent = none then .int (sign * Nat.ofDigitChars 10 whole 0)
  else .float (sign * Nat.ofDigitChars 10 (whole ++ fraction) 0 *
    powerOfTen (exponent.getD 0 - fraction.length))

def scanUnsigned (sign : Int) (text : List Char) : Option (JsonValue × List Char) :=
  (scanWhole text).map fun whole =>
    (numberValue sign whole.1 (scanFraction whole.2).1 (scanExponent (scanFraction whole.2).2).1,
      (scanExponent (scanFraction whole.2).2).2)

def scanNumber : List Char → Option (JsonValue × List Char)
  | [] => none
  | c :: rest => if c = '-' then scanUnsigned (-1) rest else scanUnsigned 1 (c :: rest)

def scanConstant (text : List Char) : Option (JsonValue × List Char) :=
  if "null".toList.isPrefixOf text then some (.null, text.drop 4)
  else if "true".toList.isPrefixOf text then some (.bool true, text.drop 4)
  else if "false".toList.isPrefixOf text then some (.bool false, text.drop 5)
  else none

/-- A repeated key keeps its place and takes the last value. -/
def collect (members : List (String × JsonValue)) : List (String × JsonValue) :=
  (members.foldl (fun (d : OrderedDict String JsonValue) member => d.set member.1 member.2)
    ∅).entries

def expectColon : List Char → Option (List Char)
  | [] => none
  | c :: rest => if c = ':' then some rest else none

mutual

def parseValue : Nat → List Char → Option (JsonValue × List Char)
  | 0, _ => none
  | _ + 1, [] => none
  | fuel + 1, c :: rest =>
    if c = '"' then (scanString rest).map fun found => (.str found.1, found.2)
    else if c = '\x7b' then parseObject fuel (skipBlanks rest)
    else if c = '[' then parseArray fuel (skipBlanks rest)
    else (scanConstant (c :: rest)).or (scanNumber (c :: rest))

def parseObject : Nat → List Char → Option (JsonValue × List Char)
  | 0, _ => none
  | _ + 1, [] => none
  | fuel + 1, c :: rest =>
    if c = '\x7d' then some (.obj [], rest)
    else (parseMembers fuel (c :: rest)).map fun found => (.obj (collect found.1), found.2)

def parseArray : Nat → List Char → Option (JsonValue × List Char)
  | 0, _ => none
  | _ + 1, [] => none
  | fuel + 1, c :: rest =>
    if c = ']' then some (.arr [], rest)
    else (parseItems fuel (c :: rest)).map fun found => (.arr found.1, found.2)

def parseMembers : Nat → List Char → Option (List (String × JsonValue) × List Char)
  | 0, _ => none
  | _ + 1, [] => none
  | fuel + 1, quote :: rest =>
    if quote = '"' then do
      let (key, rest) ← scanString rest
      let rest ← expectColon (skipBlanks rest)
      let (value, rest) ← parseValue fuel (skipBlanks rest)
      match skipBlanks rest with
      | [] => none
      | c :: rest =>
        if c = '\x7d' then some ([(key, value)], rest)
        else if c = ',' then
          (parseMembers fuel (skipBlanks rest)).map fun found => ((key, value) :: found.1, found.2)
        else none
    else none

def parseItems : Nat → List Char → Option (List JsonValue × List Char)
  | 0, _ => none
  | fuel + 1, text => do
    let (value, rest) ← parseValue fuel text
    match skipBlanks rest with
    | [] => none
    | c :: rest =>
      if c = ']' then some ([value], rest)
      else if c = ',' then
        (parseItems fuel (skipBlanks rest)).map fun found => (value :: found.1, found.2)
      else none

end

/-- `json.loads`; every value takes at most three steps a character. -/
def loads (text : List Char) : Option JsonValue :=
  match parseValue (3 * text.length + 1) (skipBlanks text) with
  | none => none
  | some (value, rest) => if skipBlanks rest = [] then some value else none

end JsonText
