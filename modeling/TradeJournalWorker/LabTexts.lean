import Mathlib.Data.List.Basic

namespace TradeJournalWorker.Lab

/-- The first letter of a Unicode general category. -/
inductive MajorCategory where
  | letter
  | mark
  | number
  | punctuation
  | symbol
  | separator
  | other
  deriving DecidableEq, Repr

/-- What the Unicode tables say about characters and texts outside ASCII. -/
structure UnicodeTables where
  major : Char → MajorCategory
  decimalDigit : Char → Bool
  whitespace : Char → Bool
  casefold : Char → List Char
  normalize : List Char → List Char

def isAscii (c : Char) : Bool := c.toNat < 128

def asciiMajor (c : Char) : MajorCategory :=
  if c.toNat < 32 || c.toNat == 127 then .other
  else if c == ' ' then .separator
  else if c.isDigit then .number
  else if c.isAlpha then .letter
  else if "$+<=>^`|~".toList.contains c then .symbol
  else .punctuation

def asciiWhitespace (c : Char) : Bool :=
  (9 ≤ c.toNat && c.toNat ≤ 13) || (28 ≤ c.toNat && c.toNat ≤ 32)

namespace UnicodeTables

variable (tables : UnicodeTables)

def category (c : Char) : MajorCategory := if isAscii c then asciiMajor c else tables.major c

/-- Category `Nd`. -/
def isDecimal (c : Char) : Bool := if isAscii c then c.isDigit else tables.decimalDigit c

def isSpace (c : Char) : Bool := if isAscii c then asciiWhitespace c else tables.whitespace c

def casefoldText (text : String) : List Char :=
  text.toList.flatMap fun c => if isAscii c then [c.toLower] else tables.casefold c

/-- `unicodedata.normalize("NFKC", text)`, which leaves ASCII alone. -/
def nfkc (text : List Char) : List Char :=
  if text.all isAscii then text else tables.normalize text

def strip (text : List Char) : List Char :=
  ((text.dropWhile tables.isSpace).reverse.dropWhile tables.isSpace).reverse

end UnicodeTables

def isHexDigit (c : Char) : Bool :=
  c.isDigit || ('a' ≤ c && c ≤ 'f') || ('A' ≤ c && c ≤ 'F')

def isLowerHex (c : Char) : Bool := c.isDigit || ('a' ≤ c && c ≤ 'f')

/-- `_SHA256`; the verifier's own pattern is the one in lower case. -/
def isSha256 (text : String) : Bool := text.toList.length = 64 && text.toList.all isHexDigit

def isLowerSha256 (text : String) : Bool := text.toList.length = 64 && text.toList.all isLowerHex

/-- `value.casefold()` of an ASCII text. -/
def lowerDigest (text : String) : String := String.ofList (text.toList.map Char.toLower)

/-- A text equal to `str(uuid.UUID(text))`: hexadecimal in lower case in groups of 8, 4, 4, 4
and 12. -/
def isCanonicalUuid (text : String) : Bool :=
  text.toList.length = 36 &&
    text.toList.zipIdx.all fun (c, index) =>
      if index = 8 || index = 13 || index = 18 || index = 23 then c = '-' else isLowerHex c

/-- `uuid.UUID(text).version == 4`: the variant of the standard and version 4. -/
def isUuidVersion4 (text : String) : Bool :=
  text.toList[14]? == some '4' && "89ab".toList.any fun c => text.toList[19]? == some c

/-- A character matched by an ASCII letter of a pattern that ignores case. -/
def matchesLetter (letter c : Char) : Bool :=
  c.toLower == letter || (letter == 's' && c == 'ſ') || (letter == 'k' && c == '\u212A') ||
    (letter == 'i' && (c == 'ı' || c == 'İ'))

/-- What follows a word found at the start of a text, its case ignored. -/
def afterWord : List Char → List Char → Option (List Char)
  | [], rest => some rest
  | _ :: _, [] => none
  | letter :: word, c :: rest => if matchesLetter letter c then afterWord word rest else none

def isWordChar (c : Char) : Bool := isAscii c && (c.isAlphanum || c == '_')

def secretWords : List String := ["password", "passwd", "pwd", "secret", "token"]

/-- One of the words stands here, with no word character after it. -/
def secretWordHere (text : List Char) : Bool :=
  secretWords.any fun word =>
    match afterWord word.toList text with
    | none => false
    | some [] => true
    | some (c :: _) => !isWordChar c

/-- The first of `_SECRET_TEXT_PATTERNS`; `free` says that no word character stands before. -/
def hasSecretWord (free : Bool) : List Char → Bool
  | [] => false
  | c :: rest => (free && secretWordHere (c :: rest)) || hasSecretWord (!isWordChar c) rest

section Patterns

variable (tables : UnicodeTables)

/-- `authorization\s*:\s*bearer\s+` at this place. -/
def bearerHere (text : List Char) : Bool :=
  match afterWord "authorization".toList text with
  | none => false
  | some rest =>
    match rest.dropWhile tables.isSpace with
    | ':' :: rest =>
      match afterWord "bearer".toList (rest.dropWhile tables.isSpace) with
      | some (c :: _) => tables.isSpace c
      | _ => false
    | _ => false

def hasBearer : List Char → Bool
  | [] => false
  | c :: rest => bearerHere tables (c :: rest) || hasBearer rest

/-- `/login:\d+` at this place. -/
def loginOptionHere (text : List Char) : Bool :=
  match afterWord "/login:".toList text with
  | some (c :: _) => tables.isDecimal c
  | _ => false

/-- `login\s*=\s*\d+` at this place. -/
def loginEntryHere (text : List Char) : Bool :=
  match afterWord "login".toList text with
  | none => false
  | some rest =>
    match rest.dropWhile tables.isSpace with
    | '=' :: rest =>
      match rest.dropWhile tables.isSpace with
      | c :: _ => tables.isDecimal c
      | [] => false
    | _ => false

/-- A pattern that stands at the start of the text or after one of the given characters. -/
def hasAfter (opens : Char → Bool) (here : List Char → Bool) (atOpening : Bool) :
    List Char → Bool
  | [] => false
  | c :: rest => (atOpening && here (c :: rest)) || hasAfter opens here (opens c) rest

/-- Some pattern of `_SECRET_TEXT_PATTERNS` is found in the text. -/
def isSecretText (text : List Char) : Bool :=
  hasSecretWord true text || hasBearer tables text ||
    hasAfter tables.isSpace (loginOptionHere tables) true text ||
    hasAfter (fun c => c == '\r' || c == '\n') (loginEntryHere tables) true text

end Patterns

/-- `_INVISIBLE_CODEPOINT_RANGES`. -/
def invisibleCodepointRanges : List (Nat × Nat) :=
  [(0x034F, 0x034F), (0x115F, 0x1160), (0x17B4, 0x17B5), (0x180B, 0x180D), (0x3164, 0x3164),
    (0xFE00, 0xFE0F), (0xFFA0, 0xFFA0), (0x1D173, 0x1D17A), (0xE0100, 0xE01EF)]

def isInvisibleCodepoint (codepoint : Nat) : Bool :=
  invisibleCodepointRanges.any fun (lower, upper) => lower ≤ codepoint && codepoint ≤ upper

/-- `_CLEAN_TEXT`. -/
def isCleanText (text : List Char) : Bool :=
  1 ≤ text.length && text.length ≤ 256 && text.all fun c => 32 ≤ c.toNat && c.toNat ≠ 127

section AccountNumbers

variable (tables : UnicodeTables)

/-- The loop over contiguous decimal digits. -/
def hasDigitRun (contiguous : Nat) : List Char → Bool
  | [] => false
  | c :: rest =>
    if tables.isDecimal c then
      (6 ≤ contiguous + 1 && contiguous + 1 ≤ 19) || hasDigitRun (contiguous + 1) rest
    else hasDigitRun 0 rest

def isFormatting (c : Char) : Bool :=
  match tables.category c with
  | .separator | .punctuation | .symbol => true
  | _ => false

/-- The loop over digits with formatting between them; `digits` counts those of the open
group. -/
def hasFormattedNumber (digits : Option Nat) : List Char → Bool
  | [] =>
    match digits with
    | none => false
    | some count => 6 ≤ count && count ≤ 19
  | c :: rest =>
    if tables.isDecimal c then hasFormattedNumber (some (digits.getD 0 + 1)) rest
    else
      match digits with
      | none => hasFormattedNumber none rest
      | some count =>
        if isFormatting tables c then hasFormattedNumber (some count) rest
        else (6 ≤ count && count ≤ 19) || hasFormattedNumber none rest

/-- `_FORMATTED_ACCOUNT_NUMBER_FIELDS`. -/
def formattedAccountNumberFields : List String :=
  ["requested_server_label", "expected_identity.server", "expected_identity.company",
    "run_context.expected_server", "run_context.expected_company", "identity.server",
    "identity.company", "identity probe account_server", "identity probe account_company",
    "expected identity server", "expected identity company"]

/-- `_contains_account_like_human_number`. -/
def containsAccountLikeHumanNumber (value : List Char) (field : String) : Bool :=
  hasDigitRun tables 0 value ||
    (formattedAccountNumberFields.contains field && hasFormattedNumber tables none value)

/-- The test of `_validated_text`. -/
def isValidText (value : List Char) (field : String) (maximum : Nat) : Bool :=
  tables.nfkc value == value &&
    value.all (fun c => tables.category c ≠ .other && !isInvisibleCodepoint c.toNat) &&
    tables.strip value == value && 1 ≤ value.length && value.length ≤ maximum &&
    isCleanText value && !containsAccountLikeHumanNumber tables value field &&
    !isSecretText tables value && !value.any fun c => c == '/' || c == '\\'

end AccountNumbers

theorem isHexDigit_of_isLowerHex {c : Char} (h : isLowerHex c = true) : isHexDigit c = true := by
  unfold isLowerHex at h
  unfold isHexDigit
  rw [h]
  rfl

theorem isSha256_of_lower {text : String} (h : isLowerSha256 text = true) :
    isSha256 text = true := by
  unfold isLowerSha256 at h
  unfold isSha256
  simp only [Bool.and_eq_true, decide_eq_true_eq, List.all_eq_true] at h ⊢
  exact ⟨h.1, fun c hc => isHexDigit_of_isLowerHex (h.2 c hc)⟩

theorem toLower_of_isLowerHex {c : Char} (h : isLowerHex c = true) : c.toLower = c := by
  unfold isLowerHex at h
  have hnot : ¬ (c.val ≥ 'A'.val ∧ c.val ≤ 'Z'.val) := by
    intro hupper
    have hrange : 65 ≤ c.toNat ∧ c.toNat ≤ 90 := hupper
    simp only [Char.isDigit, Bool.or_eq_true, Bool.and_eq_true, decide_eq_true_eq] at h
    rcases h with hdigit | hletter
    · have hlow : c.toNat ≤ 57 := hdigit.2
      omega
    · have hhigh : 97 ≤ c.toNat := hletter.1
      omega
  unfold Char.toLower
  simp only [ge_iff_le] at hnot ⊢
  rw [dif_neg hnot]

/-- A digest in lower case stays as it is. -/
theorem lowerDigest_of_lower {text : String} (h : isLowerSha256 text = true) :
    lowerDigest text = text := by
  unfold isLowerSha256 at h
  simp only [Bool.and_eq_true, List.all_eq_true] at h
  have hmap : text.toList.map Char.toLower = text.toList := by
    conv_rhs => rw [← List.map_id text.toList]
    apply List.map_congr_left
    intro c hc
    exact toLower_of_isLowerHex (h.2 c hc)
  rw [lowerDigest, hmap, String.ofList_toList]

end TradeJournalWorker.Lab
