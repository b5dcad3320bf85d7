import TradeJournalWorker.ContractDigests
import TradeJournalWorker.ExceptFolds
import TradeJournalWorker.FaultRules
import TradeJournalWorker.JsonDumps

namespace TradeJournalWorker.Release

open JsonText JsonValue
open Lab (utf8Bytes)

/-- A path below a root, by its names. -/
abbrev TreePath := List (List Char)

def ValidName (name : List Char) : Prop :=
  name ∉ [[], ['.'], ['.', '.']] ∧ '/' ∉ name ∧ '\\' ∉ name

instance (name : List Char) : Decidable (ValidName name) := inferInstanceAs (Decidable (_ ∧ _))

def ValidPath (path : TreePath) : Prop := path ≠ [] ∧ ∀ name ∈ path, ValidName name

instance (path : TreePath) : Decidable (ValidPath path) := inferInstanceAs (Decidable (_ ∧ _))

/-- What stands at a path; `special` is neither a file nor a directory. -/
inductive TreeEntry where
  | file (bytes : List UInt8)
  | directory
  | special
  | reparsePoint
  deriving DecidableEq, Repr

/-- What is below a root. -/
structure FileTree where
  entries : OrderedDict TreePath TreeEntry
  named : ∀ path ∈ entries.keys, ValidPath path

namespace FileTree

def get? (tree : FileTree) (path : TreePath) : Option TreeEntry := tree.entries.get? path

def empty : FileTree := ⟨∅, fun path hpath => by cases hpath⟩

def put (tree : FileTree) (path : TreePath) (hpath : ValidPath path) (entry : TreeEntry) :
    FileTree where
  entries := tree.entries.set path entry
  named := by
    intro other hother
    rw [← OrderedDict.isSome_get?_iff, OrderedDict.get?_set] at hother
    split at hother
    next heq =>
      rw [heq]
      exact hpath
    next => exact tree.named other (OrderedDict.isSome_get?_iff.mp hother)

end FileTree

inductive ReleaseFailure where
  | manifestError (message : String)
  | osError
  deriving DecidableEq, Repr

abbrev Checked (α : Type) := Except ReleaseFailure α

def refuse {α : Type} (message : String) : Checked α := .error (.manifestError message)

/-- The tests of `_safe_relative` on a text whose backslashes are replaced. -/
def Unsafe (normalized : List Char) : Prop :=
  normalized = [] ∨ normalized.head? = some '/' ∨ normalized[1]? = some ':' ∨
    ∃ part ∈ normalized.splitOn '/', part ∈ [[], ['.'], ['.', '.']]

instance (normalized : List Char) : Decidable (Unsafe normalized) :=
  inferInstanceAs (Decidable (_ ∨ _))

/-- What `_safe_relative` lets through. -/
structure SafePath where
  text : List Char
  slashed : '\\' ∉ text
  safe : ¬ Unsafe text

def withSlashes (value : List Char) : List Char := value.map fun c => if c = '\\' then '/' else c

theorem withSlashes_slashed (value : List Char) : '\\' ∉ withSlashes value := by
  intro hmem
  obtain ⟨c, -, hc⟩ := List.mem_map.mp hmem
  split at hc
  next => exact absurd hc (by decide)
  next hne => exact hne hc

def safeRelative (value : List Char) : Checked SafePath :=
  if h : Unsafe (withSlashes value) then refuse "release path is unsafe"
  else .ok ⟨withSlashes value, withSlashes_slashed value, h⟩

/-- `as_posix`. -/
def asPosix (path : TreePath) : List Char := ['/'].intercalate path

def SafePath.path (p : SafePath) : TreePath := p.text.splitOn '/'

section Splitting

variable {text part : List Char}

theorem mem_splitOn {c : Char} (hpart : part ∈ text.splitOn '/') (hc : c ∈ part) :
    c ∈ text ∧ c ≠ '/' := by
  induction text generalizing part with
  | nil =>
    rw [List.splitOn_nil, List.mem_singleton] at hpart
    rw [hpart] at hc
    cases hc
  | cons d text ih =>
    rw [List.splitOn_cons_eq_if_modifyHead] at hpart
    split at hpart
    next =>
      rcases List.mem_cons.mp hpart with rfl | hpart
      · cases hc
      · obtain ⟨hmem, hne⟩ := ih hpart hc
        exact ⟨List.mem_cons_of_mem _ hmem, hne⟩
    next hd =>
      cases hsplit : text.splitOn '/' with
      | nil => exact absurd hsplit (List.splitOn_ne_nil _ _)
      | cons first rest =>
        rw [hsplit, List.modifyHead_cons] at hpart
        rw [hsplit] at ih
        rcases List.mem_cons.mp hpart with rfl | hpart
        · rcases List.mem_cons.mp hc with rfl | hc
          · exact ⟨List.mem_cons_self, by simpa using hd⟩
          · obtain ⟨hmem, hne⟩ := ih List.mem_cons_self hc
            exact ⟨List.mem_cons_of_mem _ hmem, hne⟩
        · obtain ⟨hmem, hne⟩ := ih (List.mem_cons_of_mem _ hpart) hc
          exact ⟨List.mem_cons_of_mem _ hmem, hne⟩

theorem SafePath.valid (p : SafePath) : ValidPath p.path := by
  refine ⟨List.splitOn_ne_nil _ _, ?_⟩
  intro name hname
  refine ⟨?_, ?_, ?_⟩
  · intro hdots
    exact p.safe (Or.inr (Or.inr (Or.inr ⟨name, hname, hdots⟩)))
  · intro hslash
    exact (mem_splitOn hname hslash).2 rfl
  · intro hslash
    exact p.slashed (mem_splitOn hname hslash).1

theorem asPosix_path (p : SafePath) : asPosix p.path = p.text := List.intercalate_splitOn _

theorem splitOn_asPosix {path : TreePath} (h : ValidPath path) :
    (asPosix path).splitOn '/' = path :=
  List.splitOn_intercalate '/' (fun name hname => (h.2 name hname).2.1) h.1

theorem mem_intercalate {path : TreePath} {c : Char} (h : c ∈ asPosix path) :
    c = '/' ∨ ∃ name ∈ path, c ∈ name := by
  unfold asPosix at h
  induction path with
  | nil => cases h
  | cons name rest ih =>
    cases rest with
    | nil =>
      rw [List.intercalate_singleton] at h
      exact Or.inr ⟨name, by simp, h⟩
    | cons next rest =>
      rw [List.intercalate_cons_cons] at h
      rcases List.mem_append.mp h with h | h
      · rcases List.mem_append.mp h with h | h
        · exact Or.inr ⟨name, by simp, h⟩
        · exact Or.inl (List.mem_singleton.mp h)
      · rcases ih h with h | ⟨other, hother, hc⟩
        · exact Or.inl h
        · exact Or.inr ⟨other, List.mem_cons_of_mem _ hother, hc⟩

theorem withSlashes_of_notMem {value : List Char} (h : '\\' ∉ value) :
    withSlashes value = value := by
  unfold withSlashes
  conv_rhs => rw [← List.map_id value]
  apply List.map_congr_left
  intro c hc
  have hne : c ≠ '\\' := by
    intro heq
    exact h (heq ▸ hc)
  rw [if_neg hne]
  rfl

theorem asPosix_slashed {path : TreePath} (hvalid : ValidPath path) : '\\' ∉ asPosix path := by
  intro hmem
  rcases mem_intercalate hmem with hslash | ⟨name, hname, hmem⟩
  · exact absurd hslash (by decide)
  · exact (hvalid.2 name hname).2.2 hmem

/-- The path of a tree that passes is kept as it is. -/
theorem safeRelative_asPosix {path : TreePath} {p : SafePath} (hvalid : ValidPath path)
    (h : safeRelative (asPosix path) = .ok p) : p.text = asPosix path ∧ p.path = path := by
  have hslashes := withSlashes_of_notMem (asPosix_slashed hvalid)
  unfold safeRelative at h
  split at h
  next => cases h
  next =>
    cases h
    refine ⟨hslashes, ?_⟩
    show (withSlashes (asPosix path)).splitOn '/' = path
    rw [hslashes, splitOn_asPosix hvalid]

theorem safeRelative_text (p : SafePath) : safeRelative p.text = .ok p := by
  have hslashes := withSlashes_of_notMem p.slashed
  unfold safeRelative
  have hsafe := p.safe
  obtain ⟨text, slashed, safe⟩ := p
  simp only at hslashes hsafe
  simp only [hslashes, dif_neg hsafe]

end Splitting

/-- The tree of a source root. -/
structure SourceTree where
  usableRoot : Bool
  tree : FileTree

def releaseManifestName : List Char := "release-manifest.json".toList

/-- `path.name == "__pycache__" or path.suffix == ".pyc"`. -/
def isBytecode (path : TreePath) : Bool :=
  path.getLast?.any fun name =>
    name = "__pycache__".toList ∨ (".pyc".toList <:+ name ∧ 4 < name.length)

/-- The entries below a directory, sorted by their paths. -/
def below (tree : FileTree) (path : TreePath) : List (TreePath × TreeEntry) :=
  (tree.entries.entries.filter fun item => path <+: item.1 ∧ path ≠ item.1).insertionSort
    fun a b => String.ofList (asPosix a.1) ≤ String.ofList (asPosix b.1)

/-- The file that an entry below a directory yields, if any. -/
def yieldedFile (item : TreePath × TreeEntry) : Checked (Option (SafePath × List UInt8)) :=
  match item.2 with
  | .reparsePoint => refuse "release source reparse point is forbidden"
  | .directory => .ok none
  | .special => refuse "release source contains a non-regular file"
  | .file bytes => (safeRelative (asPosix item.1)).map fun relative => some (relative, bytes)

/-- What `_safe_source` and `_iter_files` find at an entry of the contents list. -/
def sourceEntry (source : SourceTree) (relative : SafePath) : Checked TreeEntry :=
  match source.tree.get? relative.path with
  | none => refuse "release source escapes root"
  | some .reparsePoint => refuse "release source reparse point is forbidden"
  | some .special => refuse "release source is unavailable"
  | some entry => .ok entry

/-- Texts are equal where their characters are; the membership tests below refer to it by name. -/
theorem lawfulText : LawfulBEq (List Char) := inferInstance

attribute [local instance] lawfulText

/-- The files of a release so far, in the order in which they are copied. -/
abbrev ReleaseFiles := List (SafePath × List UInt8)

def addFile (files : ReleaseFiles) (relative : SafePath) (bytes : List UInt8) :
    Checked ReleaseFiles :=
  if relative.text ∈ files.map fun file => file.1.text then refuse "release source files overlap"
  else .ok (files ++ [(relative, bytes)])

def isLowerHex (count : Nat) (text : List Char) : Bool :=
  text.length = count ∧ text.all fun c => c.isDigit || ('a' ≤ c && c ≤ 'f')

/-- The parts of the environment that do not change: the hash, and whether the output root is a
directory of its own. -/
structure ReleaseSetup where
  sha256 : List UInt8 → List Char
  sha256_hex : ∀ bytes, isLowerHex 64 (sha256 bytes) = true
  outputUsable : Bool

def fileMembers (setup : ReleaseSetup) (file : SafePath × List UInt8) :
    List (String × JsonValue) :=
  [("path", .str (String.ofList file.1.text)),
    ("sha256", .str (String.ofList (setup.sha256 file.2))), ("size", .int file.2.length)]

/-- The files in the order of their paths. -/
def sortedFiles (files : ReleaseFiles) : ReleaseFiles :=
  files.insertionSort fun a b => String.ofList a.1.text ≤ String.ofList b.1.text

def releaseSchemaVersion : Int := 1

def manifestMembers (setup : ReleaseSetup) (revision : List Char) (files : ReleaseFiles) :
    List (String × JsonValue) :=
  [("schema_version", .int releaseSchemaVersion),
    ("source_revision", .str (String.ofList revision)),
    ("files", .arr ((sortedFiles files).map fun file => .obj (fileMembers setup file)))]

/-- The bytes that `_write_manifest` writes; no number in them has a fraction. -/
def manifestBytes (setup : ReleaseSetup) (revision : List Char) (files : ReleaseFiles) :
    List UInt8 :=
  utf8Bytes (String.ofList (dumps wholeFloats (.obj (manifestMembers setup revision files))))

/-- `path.read_text(encoding="utf-8")`. -/
def decodeUtf8 (bytes : List UInt8) : Option (List Char) :=
  (String.fromUTF8? ⟨bytes.toArray⟩).map String.toList

/-- The document in the manifest file. -/
def readManifest (tree : FileTree) : Checked JsonValue :=
  match tree.get? [releaseManifestName] with
  | none => refuse "release root is invalid"
  | some .reparsePoint => refuse "release root is invalid"
  | some (.file bytes) =>
    match (decodeUtf8 bytes).bind loads with
    | none => refuse "release manifest cannot be read"
    | some document => .ok document
  | some _ => refuse "release manifest cannot be read"

/-- `set(members) == {…}`. -/
def sameKeys (members : List (String × JsonValue)) (names : List String) : Bool :=
  (members.map Prod.fst).all (· ∈ names) ∧ names.all (· ∈ members.map Prod.fst)

/-- The tests on the document as a whole; the members and the list of the files. -/
def checkDocument (document : JsonValue) : Checked (List (String × JsonValue) × List JsonValue) :=
  match document with
  | .obj members =>
    match get members "source_revision", get members "files" with
    | .str revision, .arr items =>
      if sameKeys members ["schema_version", "source_revision", "files"] ∧
          (get members "schema_version").equals (.int releaseSchemaVersion) ∧
          isLowerHex 40 revision.toList ∧ items ≠ [] then
        .ok (members, items)
      else refuse "release manifest is invalid"
    | _, _ => refuse "release manifest is invalid"
  | _ => refuse "release manifest is invalid"

/-- The digests and sizes by path. -/
abbrev Expected := OrderedDict (List Char) (List Char × Int)

def checkItem (expected : Expected) (item : JsonValue) : Checked Expected :=
  match item with
  | .obj members =>
    match get members "path", get members "sha256", get members "size" with
    | .str path, .str sha256, .int size =>
      if sameKeys members ["path", "sha256", "size"] ∧ isLowerHex 64 sha256.toList ∧ 0 ≤ size then
        match safeRelative path.toList with
        | .error error => .error error
        | .ok relative =>
          if relative.text ∈ expected.keys then
            refuse "release manifest contains duplicate files"
          else .ok (expected.set relative.text (sha256.toList, size))
      else refuse "release manifest file is invalid"
    | _, _, _ => refuse "release manifest file is invalid"
  | _ => refuse "release manifest file is invalid"

/-- A round of the loop over the entries, with the paths of the files so far. -/
def checkEntry (setup : ReleaseSetup) (expected : Expected) (actual : List (List Char))
    (item : TreePath × TreeEntry) : Checked (List (List Char)) :=
  if item.1 = [releaseManifestName] then .ok actual
  else
    match item.2 with
    | .reparsePoint => refuse "release contains a reparse point"
    | .directory => .ok actual
    | .special => refuse "release contains a non-regular file"
    | .file bytes =>
      match safeRelative (asPosix item.1) with
      | .error error => .error error
      | .ok relative =>
        if expected.get? relative.text = some (setup.sha256 bytes, (bytes.length : Int)) then
          .ok (actual ++ [relative.text])
        else refuse "release file binding is invalid"

def verifyTree (setup : ReleaseSetup) (tree : FileTree) (items : List JsonValue) :
    Checked Unit := do
  let expected ← items.foldlM checkItem ∅
  let actual ← tree.entries.entries.foldlM (checkEntry setup expected) []
  if (∀ path ∈ actual, path ∈ expected.keys) ∧ ∀ path ∈ expected.keys, path ∈ actual then .ok ()
  else refuse "release file set is invalid"

def verifyRelease (setup : ReleaseSetup) (tree : FileTree) :
    Checked (List (String × JsonValue)) := do
  let document ← readManifest tree
  let (members, items) ← checkDocument document
  verifyTree setup tree items
  .ok members

end TradeJournalWorker.Release
