import TradeJournalWorker.ReleaseTrees

namespace TradeJournalWorker.Release

open JsonText JsonValue
open Lab (utf8Bytes)

/-- The bytes of the file at a path. -/
def FileTree.file? (tree : FileTree) (path : TreePath) : Option (List UInt8) :=
  match tree.get? path with
  | some (.file bytes) => some bytes
  | _ => none

theorem FileTree.file?_eq_some {tree : FileTree} {path : TreePath} {bytes : List UInt8} :
    tree.file? path = some bytes ↔ tree.get? path = some (.file bytes) := by
  unfold FileTree.file?
  constructor
  · intro h
    split at h
    next heq =>
      cases h
      exact heq
    next => cases h
  · intro h
    rw [h]

section Verification

variable {setup : ReleaseSetup} {tree tree' : FileTree} {expected : Expected}
  {items : List JsonValue}

/-- The manifest, a directory, or a file with the digest and the size that are expected of it. -/
def EntryFits (setup : ReleaseSetup) (expected : Expected) (item : TreePath × TreeEntry) : Prop :=
  item.1 = [releaseManifestName] ∨ item.2 = .directory ∨
    ∃ bytes relative, item.2 = .file bytes ∧ safeRelative (asPosix item.1) = .ok relative ∧
      expected.get? relative.text = some (setup.sha256 bytes, (bytes.length : Int))

/-- The path of a file other than the manifest. -/
def entryText (item : TreePath × TreeEntry) : List (List Char) :=
  if item.1 = [releaseManifestName] then []
  else
    match item.2, safeRelative (asPosix item.1) with
    | .file _, .ok relative => [relative.text]
    | _, _ => []

theorem checkEntry_eq_ok (actual : List (List Char)) (item : TreePath × TreeEntry)
    (next : List (List Char)) :
    checkEntry setup expected actual item = .ok next ↔
      EntryFits setup expected item ∧ next = actual ++ entryText item := by
  obtain ⟨path, entry⟩ := item
  unfold checkEntry EntryFits entryText
  by_cases hmanifest : path = [releaseManifestName]
  · simp [hmanifest, eq_comm]
  · simp only [hmanifest, if_false, false_or]
    cases entry with
    | reparsePoint => simp [refuse]
    | directory => simp [eq_comm]
    | special => simp [refuse]
    | file bytes =>
      cases hsafe : safeRelative (asPosix path) with
      | error error => simp
      | ok relative =>
        by_cases hfound : expected.get? relative.text =
            some (setup.sha256 bytes, (bytes.length : Int))
        · simp [hfound, eq_comm]
        · simp [hfound, refuse]

theorem verifyTree_eq_ok : verifyTree setup tree items = .ok () ↔
    ∃ expected, items.foldlM checkItem ∅ = .ok expected ∧
      (∀ item ∈ tree.entries.entries, EntryFits setup expected item) ∧
      ∀ key, key ∈ expected.keys ↔ key ∈ tree.entries.entries.flatMap entryText := by
  constructor
  · intro h
    obtain ⟨expected, hexpected, h⟩ := except_bind_eq_ok h
    obtain ⟨actual, hactual, h⟩ := except_bind_eq_ok h
    obtain ⟨hfits, hcollected⟩ := (foldlM_collects checkEntry_eq_ok).mp hactual
    rw [List.nil_append] at hcollected
    subst hcollected
    refine ⟨expected, hexpected, hfits, ?_⟩
    intro key
    split at h
    next hsame => exact ⟨hsame.2 key, hsame.1 key⟩
    next => cases h
  · intro h
    obtain ⟨expected, hexpected, hfits, hkeys⟩ := h
    have hactual : tree.entries.entries.foldlM (checkEntry setup expected) [] =
        .ok ([] ++ tree.entries.entries.flatMap entryText) :=
      (foldlM_collects checkEntry_eq_ok).mpr ⟨hfits, rfl⟩
    unfold verifyTree
    rw [hexpected, except_ok_bind, hactual, except_ok_bind, List.nil_append,
      if_pos ⟨fun path => (hkeys path).mpr, fun path => (hkeys path).mp⟩]

theorem verifyRelease_eq_ok {members : List (String × JsonValue)} :
    verifyRelease setup tree = .ok members ↔
      ∃ document items, readManifest tree = .ok document ∧
        checkDocument document = .ok (members, items) ∧ verifyTree setup tree items = .ok () := by
  constructor
  · intro h
    obtain ⟨document, hdocument, h⟩ := except_bind_eq_ok h
    obtain ⟨⟨found, items⟩, hitems, h⟩ := except_bind_eq_ok h
    obtain ⟨_, htree, h⟩ := except_bind_eq_ok h
    cases h
    exact ⟨document, items, hdocument, hitems, htree⟩
  · intro h
    obtain ⟨document, items, hdocument, hitems, htree⟩ := h
    unfold verifyRelease
    rw [hdocument, except_ok_bind, hitems, except_ok_bind]
    simp only [htree, except_ok_bind]

theorem mem_entries_iff_get? {path : TreePath} {entry : TreeEntry} :
    (path, entry) ∈ tree.entries.entries ↔ tree.get? path = some entry :=
  OrderedDict.mem_entries_iff

theorem valid_of_get? {path : TreePath} {entry : TreeEntry} (h : tree.get? path = some entry) :
    ValidPath path := by
  apply tree.named
  rw [← OrderedDict.isSome_get?_iff]
  exact Option.isSome_iff_exists.mpr ⟨entry, h⟩

/-- A file that fits is expected under its own path. -/
theorem expected_of_fits {path : TreePath} {bytes : List UInt8}
    (hfits : ∀ item ∈ tree.entries.entries, EntryFits setup expected item)
    (hpath : path ≠ [releaseManifestName]) (hfile : tree.file? path = some bytes) :
    expected.get? (asPosix path) = some (setup.sha256 bytes, (bytes.length : Int)) := by
  have hget := FileTree.file?_eq_some.mp hfile
  rcases hfits _ (mem_entries_iff_get?.mpr hget) with hmanifest | hdirectory | hfound
  · exact absurd hmanifest hpath
  · cases hdirectory
  · obtain ⟨found, relative, hentry, hsafe, hexpected⟩ := hfound
    cases hentry
    rw [(safeRelative_asPosix (valid_of_get? hget) hsafe).1] at hexpected
    exact hexpected

theorem asPosix_inj {path path' : TreePath} (h : ValidPath path) (h' : ValidPath path')
    (heq : asPosix path = asPosix path') : path = path' := by
  rw [← splitOn_asPosix h, heq, splitOn_asPosix h']

/-- The paths that the loop over the entries collects are those of the files. -/
theorem file_of_mem_entryText {key : List Char}
    (h : key ∈ tree.entries.entries.flatMap entryText) :
    ∃ path bytes, path ≠ [releaseManifestName] ∧ tree.file? path = some bytes ∧
      asPosix path = key := by
  obtain ⟨⟨path, entry⟩, hitem, hkey⟩ := List.mem_flatMap.mp h
  have hget := mem_entries_iff_get?.mp hitem
  unfold entryText at hkey
  split at hkey
  next => cases hkey
  next hmanifest =>
    split at hkey
    next bytes relative hentry hsafe =>
      have htext := (safeRelative_asPosix (valid_of_get? hget) hsafe).1
      have heq := List.mem_singleton.mp hkey
      rw [show entry = .file bytes from hentry] at hget
      exact ⟨path, bytes, hmanifest, FileTree.file?_eq_some.mpr hget, by rw [heq, htext]⟩
    next => cases hkey

/-- No two files of the trees under one path have the same digest without being the same. -/
def NoCollision (setup : ReleaseSetup) (tree tree' : FileTree) : Prop :=
  ∀ path bytes bytes', tree.file? path = some bytes → tree'.file? path = some bytes' →
    setup.sha256 bytes = setup.sha256 bytes' → bytes = bytes'

theorem file_of_sealed (h : verifyTree setup tree items = .ok ())
    (h' : verifyTree setup tree' items = .ok ()) (hcollision : NoCollision setup tree tree')
    {path : TreePath} {bytes : List UInt8} (hpath : path ≠ [releaseManifestName])
    (hfile : tree.file? path = some bytes) : tree'.file? path = some bytes := by
  obtain ⟨expected, hexpected, hfits, -⟩ := verifyTree_eq_ok.mp h
  obtain ⟨expected', hexpected', hfits', hkeys'⟩ := verifyTree_eq_ok.mp h'
  rw [hexpected] at hexpected'
  cases hexpected'
  have hfound := expected_of_fits hfits hpath hfile
  have hkey : asPosix path ∈ expected.keys := by
    rw [← OrderedDict.isSome_get?_iff, hfound]
    rfl
  obtain ⟨other, bytes', hother, hfile', hsame⟩ := file_of_mem_entryText ((hkeys' _).mp hkey)
  have hvalid := valid_of_get? (FileTree.file?_eq_some.mp hfile)
  have hvalid' := valid_of_get? (FileTree.file?_eq_some.mp hfile')
  have heq := asPosix_inj hvalid' hvalid hsame
  subst heq
  have hfound' := expected_of_fits hfits' hother hfile'
  rw [hfound] at hfound'
  have hdigest : setup.sha256 bytes = setup.sha256 bytes' := by
    simp only [Option.some.injEq, Prod.mk.injEq] at hfound'
    exact hfound'.1
  rw [hcollision other bytes bytes' hfile hfile' hdigest]
  exact hfile'

theorem readManifest_congr
    (h : tree'.get? [releaseManifestName] = tree.get? [releaseManifestName]) :
    readManifest tree' = readManifest tree := by
  unfold readManifest
  rw [h]

theorem NoCollision.symm (h : NoCollision setup tree tree') : NoCollision setup tree' tree := by
  intro path bytes bytes' hfile hfile' hdigest
  exact (h path bytes' bytes hfile' hfile hdigest.symm).symm

/-- Two trees that pass with one manifest have the same files. -/
theorem files_of_sealed {members members' : List (String × JsonValue)}
    (h : verifyRelease setup tree = .ok members) (h' : verifyRelease setup tree' = .ok members')
    (hmanifest : tree'.get? [releaseManifestName] = tree.get? [releaseManifestName])
    (hcollision : NoCollision setup tree tree') (path : TreePath) :
    tree'.file? path = tree.file? path := by
  obtain ⟨document, items, hdocument, hitems, htree⟩ := verifyRelease_eq_ok.mp h
  obtain ⟨document', items', hdocument', hitems', htree'⟩ := verifyRelease_eq_ok.mp h'
  rw [readManifest_congr hmanifest, hdocument] at hdocument'
  cases hdocument'
  rw [hitems] at hitems'
  cases hitems'
  by_cases hpath : path = [releaseManifestName]
  · subst hpath
    unfold FileTree.file?
    rw [hmanifest]
  · cases hfile : tree.file? path with
    | some bytes => exact file_of_sealed htree htree' hcollision hpath hfile
    | none =>
      cases hfile' : tree'.file? path with
      | none => rfl
      | some bytes =>
        have hback := file_of_sealed htree' htree hcollision.symm hpath hfile'
        rw [hfile] at hback
        cases hback

end Verification

/-- The tree of the copied files. -/
def stageOf (files : ReleaseFiles) : FileTree :=
  files.foldl (fun tree file => tree.put file.1.path file.1.valid (.file file.2)) FileTree.empty

/-- The manifest's own place. -/
def manifestPath : SafePath := ⟨releaseManifestName, by decide, by decide⟩

theorem manifestPath_path : manifestPath.path = [releaseManifestName] := by decide

/-- The copied files with the manifest beside them. -/
def releaseTree (setup : ReleaseSetup) (revision : List Char) (files : ReleaseFiles) : FileTree :=
  (stageOf files).put manifestPath.path manifestPath.valid
    (.file (manifestBytes setup revision files))

def DistinctPaths (files : ReleaseFiles) : Prop := (files.map fun file => file.1.text).Nodup

section Stage

variable {setup : ReleaseSetup} {files : ReleaseFiles} {revision : List Char}

theorem FileTree.get?_put (tree : FileTree) (path : TreePath) (hpath : ValidPath path)
    (entry : TreeEntry) (other : TreePath) :
    (tree.put path hpath entry).get? other = if other = path then some entry else tree.get? other :=
  OrderedDict.get?_set _ _ _ _

theorem stageOf_append (files : ReleaseFiles) (file : SafePath × List UInt8) :
    stageOf (files ++ [file]) = (stageOf files).put file.1.path file.1.valid (.file file.2) := by
  unfold stageOf
  rw [List.foldl_append]
  rfl

theorem path_inj {p q : SafePath} (h : p.path = q.path) : p.text = q.text := by
  rw [← asPosix_path p, h, asPosix_path q]

theorem get?_stageOf (h : DistinctPaths files) {path : TreePath} {entry : TreeEntry} :
    (stageOf files).get? path = some entry ↔
      ∃ file ∈ files, file.1.path = path ∧ entry = .file file.2 := by
  induction files using List.reverseRecOn with
  | nil =>
    constructor
    · intro h
      cases h
    · intro h
      obtain ⟨file, hfile, -⟩ := h
      cases hfile
  | append_singleton files file ih =>
    have hdistinct : DistinctPaths files ∧ ∀ other ∈ files, other.1.text ≠ file.1.text := by
      unfold DistinctPaths at h ⊢
      rw [List.map_append, List.nodup_append] at h
      refine ⟨h.1, ?_⟩
      intro other hother
      exact h.2.2 _ (List.mem_map_of_mem hother) _ (List.mem_singleton.mpr rfl)
    rw [stageOf_append, FileTree.get?_put]
    by_cases hpath : path = file.1.path
    · rw [if_pos hpath]
      constructor
      · intro h
        cases h
        exact ⟨file, by simp, hpath.symm, rfl⟩
      · intro h
        obtain ⟨other, hother, hsame, rfl⟩ := h
        rcases List.mem_append.mp hother with hother | hother
        · exact absurd (path_inj (hsame.trans hpath)) (hdistinct.2 other hother)
        · rw [List.mem_singleton.mp hother]
    · rw [if_neg hpath, ih hdistinct.1]
      constructor
      · intro h
        obtain ⟨other, hother, hrest⟩ := h
        exact ⟨other, by simp [hother], hrest⟩
      · intro h
        obtain ⟨other, hother, hsame, hentry⟩ := h
        rcases List.mem_append.mp hother with hother | hother
        · exact ⟨other, hother, hsame, hentry⟩
        · rw [List.mem_singleton.mp hother] at hsame
          exact absurd hsame.symm hpath

/-- The files of a release are the copied ones and the manifest. -/
theorem releaseTree_file? (h : DistinctPaths files)
    (hmanifest : ∀ file ∈ files, file.1.path ≠ [releaseManifestName]) {path : TreePath}
    {bytes : List UInt8} :
    (releaseTree setup revision files).file? path = some bytes ↔
      (∃ file ∈ files, file.1.path = path ∧ file.2 = bytes) ∨
        path = [releaseManifestName] ∧ bytes = manifestBytes setup revision files := by
  rw [FileTree.file?_eq_some]
  unfold releaseTree
  rw [FileTree.get?_put, manifestPath_path]
  by_cases hpath : path = [releaseManifestName]
  · rw [if_pos hpath]
    constructor
    · intro h
      cases h
      exact Or.inr ⟨hpath, rfl⟩
    · intro h
      rcases h with ⟨file, hfile, hsame, -⟩ | ⟨-, rfl⟩
      · exact absurd (hsame.trans hpath) (hmanifest file hfile)
      · rfl
  · rw [if_neg hpath, get?_stageOf h]
    constructor
    · intro h
      obtain ⟨file, hfile, hsame, hentry⟩ := h
      cases hentry
      exact Or.inl ⟨file, hfile, hsame, rfl⟩
    · intro h
      rcases h with ⟨file, hfile, hsame, rfl⟩ | ⟨hmanifest, -⟩
      · exact ⟨file, hfile, hsame, rfl⟩
      · exact absurd hmanifest hpath

end Stage

section Manifest

variable {setup : ReleaseSetup} {files : ReleaseFiles} {revision : List Char}

theorem decodeUtf8_utf8Bytes (text : String) : decodeUtf8 (utf8Bytes text) = some text.toList := by
  have hread : String.fromUTF8? text.toUTF8 = some text := dif_pos text.isValidUTF8
  unfold decodeUtf8 utf8Bytes
  rw [Array.toArray_toList]
  show (String.fromUTF8? text.toUTF8).map String.toList = _
  rw [hread, Option.map_some]

section Sorted

variable {members : List (String × JsonValue)}

theorem get_sortedMembers (h : (members.map Prod.fst).Nodup) (key : String) :
    get (sortedMembers members) key = sortKeys (get members key) := by
  unfold JsonValue.get
  rw [lookup_sortedMembers h]
  cases members.lookup key with
  | none => rfl
  | some value => rfl

theorem sameKeys_sortedMembers : sameKeys (sortedMembers members) (members.map Prod.fst) = true := by
  have hperm := (sortedMembers_perm members).map Prod.fst
  rw [List.map_map] at hperm
  unfold sameKeys
  rw [decide_eq_true_eq]
  constructor
  · rw [List.all_eq_true]
    intro key hkey
    exact decide_eq_true (hperm.mem_iff.mp hkey)
  · rw [List.all_eq_true]
    intro key hkey
    exact decide_eq_true (hperm.mem_iff.mpr hkey)

end Sorted

theorem floatless_manifest : Floatless (.obj (manifestMembers setup revision files)) := by
  have hitems : Floatless
      (.arr ((sortedFiles files).map fun file => .obj (fileMembers setup file))) := by
    apply (floatlessItems_iff _).mpr
    intro item hitem
    obtain ⟨file, -, rfl⟩ := List.mem_map.mp hitem
    exact ⟨trivial, trivial, trivial, trivial⟩
  exact ⟨trivial, trivial, hitems, trivial⟩

theorem nodup_fileMembers (file : SafePath × List UInt8) :
    ((fileMembers setup file).map Prod.fst).Nodup := by
  show ["path", "sha256", "size"].Nodup
  decide

theorem nodup_manifestMembers : ((manifestMembers setup revision files).map Prod.fst).Nodup := by
  show ["schema_version", "source_revision", "files"].Nodup
  decide

theorem uniqueKeys_manifest : UniqueKeys (.obj (manifestMembers setup revision files)) := by
  have hitems : UniqueKeys
      (.arr ((sortedFiles files).map fun file => .obj (fileMembers setup file))) := by
    apply uniqueKeys_arr.mpr
    intro item hitem
    obtain ⟨file, -, rfl⟩ := List.mem_map.mp hitem
    exact ⟨nodup_fileMembers file, trivial, trivial, trivial, trivial⟩
  exact ⟨nodup_manifestMembers, trivial, trivial, hitems, trivial⟩

/-- The manifest is read as it was meant, with the keys in order. -/
theorem loads_manifest : (decodeUtf8 (manifestBytes setup revision files)).bind loads =
    some (.obj (sortedMembers (manifestMembers setup revision files))) := by
  have hreads := reads_dumps wholeFloats (.obj (manifestMembers setup revision files))
    floatless_manifest uniqueKeys_manifest
  rw [sortKeys_obj] at hreads
  unfold manifestBytes
  rw [decodeUtf8_utf8Bytes, String.toList_ofList]
  exact loads_of_reads hreads

theorem readManifest_releaseTree : readManifest (releaseTree setup revision files) =
    .ok (.obj (sortedMembers (manifestMembers setup revision files))) := by
  have hget : (releaseTree setup revision files).get? [releaseManifestName] =
      some (.file (manifestBytes setup revision files)) := by
    unfold releaseTree
    rw [FileTree.get?_put, if_pos manifestPath_path.symm]
  unfold readManifest
  rw [hget]
  simp only [loads_manifest]

/-- The items of the list of files, as they are read. -/
def readItems (setup : ReleaseSetup) (files : ReleaseFiles) : List JsonValue :=
  (sortedFiles files).map fun file => .obj (sortedMembers (fileMembers setup file))

theorem checkDocument_manifest (hrevision : isLowerHex 40 revision = true) (hfiles : files ≠ []) :
    checkDocument (.obj (sortedMembers (manifestMembers setup revision files))) =
      .ok (sortedMembers (manifestMembers setup revision files), readItems setup files) := by
  have hget := get_sortedMembers (@nodup_manifestMembers setup files revision)
  have hrevisionValue : get (sortedMembers (manifestMembers setup revision files))
      "source_revision" = .str (String.ofList revision) := hget "source_revision"
  have hschema : get (sortedMembers (manifestMembers setup revision files)) "schema_version" =
      .int releaseSchemaVersion := hget "schema_version"
  have hitems : get (sortedMembers (manifestMembers setup revision files)) "files" =
      .arr (readItems setup files) := by
    rw [hget "files"]
    show sortKeys (.arr ((sortedFiles files).map fun file => .obj (fileMembers setup file))) = _
    rw [sortKeys_arr, List.map_map]
    unfold readItems
    congr 1
  have hne : readItems setup files ≠ [] := by
    intro hnil
    have hsorted : sortedFiles files = [] := List.map_eq_nil_iff.mp hnil
    have hlength := congrArg List.length hsorted
    unfold sortedFiles at hlength
    rw [List.length_insertionSort] at hlength
    exact hfiles (List.length_eq_zero_iff.mp hlength)
  have hkeys : sameKeys (sortedMembers (manifestMembers setup revision files))
      ["schema_version", "source_revision", "files"] = true := sameKeys_sortedMembers
  unfold checkDocument
  simp only [hrevisionValue, hitems, hschema, hkeys, String.toList_ofList, hrevision]
  rw [if_pos ⟨trivial, rfl, trivial, hne⟩]

theorem checkItem_file {expected : Expected} {file : SafePath × List UInt8}
    (hnew : file.1.text ∉ expected.keys) :
    checkItem expected (.obj (sortedMembers (fileMembers setup file))) =
      .ok (expected.set file.1.text (setup.sha256 file.2, (file.2.length : Int))) := by
  have hget := get_sortedMembers (@nodup_fileMembers setup file)
  have hpath : get (sortedMembers (fileMembers setup file)) "path" =
      .str (String.ofList file.1.text) := hget "path"
  have hdigest : get (sortedMembers (fileMembers setup file)) "sha256" =
      .str (String.ofList (setup.sha256 file.2)) := hget "sha256"
  have hsize : get (sortedMembers (fileMembers setup file)) "size" = .int file.2.length :=
    hget "size"
  have hkeys : sameKeys (sortedMembers (fileMembers setup file)) ["path", "sha256", "size"] = true :=
    sameKeys_sortedMembers
  have hhex := setup.sha256_hex file.2
  unfold checkItem
  simp only [hpath, hdigest, hsize, hkeys, String.toList_ofList, hhex, safeRelative_text]
  rw [if_pos ⟨trivial, trivial, Int.natCast_nonneg _⟩, if_neg hnew]

/-- What the loop over the list of files expects under each path. -/
theorem foldlM_checkItem (files : ReleaseFiles) : ∀ start : Expected, DistinctPaths files →
    (∀ file ∈ files, file.1.text ∉ start.keys) →
    ∃ expected, (files.map fun file => .obj (sortedMembers (fileMembers setup file))).foldlM
        checkItem start = .ok expected ∧
      ∀ key value, expected.get? key = some value ↔ start.get? key = some value ∨
        ∃ file ∈ files, key = file.1.text ∧
          value = (setup.sha256 file.2, (file.2.length : Int)) := by
  induction files with
  | nil =>
    intro start _ _
    exact ⟨start, rfl, by simp⟩
  | cons file files ih =>
    intro start hdistinct hnew
    unfold DistinctPaths at hdistinct
    rw [List.map_cons, List.nodup_cons] at hdistinct
    have hhead := hnew file List.mem_cons_self
    have hother : ∀ other ∈ files, other.1.text ≠ file.1.text := by
      intro other hmem heq
      exact hdistinct.1 (List.mem_map.mpr ⟨other, hmem, heq⟩)
    have htail : ∀ other ∈ files, other.1.text ∉
        (start.set file.1.text (setup.sha256 file.2, (file.2.length : Int))).keys := by
      intro other hmem hkey
      rw [← OrderedDict.isSome_get?_iff, OrderedDict.get?_set_of_ne _ _ (hother other hmem),
        OrderedDict.isSome_get?_iff] at hkey
      exact hnew other (List.mem_cons_of_mem _ hmem) hkey
    obtain ⟨expected, hfold, hget⟩ := ih _ hdistinct.2 htail
    refine ⟨expected, foldlM_cons_eq_ok.mpr ⟨_, checkItem_file hhead, hfold⟩, ?_⟩
    intro key value
    rw [hget key value, OrderedDict.get?_set]
    have habsent : start.get? file.1.text = none := OrderedDict.get?_eq_none_iff.mpr hhead
    by_cases hkey : key = file.1.text
    · subst hkey
      simp [habsent, eq_comm]
    · simp [hkey]

theorem sortedFiles_perm (files : ReleaseFiles) : (sortedFiles files).Perm files :=
  List.perm_insertionSort _ _

theorem releaseTree_fits {expected : Expected} (hdistinct : DistinctPaths files)
    (hexpected : ∀ file ∈ files, expected.get? file.1.text =
      some (setup.sha256 file.2, (file.2.length : Int))) :
    ∀ item ∈ (releaseTree setup revision files).entries.entries, EntryFits setup expected item := by
  intro item hitem
  obtain ⟨path, entry⟩ := item
  have hget := mem_entries_iff_get?.mp hitem
  unfold releaseTree at hget
  rw [FileTree.get?_put, manifestPath_path] at hget
  split at hget
  next hpath => exact Or.inl hpath
  next hpath =>
    obtain ⟨file, hfile, rfl, rfl⟩ := (get?_stageOf hdistinct).mp hget
    refine Or.inr (Or.inr ⟨file.2, file.1, rfl, ?_, hexpected file hfile⟩)
    rw [asPosix_path, safeRelative_text]

theorem entryText_file {file : SafePath × List UInt8} (hpath : file.1.path ≠ [releaseManifestName]) :
    entryText (file.1.path, .file file.2) = [file.1.text] := by
  unfold entryText
  rw [if_neg hpath]
  simp only [asPosix_path, safeRelative_text]

/-- A stage that was copied and described without a fault passes. -/
theorem verifyRelease_releaseTree (hrevision : isLowerHex 40 revision = true) (hfiles : files ≠ [])
    (hdistinct : DistinctPaths files)
    (hmanifest : ∀ file ∈ files, file.1.path ≠ [releaseManifestName]) :
    verifyRelease setup (releaseTree setup revision files) =
      .ok (sortedMembers (manifestMembers setup revision files)) := by
  have hperm := sortedFiles_perm files
  have hsorted : DistinctPaths (sortedFiles files) := by
    unfold DistinctPaths at hdistinct ⊢
    exact (hperm.map _).nodup_iff.mpr hdistinct
  obtain ⟨expected, hfold, hget⟩ := @foldlM_checkItem setup (sortedFiles files) ∅ hsorted
    (by simp)
  have hexpected : ∀ file ∈ files, expected.get? file.1.text =
      some (setup.sha256 file.2, (file.2.length : Int)) := by
    intro file hfile
    exact (hget _ _).mpr (Or.inr ⟨file, hperm.mem_iff.mpr hfile, rfl, rfl⟩)
  apply verifyRelease_eq_ok.mpr
  refine ⟨_, _, readManifest_releaseTree, checkDocument_manifest hrevision hfiles,
    verifyTree_eq_ok.mpr ⟨expected, hfold, releaseTree_fits hdistinct hexpected, ?_⟩⟩
  intro key
  constructor
  · intro hkey
    obtain ⟨value, hvalue⟩ := OrderedDict.exists_get?_of_mem hkey
    rcases (hget key value).mp hvalue with hstart | ⟨file, hfile, rfl, -⟩
    · cases hstart
    · have hfile := hperm.mem_iff.mp hfile
      have hpath := hmanifest file hfile
      have hfound : (releaseTree setup revision files).get? file.1.path = some (.file file.2) :=
        FileTree.file?_eq_some.mp
          ((releaseTree_file? hdistinct hmanifest).mpr (Or.inl ⟨file, hfile, rfl, rfl⟩))
      refine List.mem_flatMap.mpr ⟨_, mem_entries_iff_get?.mpr hfound, ?_⟩
      rw [entryText_file hpath]
      exact List.mem_singleton.mpr rfl
  · intro hkey
    obtain ⟨path, bytes, hpath, hfile, rfl⟩ := file_of_mem_entryText hkey
    rcases (releaseTree_file? hdistinct hmanifest).mp hfile with ⟨file, hmem, rfl, -⟩ | ⟨hself, -⟩
    · rw [asPosix_path, ← OrderedDict.isSome_get?_iff, hexpected file hmem]
      rfl
    · exact absurd hself hpath

end Manifest

end TradeJournalWorker.Release
