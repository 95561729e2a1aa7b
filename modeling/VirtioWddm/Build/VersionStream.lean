/-
  VirtioWddm.Build.VersionStream

  The stream that the version digests determines the inputs, and the inputs the stream.

  The order of the files is the order of their paths, so that it depends on the set of
  selected files only.  In the stream every value and every path ends at its terminator
  and every content after the length that stands before it; a record is never empty, so
  the end of the stream says how many there are.
-/

import Mathlib.Data.List.Dedup
import VirtioWddm.Build.CacheVersion
import VirtioWddm.Lib.ExceptRules
import VirtioWddm.Lib.Pointwise

namespace VirtioWddm

open Lib

-- ============================================================================
-- The selected files
-- ============================================================================

/-- The code takes the path, if there is a file. -/
def Selects (path : RelPath) : Prop :=
  path = versionTemplate ∨
    (∃ directory ∈ SOURCE_DIRS, directory <+: path ∧ directory ≠ path) ∧
      suffix path ∈ SOURCE_SUFFIXES

/-- The selected files with their contents. -/
def SourceTree.selected (root : SourceTree) : Set (RelPath × List Byte) :=
  {file | Selects file.1 ∧ root.files file.1 = some file.2}

section Selected

variable {root root' : SourceTree} {path : RelPath}

theorem mem_paths :
    path ∈ root.paths ↔ path = versionTemplate ∨ Selects path ∧ (root.files path).isSome := by
  rw [SourceTree.paths, List.mem_cons]
  constructor
  · rintro (htemplate | hpath)
    · exact .inl htemplate
    · obtain ⟨directory, hdir, hpath⟩ := List.mem_flatMap.mp hpath
      obtain ⟨hglob, htaken⟩ := List.mem_filter.mp hpath
      obtain ⟨hfile, hsuffix⟩ := Bool.and_eq_true_iff.mp htaken
      exact .inr ⟨.inr ⟨⟨directory, hdir, root.rglob_below directory path hglob⟩,
        of_decide_eq_true hsuffix⟩, hfile⟩
  · rintro (htemplate | ⟨htemplate | ⟨⟨directory, hdir, hbelow, hne⟩, hsuffix⟩, hfile⟩)
    · exact .inl htemplate
    · exact .inl htemplate
    · refine .inr (List.mem_flatMap.mpr ⟨directory, hdir, List.mem_filter.mpr
        ⟨root.rglob_files directory path hfile hbelow hne, ?_⟩⟩)
      exact Bool.and_eq_true_iff.mpr ⟨hfile, decide_eq_true hsuffix⟩

/-- The paths in terms of the selected files. -/
theorem mem_sortedPaths :
    path ∈ root.sortedPaths ↔
      path = versionTemplate ∨ ∃ data, (path, data) ∈ root.selected := by
  rw [SourceTree.sortedPaths, (List.perm_insertionSort _ _).mem_iff, List.mem_dedup, mem_paths]
  constructor
  · rintro (htemplate | ⟨hselects, hfile⟩)
    · exact .inl htemplate
    · obtain ⟨data, hdata⟩ := Option.isSome_iff_exists.mp hfile
      exact .inr ⟨data, hselects, hdata⟩
  · rintro (htemplate | ⟨data, hselects, hdata⟩)
    · exact .inl htemplate
    · exact .inr ⟨hselects, Option.isSome_iff_exists.mpr ⟨data, hdata⟩⟩

theorem selects_of_mem (h : path ∈ root.sortedPaths) : Selects path := by
  rcases mem_sortedPaths.mp h with htemplate | ⟨data, hselects, -⟩
  · exact .inl htemplate
  · exact hselects

/-- One set of selected files has one sorted list of paths. -/
theorem sortedPaths_congr (h : root.selected = root'.selected) :
    root.sortedPaths = root'.sortedPaths := by
  have hmem : ∀ path, path ∈ root.sortedPaths ↔ path ∈ root'.sortedPaths := by
    intro path
    rw [mem_sortedPaths, mem_sortedPaths, h]
  have hnodup : ∀ r : SourceTree, r.sortedPaths.Nodup := fun r =>
    (List.perm_insertionSort _ _).nodup_iff.mpr (List.nodup_dedup _)
  have hperm : root.sortedPaths.Perm root'.sortedPaths :=
    (List.perm_ext_iff_of_nodup (hnodup root) (hnodup root')).mpr hmem
  exact hperm.eq_of_pairwise' (List.pairwise_insertionSort _ _) (List.pairwise_insertionSort _ _)

/-- Where the code takes a path, the selected files determine what it finds. -/
theorem files_congr (h : root.selected = root'.selected) (hselects : Selects path) :
    root.files path = root'.files path := by
  have hdata : ∀ data, root.files path = some data ↔ root'.files path = some data := by
    intro data
    have hmem : (path, data) ∈ root.selected ↔ (path, data) ∈ root'.selected := by rw [h]
    exact ⟨fun hfile => (hmem.mp ⟨hselects, hfile⟩).2, fun hfile => (hmem.mpr ⟨hselects, hfile⟩).2⟩
  exact Option.ext hdata

end Selected

-- ============================================================================
-- Paths as strings
-- ============================================================================

/-- The parts of a path are what stands between the `/` of its string. -/
theorem splitOn_asPosix {path : RelPath} (h : path ≠ []) :
    (asPosix path).splitOn slash = path.map Subtype.val := by
  apply List.splitOn_intercalate
  · intro s hs
    obtain ⟨part, -, rfl⟩ := List.mem_map.mp hs
    exact part.property.2.1
  · exact fun hnil => h (List.map_eq_nil_iff.mp hnil)

theorem asPosix_ne_nil {path : RelPath} (h : path ≠ []) : asPosix path ≠ [] := by
  intro hnil
  have hsplit := splitOn_asPosix h
  rw [hnil] at hsplit
  have hempty : [] ∈ path.map Subtype.val := hsplit ▸ List.mem_singleton.mpr rfl
  obtain ⟨part, -, hpart⟩ := List.mem_map.mp hempty
  exact part.property.1 hpart

/-- A path can be read back from its string. -/
theorem asPosix_injective : Function.Injective asPosix := by
  intro path path' h
  by_cases hnil : path = []
  · subst hnil
    by_contra hne
    exact asPosix_ne_nil (Ne.symm hne) h.symm
  · have hnil' : path' ≠ [] := by
      rintro rfl
      exact asPosix_ne_nil hnil h
    have hparts := splitOn_asPosix hnil
    rw [h, splitOn_asPosix hnil'] at hparts
    exact List.map_injective_iff.mpr Subtype.val_injective hparts.symm

theorem nul_not_mem_asPosix (path : RelPath) : nul ∉ asPosix path := by
  induction path with
  | nil => exact List.not_mem_nil
  | cons part path ih =>
      cases path with
      | nil =>
          rw [asPosix, List.map_cons, List.map_nil, List.intercalate_singleton]
          exact part.property.2.2
      | cons part' path =>
          rw [asPosix, List.map_cons, List.map_cons, List.intercalate_cons_cons, ← List.map_cons,
            ← asPosix]
          intro hmem
          rcases List.mem_append.mp hmem with hmem | hmem
          · rcases List.mem_append.mp hmem with hpart | hslash
            · exact part.property.2.2 hpart
            · exact absurd (List.mem_singleton.mp hslash) (by decide)
          · exact ih hmem

-- ============================================================================
-- The stream in pieces
-- ============================================================================

/-- The bytes of a file: its path and its content, each delimited. -/
def recordCode (file : List Byte × List Byte) : List Byte :=
  (file.1 ++ [0]) ++ (leDigits 8 file.2.length ++ file.2)

/-- What a record must be to be read back. -/
def IsRecord (file : List Byte × List Byte) : Prop :=
  (0 : Byte) ∉ file.1 ∧ file.2.length < 256 ^ 8

theorem recordCode_prefixFree : PrefixFreeOn IsRecord recordCode :=
  (PrefixFreeOn.terminated 0).pair (prefixFreeOn_leDigits 8).counted

theorem recordCode_ne_nil (file : List Byte × List Byte) : recordCode file ≠ [] := by
  apply List.ne_nil_of_length_pos
  rw [recordCode, List.length_append, List.length_append, List.length_singleton]
  omega

/-- The bytes are those of the path and of the content of a file. -/
structure RecordOf (root : SourceTree) (path : RelPath) (file : List Byte × List Byte) : Prop where
  name : (asPosix path).encode = some file.1
  data : root.files path = some file.2
  length : file.2.length < 2 ^ 64

theorem RecordOf.isRecord {root : SourceTree} {path : RelPath} {file : List Byte × List Byte}
    (h : RecordOf root path file) : IsRecord file :=
  ⟨zero_not_mem_encode h.name (nul_not_mem_asPosix path), h.length⟩

section Pieces

variable {root : SourceTree}

theorem encodeTerminated_eq_ok {value : PyStr} {bs : List Byte} :
    encodeTerminated value = .ok bs ↔ ∃ name, value.encode = some name ∧ bs = name ++ [0] := by
  rw [encodeTerminated]
  cases hname : value.encode with
  | none => exact iff_of_false (by rintro ⟨⟩) (by rintro ⟨_, ⟨⟩, _⟩)
  | some name =>
      constructor
      · intro h
        cases h
        exact ⟨name, rfl, rfl⟩
      · rintro ⟨_, heq, rfl⟩
        cases heq
        rfl

theorem toBytes8_eq_ok {n : Nat} {bs : List Byte} :
    toBytes8 n = .ok bs ↔ n < 2 ^ 64 ∧ bs = leDigits 8 n := by
  rw [toBytes8]
  split
  case isTrue hlt =>
    constructor
    · intro h
      cases h
      exact ⟨hlt, rfl⟩
    · rintro ⟨-, rfl⟩
      rfl
  case isFalse hge => exact iff_of_false (by rintro ⟨⟩) fun h => hge h.1

theorem readBytes_eq_ok {path : RelPath} {data : List Byte} :
    root.readBytes path = .ok data ↔ root.files path = some data := by
  rw [SourceTree.readBytes]
  cases hdata : root.files path with
  | none => exact iff_of_false (by rintro ⟨⟩) (by rintro ⟨⟩)
  | some data' =>
      constructor
      · intro h
        cases h
        rfl
      · intro h
        cases h
        rfl

theorem fileBytes_eq_ok {path : RelPath} {bs : List Byte} :
    root.fileBytes path = .ok bs ↔ ∃ file, RecordOf root path file ∧ bs = recordCode file := by
  constructor
  · intro h
    obtain ⟨data, hdata, h⟩ := bind_eq_ok h
    obtain ⟨bytes, hbytes, h⟩ := bind_eq_ok h
    obtain ⟨length, hlength, h⟩ := bind_eq_ok h
    obtain ⟨name, hname, rfl⟩ := encodeTerminated_eq_ok.mp hbytes
    obtain ⟨hlt, rfl⟩ := toBytes8_eq_ok.mp hlength
    cases h
    exact ⟨(name, data), ⟨hname, readBytes_eq_ok.mp hdata, hlt⟩, rfl⟩
  · rintro ⟨file, hfile, rfl⟩
    rw [SourceTree.fileBytes, readBytes_eq_ok.mpr hfile.data, ok_bind,
      encodeTerminated_eq_ok.mpr ⟨file.1, hfile.name, rfl⟩, ok_bind,
      toBytes8_eq_ok.mpr ⟨hfile.length, rfl⟩, ok_bind]
    rfl

/-- Both loops yield the concatenation of the code words of what they have read. -/
theorem exists_of_mapM_ok {α β : Type} {f : α → Except PyError (List Byte)}
    {code : β → List Byte} {R : α → β → Prop}
    (hf : ∀ {a bs}, f a = .ok bs → ∃ b, R a b ∧ bs = code b) {l : List α}
    {pieces : List (List Byte)} (h : l.mapM f = .ok pieces) :
    ∃ bs, List.Forall₂ R l bs ∧ pieces.flatten = bs.flatMap code := by
  have hall := forall₂_of_mapM h
  clear h
  induction hall with
  | nil => exact ⟨[], .nil, rfl⟩
  | cons hstep _ ih =>
      obtain ⟨b, hb, rfl⟩ := hf hstep
      obtain ⟨bs, hbs, hcode⟩ := ih
      exact ⟨b :: bs, .cons hb hbs, by rw [List.flatten_cons, hcode, List.flatMap_cons]⟩

/-- The stream: the values and the files. -/
theorem versionStream_pieces {target compiler flags : PyStr} {stream : List Byte}
    (h : versionStream root target compiler flags = .ok stream) :
    ∃ values files,
      List.Forall₂ (fun (value : PyStr) bs => value.encode = some bs)
        [pyStr "droidvm-dxvk-cache-v1", target, compiler, flags] values ∧
      List.Forall₂ (RecordOf root) root.sortedPaths files ∧
      stream = values.flatMap (· ++ [0]) ++ files.flatMap recordCode := by
  obtain ⟨heads, hheads, h⟩ := bind_eq_ok h
  obtain ⟨records, hrecords, h⟩ := bind_eq_ok h
  cases h
  obtain ⟨values, hvalues, hheads⟩ := exists_of_mapM_ok encodeTerminated_eq_ok.mp hheads
  obtain ⟨files, hfiles, hrecords⟩ := exists_of_mapM_ok fileBytes_eq_ok.mp hrecords
  exact ⟨values, files, hvalues, hfiles, by rw [hheads, hrecords]⟩

end Pieces

-- ============================================================================
-- Calls
-- ============================================================================

/-- What `version` is called with. -/
structure VersionCall where
  root : SourceTree
  target : PyStr
  compiler : PyStr
  flags : PyStr

def VersionCall.stream (c : VersionCall) : Except PyError (List Byte) :=
  versionStream c.root c.target c.compiler c.flags

def VersionCall.version (c : VersionCall) (sha256 : List Byte → List Byte) :
    Except PyError String :=
  VirtioWddm.version sha256 c.root c.target c.compiler c.flags

/-- The three strings have no NUL. -/
structure VersionCall.NulFree (c : VersionCall) : Prop where
  target : nul ∉ c.target
  compiler : nul ∉ c.compiler
  flags : nul ∉ c.flags

/-- The two calls are about one target, compiler and list of flags and the same selected
    files. -/
structure VersionCall.SameInputs (c c' : VersionCall) : Prop where
  target : c.target = c'.target
  compiler : c.compiler = c'.compiler
  flags : c.flags = c'.flags
  selected : c.root.selected = c'.root.selected

section Calls

variable {c c' : VersionCall}

/-- The order in which directories are enumerated does not enter. -/
theorem VersionCall.SameInputs.stream (h : c.SameInputs c') : c.stream = c'.stream := by
  have hfiles : ∀ path ∈ c'.root.sortedPaths, c.root.fileBytes path = c'.root.fileBytes path := by
    intro path hpath
    rw [SourceTree.fileBytes, SourceTree.fileBytes, SourceTree.readBytes, SourceTree.readBytes,
      files_congr h.selected (selects_of_mem hpath)]
  rw [VersionCall.stream, VersionCall.stream, versionStream, versionStream, h.target, h.compiler,
    h.flags, sortedPaths_congr h.selected, mapM_congr hfiles]

/-- The values of a call without NUL are read back from their bytes. -/
theorem zero_not_mem_values (h : c.NulFree) {values : List (List Byte)}
    (hvalues : List.Forall₂ (fun (value : PyStr) bs => value.encode = some bs)
      [pyStr "droidvm-dxvk-cache-v1", c.target, c.compiler, c.flags] values) :
    ∀ bs ∈ values, (0 : Byte) ∉ bs := by
  have hnul : ∀ value ∈ [pyStr "droidvm-dxvk-cache-v1", c.target, c.compiler, c.flags],
      nul ∉ value := by
    intro value hvalue
    simp only [List.mem_cons, List.not_mem_nil, or_false] at hvalue
    rcases hvalue with rfl | rfl | rfl | rfl
    · decide
    · exact h.target
    · exact h.compiler
    · exact h.flags
  intro bs hbs
  obtain ⟨value, hvalue, hencode⟩ := exists_of_mem_right hvalues hbs
  exact zero_not_mem_encode hencode (hnul value hvalue)

theorem isRecord_of_mem {root : SourceTree} {files : List (List Byte × List Byte)}
    (hfiles : List.Forall₂ (RecordOf root) root.sortedPaths files) :
    ∀ file ∈ files, IsRecord file := by
  intro file hfile
  obtain ⟨path, -, hrecord⟩ := exists_of_mem_right hfiles hfile
  exact hrecord.isRecord

/-- One list of records comes from one set of selected files. -/
theorem selected_subset {root root' : SourceTree} {files : List (List Byte × List Byte)}
    (hfiles : List.Forall₂ (RecordOf root) root.sortedPaths files)
    (hfiles' : List.Forall₂ (RecordOf root') root.sortedPaths files) :
    root.selected ⊆ root'.selected := by
  rintro ⟨path, data⟩ ⟨hselects, hdata⟩
  have hpath : path ∈ root.sortedPaths := mem_sortedPaths.mpr (.inr ⟨data, hselects, hdata⟩)
  obtain ⟨file, hrecord, hrecord'⟩ := exists_of_forall₂ hfiles hfiles' hpath
  have hfile : data = file.2 := Option.some.inj (hdata.symm.trans hrecord.data)
  exact ⟨hselects, hrecord'.data.trans (congrArg some hfile.symm)⟩

/-- A path is read back from its record. -/
theorem paths_eq {root root' : SourceTree} {files : List (List Byte × List Byte)}
    (hfiles : List.Forall₂ (RecordOf root) root.sortedPaths files)
    (hfiles' : List.Forall₂ (RecordOf root') root'.sortedPaths files) :
    root.sortedPaths = root'.sortedPaths := by
  apply List.left_unique_forall₂'
    (R := fun path (file : List Byte × List Byte) => (asPosix path).encode = some file.1)
    _ (hfiles.imp fun _ _ h => h.name) (hfiles'.imp fun _ _ h => h.name)
  intro path file path' h h'
  exact asPosix_injective (encode_inj h h')

/-- The stream determines the inputs. -/
theorem sameInputs_of_stream {stream : List Byte} (hnul : c.NulFree) (hnul' : c'.NulFree)
    (h : c.stream = .ok stream) (h' : c'.stream = .ok stream) : c.SameInputs c' := by
  obtain ⟨values, files, hvalues, hfiles, rfl⟩ := versionStream_pieces h
  obtain ⟨values', files', hvalues', hfiles', heq⟩ := versionStream_pieces h'
  have hlen : values.length = values'.length := by
    rw [← hvalues.length_eq, ← hvalues'.length_eq]
    rfl
  obtain ⟨rfl, hrest⟩ := (PrefixFreeOn.terminated (0 : Byte)).flatMap_append_inj hlen
    (zero_not_mem_values hnul hvalues) (zero_not_mem_values hnul' hvalues') heq
  obtain rfl : files = files' := recordCode_prefixFree.flatMap_injOn
    (fun file _ => recordCode_ne_nil file) (isRecord_of_mem hfiles) (isRecord_of_mem hfiles') hrest
  have hstrings := List.left_unique_forall₂'
    (R := fun (value : PyStr) bs => value.encode = some bs) (fun _ _ _ h h' => encode_inj h h')
    hvalues hvalues'
  have hpaths := paths_eq hfiles hfiles'
  simp only [List.cons.injEq, and_true, true_and] at hstrings
  obtain ⟨htarget, hcompiler, hflags⟩ := hstrings
  refine ⟨htarget, hcompiler, hflags, Set.Subset.antisymm ?_ ?_⟩
  · exact selected_subset hfiles (hpaths ▸ hfiles')
  · exact selected_subset hfiles' (hpaths ▸ hfiles)

end Calls

-- ============================================================================
-- The version
-- ============================================================================

/-- The digits of a byte. -/
theorem digits_inj : ∀ b b' : Byte,
    [Nat.digitChar (b.toNat / 16), Nat.digitChar (b.toNat % 16)] =
      [Nat.digitChar (b'.toNat / 16), Nat.digitChar (b'.toNat % 16)] → b = b' := by
  have hdigit : ∀ i j : Fin 16, Nat.digitChar i.val = Nat.digitChar j.val → i = j := by decide
  intro b b' h
  obtain ⟨hhigh, hrest⟩ := List.cons.inj h
  obtain ⟨hlow, -⟩ := List.cons.inj hrest
  have hb := b.isLt
  have hb' := b'.isLt
  have hdiv := congrArg Fin.val (hdigit ⟨b.toNat / 16, by omega⟩ ⟨b'.toNat / 16, by omega⟩ hhigh)
  have hmod := congrArg Fin.val (hdigit ⟨b.toNat % 16, by omega⟩ ⟨b'.toNat % 16, by omega⟩ hlow)
  apply BitVec.eq_of_toNat_eq
  dsimp only at hdiv hmod
  omega

theorem hexdigest_injective : Function.Injective hexdigest := by
  intro d d' h
  have hdigits : PrefixFreeOn (fun _ => True) fun b : Byte =>
      [Nat.digitChar (b.toNat / 16), Nat.digitChar (b.toNat % 16)] :=
    .of_length (w := 2) (fun _ => rfl) fun b b' _ _ => digits_inj b b'
  exact hdigits.flatMap_injOn (fun _ _ => List.cons_ne_nil _ _) (fun _ _ => trivial)
    (fun _ _ => trivial) (String.ofList_inj.mp h)

section Calls

variable {c c' : VersionCall} {sha256 : List Byte → List Byte}

theorem version_of_stream {stream : List Byte} (h : c.stream = .ok stream) :
    c.version sha256 = .ok ("umd-" ++ hexdigest (sha256 stream)) := by
  rw [VersionCall.stream] at h
  rw [VersionCall.version, version, h]
  rfl

/-- Versions are equal when the digests are. -/
theorem version_eq_iff {stream stream' : List Byte} (h : c.stream = .ok stream)
    (h' : c'.stream = .ok stream') :
    c.version sha256 = c'.version sha256 ↔ sha256 stream = sha256 stream' := by
  rw [version_of_stream h, version_of_stream h']
  constructor
  · intro heq
    exact hexdigest_injective ((String.append_right_inj "umd-").mp (Except.ok.inj heq))
  · intro heq
    rw [heq]

/-- What the code needs to get to the end: strings and paths without surrogates, the
    template, and lengths that fit eight bytes. -/
structure VersionCall.Complete (c : VersionCall) : Prop where
  values : ∀ value ∈ [c.target, c.compiler, c.flags], ∃ bs, value.encode = some bs
  template : ∃ data, c.root.files versionTemplate = some data
  paths : ∀ file ∈ c.root.selected, ∃ bs, (asPosix file.1).encode = some bs
  contents : ∀ file ∈ c.root.selected, file.2.length < 2 ^ 64

/-- Each selected file has a record. -/
theorem VersionCall.Complete.fileBytes (h : c.Complete) :
    ∀ path ∈ c.root.sortedPaths, ∃ bs, c.root.fileBytes path = .ok bs := by
  intro path hpath
  have hfile : ∃ data, (path, data) ∈ c.root.selected := by
    rcases mem_sortedPaths.mp hpath with rfl | hfile
    · obtain ⟨data, hdata⟩ := h.template
      exact ⟨data, .inl rfl, hdata⟩
    · exact hfile
  obtain ⟨data, hselected⟩ := hfile
  obtain ⟨name, hname⟩ := h.paths _ hselected
  exact ⟨_, fileBytes_eq_ok.mpr ⟨(name, data), ⟨hname, hselected.2, h.contents _ hselected⟩, rfl⟩⟩

theorem VersionCall.Complete.stream (h : c.Complete) : ∃ stream, c.stream = .ok stream := by
  have hvalues : ∀ value ∈ [pyStr "droidvm-dxvk-cache-v1", c.target, c.compiler, c.flags],
      ∃ bs, encodeTerminated value = .ok bs := by
    intro value hvalue
    have hencode : ∃ bs, value.encode = some bs := by
      rcases List.mem_cons.mp hvalue with rfl | hvalue
      · exact ⟨_, encode_eq_some_iff.mpr ⟨_, rfl, rfl⟩⟩
      · exact h.values value hvalue
    obtain ⟨bs, hbs⟩ := hencode
    exact ⟨bs ++ [0], encodeTerminated_eq_ok.mpr ⟨bs, hbs, rfl⟩⟩
  refine exists_ok_bind (exists_mapM hvalues) fun heads _ => ?_
  exact exists_ok_bind (exists_mapM h.fileBytes) fun records _ => ⟨_, rfl⟩

/-- The stream of `version`: it exists, it does not depend on the order in which
    directories are enumerated, and strings without NUL and selected files can be read
    back from it.  So where the digests of two streams do not collide, the versions are
    equal when all inputs are. -/
theorem version_changes_iff :
    (∀ c : VersionCall, c.Complete → ∃ stream, c.stream = .ok stream) ∧
    (∀ c c' : VersionCall, c.SameInputs c' → c.stream = c'.stream) ∧
    (∀ (c c' : VersionCall) (stream : List Byte), c.NulFree → c'.NulFree →
      c.stream = .ok stream → c'.stream = .ok stream → c.SameInputs c') ∧
    ∀ (sha256 : List Byte → List Byte) (c c' : VersionCall) (stream stream' : List Byte),
      c.NulFree → c'.NulFree → c.stream = .ok stream → c'.stream = .ok stream' →
      (sha256 stream = sha256 stream' → stream = stream') →
      (c.version sha256 = c'.version sha256 ↔ c.SameInputs c') := by
  refine ⟨fun c h => h.stream, fun c c' h => h.stream,
    fun c c' stream hnul hnul' h h' => sameInputs_of_stream hnul hnul' h h', ?_⟩
  intro sha256 c c' stream stream' hnul hnul' h h' hsha
  rw [version_eq_iff h h']
  constructor
  · intro heq
    exact sameInputs_of_stream hnul hnul' h (h'.trans (congrArg Except.ok (hsha heq).symm))
  · intro hsame
    have hstream := hsame.stream
    rw [h, h'] at hstream
    exact congrArg sha256 (Except.ok.inj hstream)

end Calls

-- ============================================================================
-- Finite maps
-- ============================================================================

/-- The tree of the given files, enumerated in the order of the list. -/
def SourceTree.ofFiles (files : List (RelPath × List Byte)) : SourceTree where
  files path := (files.find? fun file => file.1 = path).map Prod.snd
  rglob directory := (files.map Prod.fst).filter fun path =>
    decide (directory <+: path ∧ directory ≠ path)
  rglob_files := by
    intro directory path hfile hbelow hne
    rw [Option.isSome_map, List.find?_isSome] at hfile
    obtain ⟨file, hmem, heq⟩ := hfile
    refine List.mem_filter.mpr ⟨?_, decide_eq_true ⟨hbelow, hne⟩⟩
    rw [← of_decide_eq_true heq]
    exact List.mem_map_of_mem hmem
  rglob_below := by
    intro directory path hpath
    exact of_decide_eq_true (List.mem_filter.mp hpath).2

/-- Every finite map is the tree of its files. -/
theorem files_ofFiles {files : List (RelPath × List Byte)} (hkeys : (files.map Prod.fst).Nodup)
    {path : RelPath} {data : List Byte} :
    (SourceTree.ofFiles files).files path = some data ↔ (path, data) ∈ files := by
  constructor
  · intro h
    obtain ⟨file, hfind, rfl⟩ := Option.map_eq_some_iff.mp h
    have hpath := List.find?_some hfind
    rw [decide_eq_true_eq] at hpath
    rw [← hpath]
    exact List.mem_of_find?_eq_some hfind
  · intro h
    obtain ⟨file, hfind⟩ : ∃ file, files.find? (fun file => file.1 = path) = some file :=
      Option.isSome_iff_exists.mp
        (List.find?_isSome.mpr ⟨(path, data), h, decide_eq_true rfl⟩)
    have hpath := List.find?_some hfind
    rw [decide_eq_true_eq] at hpath
    have hfile : file = (path, data) :=
      List.inj_on_of_nodup_map hkeys (List.mem_of_find?_eq_some hfind) h hpath
    show (files.find? fun file => file.1 = path).map Prod.snd = some data
    rw [hfind, hfile]
    rfl

/-- The template of the tests. -/
def templateFile : RelPath × List Byte :=
  (versionTemplate, utf8Bytes "#define DXVK_VERSION \"@VCS_TAG@\"\n".toList)

/-- The source file of the tests. -/
def signatureFile (text : String) : RelPath × List Byte :=
  (pathOf "subprojects/dxbc-spirv/dxbc/dxbc_signature.h", utf8Bytes text.toList)

/-- A call of the tests. -/
def testCall (files : List (RelPath × List Byte)) : VersionCall where
  root := .ofFiles files
  target := pyStr "arm64"
  compiler := pyStr "clang"
  flags := pyStr "-O2"

theorem testCall_nulFree (files : List (RelPath × List Byte)) : (testCall files).NulFree where
  target := show nul ∉ pyStr "arm64" by decide
  compiler := show nul ∉ pyStr "clang" by decide
  flags := show nul ∉ pyStr "-O2" by decide

/-- The digest of the stream before the edit, of 154 bytes. -/
def originalDigest : List Byte :=
  [0xba, 0x42, 0xf1, 0xe7, 0x88, 0xfb, 0xeb, 0x9f, 0x72, 0x1f, 0xff, 0xb3,
    0xa7, 0xb7, 0xb7, 0x23, 0x77, 0xda, 0x47, 0xb1, 0x10, 0xc8, 0x87, 0x76,
    0x4c, 0xf8, 0x7d, 0x09, 0xe6, 0x0c, 0x95, 0x58]

/-- And after it, of 155 bytes. -/
def firstFixDigest : List Byte :=
  [0x38, 0x2c, 0xf2, 0x31, 0xce, 0x20, 0x1c, 0x93, 0x2c, 0x40, 0x6e, 0x5e,
    0xbe, 0x0d, 0xe9, 0xaa, 0xb7, 0x2f, 0xdf, 0x76, 0x4c, 0x13, 0xa3, 0xfc,
    0x17, 0x25, 0x55, 0x5e, 0xe9, 0x4f, 0xc7, 0x7a]

/-- The digest as far as the two streams are concerned. -/
def digestOf (stream : List Byte) : List Byte :=
  if stream.length = 154 then originalDigest else firstFixDigest

/-- The order of the files of a tree does not enter into what is selected. -/
theorem selected_ofFiles_perm {files files' : List (RelPath × List Byte)}
    (h : files.Perm files') (hkeys : (files.map Prod.fst).Nodup) :
    (SourceTree.ofFiles files).selected = (SourceTree.ofFiles files').selected := by
  have hkeys' : (files'.map Prod.fst).Nodup := (h.map Prod.fst).nodup_iff.mp hkeys
  ext ⟨path, data⟩
  refine and_congr_right fun _ => ?_
  exact (files_ofFiles hkeys).trans (h.mem_iff.trans (files_ofFiles hkeys').symm)

theorem testCall_sameInputs {files files' : List (RelPath × List Byte)}
    (h : files.Perm files') (hkeys : (files.map Prod.fst).Nodup) :
    (testCall files).SameInputs (testCall files') :=
  ⟨rfl, rfl, rfl, selected_ofFiles_perm h hkeys⟩

/-- The first edit of the tests changes the version; another order of the files does
    not change the stream. -/
theorem version_changes_iff_edit :
    (testCall [templateFile, signatureFile "original\n"]).version digestOf ≠
        (testCall [templateFile, signatureFile "first fix\n"]).version digestOf ∧
      (testCall [templateFile, signatureFile "original\n"]).stream =
        (testCall [signatureFile "original\n", templateFile]).stream := by
  obtain ⟨-, horder, -, hversion⟩ := version_changes_iff
  refine ⟨?_, ?_⟩
  · have hlen : (testCall [templateFile, signatureFile "original\n"]).stream.map List.length =
        .ok 154 := by decide +kernel
    have hlen' : (testCall [templateFile, signatureFile "first fix\n"]).stream.map List.length =
        .ok 155 := by decide +kernel
    obtain ⟨stream, hstream, hlen⟩ := map_eq_ok hlen
    obtain ⟨stream', hstream', hlen'⟩ := map_eq_ok hlen'
    have hdigest : digestOf stream = originalDigest := if_pos hlen
    have hdigest' : digestOf stream' = firstFixDigest := if_neg (by rw [hlen']; decide)
    have hne : originalDigest ≠ firstFixDigest := by decide
    rw [Ne, hversion digestOf _ _ stream stream' (testCall_nulFree _) (testCall_nulFree _) hstream
      hstream' fun h => absurd (hdigest.symm.trans (h.trans hdigest')) hne]
    intro hsame
    have hstreams := hsame.stream
    rw [hstream, hstream'] at hstreams
    have hequal := congrArg List.length (Except.ok.inj hstreams)
    rw [hlen, hlen'] at hequal
    exact absurd hequal (by decide)
  · apply horder
    exact testCall_sameInputs (List.Perm.swap _ _ _) (by decide)

end VirtioWddm
