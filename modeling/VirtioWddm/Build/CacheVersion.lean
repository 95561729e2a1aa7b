/-
  VirtioWddm.Build.CacheVersion

  `gen_dxvk_version.py`: the version of the shader cache, a digest of what the compiler
  is built from.

  The tree below `root` is what the operating system answers about it: the contents of
  the regular files, and for a directory the paths that its enumeration yields, in some
  order.  Paths are lists of their parts, relative to `root`; `pathlib` compares paths by
  their parts, so that the common parts of `root` do not matter.
-/

import Mathlib.Data.List.Lex
import Mathlib.Data.List.Sort
import Mathlib.Order.Fin.Basic
import VirtioWddm.Lib.PrefixCode
import VirtioWddm.Lib.PyStr

namespace VirtioWddm

open Lib

-- ============================================================================
-- Paths
-- ============================================================================

def nul : CodePoint := 0
def slash : CodePoint := codePoint '/'
def dot : CodePoint := codePoint '.'

/-- What stands between two `/` of a path. -/
def IsPart (s : PyStr) : Prop :=
  s ≠ [] ∧ slash ∉ s ∧ nul ∉ s

instance : DecidablePred IsPart :=
  fun s => inferInstanceAs (Decidable (s ≠ [] ∧ slash ∉ s ∧ nul ∉ s))

abbrev PathPart := {s : PyStr // IsPart s}

/-- A path relative to `root`. -/
abbrev RelPath := List PathPart

/-- The path that a literal names. -/
def pathOf (s : String) : RelPath :=
  ((pyStr s).splitOn slash).filterMap fun part => if h : IsPart part then some ⟨part, h⟩ else none

/-- `path.as_posix()`. -/
def asPosix (path : RelPath) : PyStr :=
  [slash].intercalate (path.map Subtype.val)

/-- `s.rfind(c)`. -/
def rfind (c : CodePoint) (s : PyStr) : Option Nat :=
  (s.reverse.idxOf? c).map fun k => s.length - 1 - k

/-- `path.suffix`: the name from its last dot on, unless that is its first or last
    character. -/
def suffix (path : RelPath) : PyStr :=
  match path.getLast? with
  | none => []
  | some name =>
      match rfind dot name.val with
      | none => []
      | some i => if 0 < i ∧ i < name.val.length - 1 then name.val.drop i else []

-- ============================================================================
-- The tree
-- ============================================================================

/-- The tree below `root`.  `rglob` may yield directories besides the files, and what it
    yields stands in any order. -/
structure SourceTree where
  files : RelPath → Option (List Byte)
  rglob : RelPath → List RelPath
  rglob_files : ∀ dir path, (files path).isSome → dir <+: path → dir ≠ path → path ∈ rglob dir
  rglob_below : ∀ dir path, path ∈ rglob dir → dir <+: path ∧ dir ≠ path

def SOURCE_DIRS : List RelPath :=
  ["src", "include",
    "subprojects/dxbc-spirv/dxbc", "subprojects/dxbc-spirv/ir",
    "subprojects/dxbc-spirv/sm3", "subprojects/dxbc-spirv/spirv",
    "subprojects/dxbc-spirv/util",
    "subprojects/dxbc-spirv/submodules/spirv_headers/include"].map pathOf

def SOURCE_SUFFIXES : List PyStr :=
  [".c", ".cpp", ".h", ".hpp", ".in", ".inc", ".def",
    ".comp", ".vert", ".frag", ".geom", ".tesc", ".tese", ".glsl"].map pyStr

/-- `version.h.in`. -/
def versionTemplate : RelPath := pathOf "version.h.in"

/-- The set `paths`, in the order of its insertions. -/
def SourceTree.paths (root : SourceTree) : List RelPath :=
  versionTemplate :: SOURCE_DIRS.flatMap fun directory =>
    (root.rglob directory).filter fun path =>
      (root.files path).isSome && decide (suffix path ∈ SOURCE_SUFFIXES)

/-- `sorted(paths)`. -/
def SourceTree.sortedPaths (root : SourceTree) : List RelPath :=
  root.paths.dedup.insertionSort (· ≤ ·)

-- ============================================================================
-- The version
-- ============================================================================

/-- The exceptions the code can raise. -/
inductive PyError where
  | unicodeEncodeError
  | fileNotFoundError
  | overflowError
deriving DecidableEq

/-- The encoding of a value with its terminator. -/
def encodeTerminated (value : PyStr) : Except PyError (List Byte) :=
  match value.encode with
  | some bs => .ok (bs ++ [0])
  | none => .error .unicodeEncodeError

/-- `path.read_bytes()`. -/
def SourceTree.readBytes (root : SourceTree) (path : RelPath) : Except PyError (List Byte) :=
  match root.files path with
  | some data => .ok data
  | none => .error .fileNotFoundError

/-- `n.to_bytes(8, "little")`. -/
def toBytes8 (n : Nat) : Except PyError (List Byte) :=
  if n < 2 ^ 64 then .ok (leDigits 8 n) else .error .overflowError

/-- What one file adds to the digest. -/
def SourceTree.fileBytes (root : SourceTree) (path : RelPath) : Except PyError (List Byte) := do
  let data ← root.readBytes path
  let name ← encodeTerminated (asPosix path)
  let length ← toBytes8 data.length
  return name ++ (length ++ data)

/-- All that `version` feeds to the digest. -/
def versionStream (root : SourceTree) (target compiler flags : PyStr) :
    Except PyError (List Byte) := do
  let values ← [pyStr "droidvm-dxvk-cache-v1", target, compiler, flags].mapM encodeTerminated
  let records ← root.sortedPaths.mapM root.fileBytes
  return values.flatten ++ records.flatten

/-- `digest.hexdigest()`. -/
def hexdigest (digest : List Byte) : String :=
  String.ofList (digest.flatMap fun b =>
    [Nat.digitChar (b.toNat / 16), Nat.digitChar (b.toNat % 16)])

/-- `version`; `sha256` is the function of the library. -/
def version (sha256 : List Byte → List Byte) (root : SourceTree) (target compiler flags : PyStr) :
    Except PyError String := do
  let stream ← versionStream root target compiler flags
  return "umd-" ++ hexdigest (sha256 stream)

end VirtioWddm
