import Graftx.Xtask.Opcodes
import Mathlib.Data.List.Lex
import Mathlib.Data.Char

/-! Directories of documents as the walks over them meet them, and the index check on one of
them. A path is the list of its components, and comparing paths compares these. -/
namespace Graftx.Xtask
open Lib.Lines Lib.Numerals Lib.StableSort

abbrev Path := List Text

def display (path : Path) : Text := List.intercalate ['/'] path

/-- What `read_dir` yields, entry by entry. A subdirectory stands with its own entries or with
the error of listing it; `other` is a link or anything else that is no file and no directory. -/
inductive Entries where
  | done
  | lost (error : Text) (rest : Entries)
  | untyped (name error : Text) (rest : Entries)
  | file (name : Text) (contents : Except Text Text) (rest : Entries)
  | dir (name : Text) (entries rest : Entries)
  | unlistable (name error : Text) (rest : Entries)
  | other (name : Text) (rest : Entries)

def extension (name : Text) : Option Text :=
  let after := (name.reverse.takeWhile (· ≠ '.')).reverse
  let before := (name.reverse.dropWhile (· ≠ '.')).tail
  if name = ['.', '.'] ∨ before = [] then none else some after

def isMarkdown (name : Text) : Bool := extension name = some "md".toList

structure MarkdownFile where
  path : Path
  contents : Except Text Text

def readDirError (dir : Path) (error : Text) : Text :=
  "read_dir ".toList ++ display dir ++ ": ".toList ++ error

def entryError (dir : Path) (error : Text) : Text :=
  "dir entry under ".toList ++ display dir ++ ": ".toList ++ error

def fileTypeError (path : Path) (error : Text) : Text :=
  "file_type ".toList ++ display path ++ ": ".toList ++ error

/-- Depth first, and the first error ends it. -/
def collectInto (dir : Path) : Entries → Except Text (List MarkdownFile)
  | .done => .ok []
  | .lost error _ => .error (entryError dir error)
  | .untyped name error _ => .error (fileTypeError (dir ++ [name]) error)
  | .file name contents rest => do
    let more ← collectInto dir rest
    return if isMarkdown name then ⟨dir ++ [name], contents⟩ :: more else more
  | .dir name entries rest => do
    let inner ← collectInto (dir ++ [name]) entries
    let more ← collectInto dir rest
    return inner ++ more
  | .unlistable name error _ => .error (readDirError (dir ++ [name]) error)
  | .other _ rest => collectInto dir rest

/-- The directory is missing, cannot be listed, or has these entries. -/
abbrev Listing := Option (Except Text Entries)

def collectMarkdownFiles (dir : Path) : Listing → Except Text (List MarkdownFile)
  | none => .ok []
  | some (.error error) => .error (readDirError dir error)
  | some (.ok entries) => (collectInto dir entries).map (sortByKey MarkdownFile.path)

namespace Entries

def Listable : Entries → Prop
  | .done => True
  | .lost _ _ | .untyped _ _ _ | .unlistable _ _ _ => False
  | .file _ _ rest | .other _ rest => rest.Listable
  | .dir _ entries rest => entries.Listable ∧ rest.Listable

def markdown (dir : Path) : Entries → List MarkdownFile
  | .done => []
  | .file name contents rest =>
    (if isMarkdown name then [⟨dir ++ [name], contents⟩] else []) ++ rest.markdown dir
  | .dir name entries rest => entries.markdown (dir ++ [name]) ++ rest.markdown dir
  | .lost _ rest | .untyped _ _ rest | .unlistable _ _ rest | .other _ rest => rest.markdown dir

end Entries

theorem collectInto_spec (dir : Path) (entries : Entries) :
    (entries.Listable ∧ collectInto dir entries = .ok (entries.markdown dir)) ∨
      (¬ entries.Listable ∧ ∃ error, collectInto dir entries = .error error) := by
  induction entries generalizing dir with
  | done => exact .inl ⟨trivial, rfl⟩
  | lost error rest | untyped name error rest | unlistable name error rest =>
    exact .inr ⟨id, _, rfl⟩
  | file name contents rest ih =>
    rcases ih dir with ⟨hl, h⟩ | ⟨hl, error, h⟩
    · refine .inl ⟨hl, ?_⟩
      rw [collectInto, h, Entries.markdown]
      by_cases hm : isMarkdown name = true
      · simp only [hm, if_true]
        rfl
      · simp only [hm]
        rfl
    · exact .inr ⟨hl, error, by rw [collectInto, h]; rfl⟩
  | dir name entries rest ihe ih =>
    rcases ihe (dir ++ [name]) with ⟨hle, he⟩ | ⟨hle, error, he⟩
    · rcases ih dir with ⟨hl, h⟩ | ⟨hl, error, h⟩
      · exact .inl ⟨⟨hle, hl⟩, by rw [collectInto, he, h]; rfl⟩
      · exact .inr ⟨fun hboth => hl hboth.2, error, by rw [collectInto, he, h]; rfl⟩
    · exact .inr ⟨fun hboth => hle hboth.1, error, by rw [collectInto, he]; rfl⟩
  | other name rest ih => exact ih dir

def Walkable : Listing → Prop
  | none => True
  | some (.error _) => False
  | some (.ok entries) => entries.Listable

def markdownOf (dir : Path) : Listing → List MarkdownFile
  | none | some (.error _) => []
  | some (.ok entries) => entries.markdown dir

theorem collectMarkdownFiles_spec (dir : Path) (listing : Listing) :
    (Walkable listing ∧ ∃ files, collectMarkdownFiles dir listing = .ok files ∧
        files.Perm (markdownOf dir listing) ∧ files.Pairwise fun a b => a.path ≤ b.path) ∨
      (¬ Walkable listing ∧ ∃ error, collectMarkdownFiles dir listing = .error error) := by
  cases listing with
  | none => exact .inl ⟨trivial, [], rfl, .refl _, .nil⟩
  | some r =>
    cases r with
    | error error => exact .inr ⟨id, _, rfl⟩
    | ok entries =>
      rcases collectInto_spec dir entries with ⟨hl, h⟩ | ⟨hl, error, h⟩
      · exact .inl ⟨hl, _, by rw [collectMarkdownFiles, h]; rfl, sortByKey_perm _ _,
          sortByKey_sorted _ _⟩
      · exact .inr ⟨hl, error, by rw [collectMarkdownFiles, h]; rfl⟩

end Graftx.Xtask
