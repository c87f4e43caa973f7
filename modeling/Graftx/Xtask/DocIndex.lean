import Graftx.Xtask.DocTree

/-! The check that the index of a directory names each document beside it. A name counts as
soon as it stands anywhere in the text. -/
namespace Graftx.Xtask
open Lib.Lines Lib.Numerals Lib.StableSort

def readmeName : Text := "README.md".toList

def contains (pattern : Text) : Text → Bool
  | [] => pattern.isEmpty
  | c :: cs => pattern.isPrefixOf (c :: cs) || contains pattern cs

theorem contains_iff (pattern text : Text) : contains pattern text = true ↔ pattern <:+: text := by
  induction text with
  | nil => rw [contains, List.isEmpty_iff, List.infix_nil]
  | cons c cs ih =>
    rw [contains, Bool.or_eq_true, List.isPrefixOf_iff_prefix, ih, List.infix_cons_iff]

/-- Names that do not occur in the text; the index need not name itself. -/
def missingIndexLinks (readme : Text) (names : List Text) : List Text :=
  (names.filter fun name => name ≠ readmeName).filter fun name => !contains name readme

/-- The top level only: a subdirectory is passed over, whether it can be listed or not. -/
def listNames (dir : Path) : Entries → Except Text (List Text)
  | .done => .ok []
  | .lost error _ => .error (entryError dir error)
  | .untyped name error _ => .error (fileTypeError (dir ++ [name]) error)
  | .file name _ rest => do
    let more ← listNames dir rest
    return if isMarkdown name then name :: more else more
  | .dir _ _ rest | .unlistable _ _ rest | .other _ rest => listNames dir rest

def listMarkdownFilenames (dir : Path) : Except Text Entries → Except Text (List Text)
  | .error error => .error (readDirError dir error)
  | .ok entries => (listNames dir entries).map (sortByKey id)

def indexScanLine (dir : Path) (error : Text) : Text :=
  "doc-index: failed to scan ".toList ++ display dir ++ ": ".toList ++ error

def indexReadLine (path : Path) (error : Text) : Text :=
  "doc-index: cannot read ".toList ++ display path ++ ": ".toList ++ error

def indexedLine (path : Path) : Text :=
  "doc-index: all design docs indexed in ".toList ++ display path

def notLinkedLine (n : Nat) (path : Path) : Text :=
  "doc-index: ".toList ++ decimal n ++ " design doc(s) not linked from ".toList ++ display path ++
    [':']

/-- The number of names missing and the lines written; a failure to read counts as one. -/
def checkDocIndex (designDir : Path) (listing : Except Text Entries) (readme : Except Text Text) :
    Nat × List Text :=
  match listMarkdownFilenames designDir listing with
  | .error error => (1, [indexScanLine designDir error])
  | .ok names =>
    match readme with
    | .error error => (1, [indexReadLine (designDir ++ [readmeName]) error])
    | .ok readme =>
      let missing := missingIndexLinks readme names
      (missing.length, if missing = [] then [indexedLine (designDir ++ [readmeName])] else
        notLinkedLine missing.length (designDir ++ [readmeName]) ::
          missing.map fun name => "  ".toList ++ name)

namespace Entries

def TopListable : Entries → Prop
  | .done => True
  | .lost _ _ | .untyped _ _ _ => False
  | .file _ _ rest | .dir _ _ rest | .unlistable _ _ rest | .other _ rest => rest.TopListable

def names : Entries → List Text
  | .done => []
  | .file name _ rest => (if isMarkdown name then [name] else []) ++ rest.names
  | .lost _ rest | .untyped _ _ rest | .dir _ _ rest | .unlistable _ _ rest | .other _ rest =>
    rest.names

end Entries

theorem listNames_spec (dir : Path) (entries : Entries) :
    (entries.TopListable ∧ listNames dir entries = .ok entries.names) ∨
      (¬ entries.TopListable ∧ ∃ error, listNames dir entries = .error error) := by
  induction entries with
  | done => exact .inl ⟨trivial, rfl⟩
  | lost error rest | untyped name error rest => exact .inr ⟨id, _, rfl⟩
  | file name contents rest ih =>
    rcases ih with ⟨hl, h⟩ | ⟨hl, error, h⟩
    · refine .inl ⟨hl, ?_⟩
      rw [listNames, h, Entries.names]
      by_cases hm : isMarkdown name = true
      · simp only [hm, if_true]
        rfl
      · simp only [hm]
        rfl
    · exact .inr ⟨hl, error, by rw [listNames, h]; rfl⟩
  | dir _ _ rest _ ih => exact ih
  | unlistable _ _ rest ih => exact ih
  | other _ rest ih => exact ih

/-- The directory and its index can be read, and the index names every document. -/
def IndexComplete (listing : Except Text Entries) (readme : Except Text Text) : Prop :=
  ∃ entries text, listing = .ok entries ∧ entries.TopListable ∧ readme = .ok text ∧
    ∀ name ∈ entries.names, name ≠ readmeName → name <:+: text

theorem missingIndexLinks_eq_nil_iff (readme : Text) (names : List Text) :
    missingIndexLinks readme names = [] ↔
      ∀ name ∈ names, name ≠ readmeName → name <:+: readme := by
  simp only [missingIndexLinks, List.filter_eq_nil_iff, List.mem_filter, decide_eq_true_eq,
    Bool.not_eq_true', Bool.not_eq_false, contains_iff, and_imp]

theorem checkDocIndex_eq_zero_iff (designDir : Path) (listing : Except Text Entries)
    (readme : Except Text Text) :
    (checkDocIndex designDir listing readme).1 = 0 ↔ IndexComplete listing readme := by
  cases listing with
  | error error =>
    refine ⟨fun h => absurd h Nat.one_ne_zero, fun ⟨entries, text, h, _⟩ => ?_⟩
    cases h
  | ok entries =>
    rcases listNames_spec designDir entries with ⟨hl, h⟩ | ⟨hl, error, h⟩
    · have hnames : listMarkdownFilenames designDir (.ok entries) =
          .ok (sortByKey id entries.names) := by rw [listMarkdownFilenames, h]; rfl
      rw [checkDocIndex, hnames]
      cases readme with
      | error error =>
        refine ⟨fun h => absurd h Nat.one_ne_zero, fun ⟨_, text, _, _, h, _⟩ => ?_⟩
        cases h
      | ok text =>
        simp only [List.length_eq_zero_iff, missingIndexLinks_eq_nil_iff,
          (sortByKey_perm _ _).mem_iff]
        constructor
        · exact fun hall => ⟨entries, text, rfl, hl, rfl, hall⟩
        · rintro ⟨entries', text', he, -, ht, hall⟩
          cases he
          cases ht
          exact hall
    · have hnames : listMarkdownFilenames designDir (.ok entries) = .error error := by
        rw [listMarkdownFilenames, h]; rfl
      rw [checkDocIndex, hnames]
      refine ⟨fun h => absurd h Nat.one_ne_zero, fun ⟨_, _, he, hl', _⟩ => ?_⟩
      cases he
      exact absurd hl' hl

end Graftx.Xtask
