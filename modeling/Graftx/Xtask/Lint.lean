import Graftx.Lib.Saturation
import Graftx.Xtask.DocTree
import Graftx.Xtask.Extraction
import Mathlib.Data.List.Forall2

/-! The linter over the documents. It passes exactly on documents without a broken link or a
chapter out of range, and otherwise counts and reports each of them. -/
namespace Graftx.Xtask
open Lib.Lines Lib.Numerals Lib.Saturation Lib.StableSort

def minChapter : UInt32 := 1

def maxChapter : UInt32 := 32

inductive Issue where
  | brokenLink (line : Nat) (target : Text)
  | outOfRangeChapter (line : Nat) (chapter : UInt32)
  deriving DecidableEq

namespace Issue

def line : Issue → Nat
  | .brokenLink line _ => line
  | .outOfRangeChapter line _ => line

def decimal02 (n : Nat) : Text := if n < 10 then '0' :: decimal n else decimal n

def describe : Issue → Text
  | .brokenLink line target =>
    "line ".toList ++ decimal line ++ ": BROKEN LINK -> ".toList ++ target
  | .outOfRangeChapter line chapter =>
    "line ".toList ++ decimal line ++ ": OUT-OF-RANGE chapter ref (Ch. ".toList ++
      decimal02 chapter.toNat ++ ") (valid ".toList ++ decimal minChapter.toNat ++ "..=".toList ++
      decimal maxChapter.toNat ++ ")".toList

end Issue

def chapterInRange (chapter : UInt32) : Bool := minChapter ≤ chapter && chapter ≤ maxChapter

def isExternalOrAnchor (target : Text) : Bool :=
  target.isEmpty || "http://".toList.isPrefixOf target || "https://".toList.isPrefixOf target ||
    "mailto:".toList.isPrefixOf target || ['#'].isPrefixOf target

/-- `Path::join`: an absolute path replaces the base, and an empty base adds nothing. -/
def joinPath (base path : Text) : Text :=
  if path.head? = some '/' ∨ base = [] then path else base ++ '/' :: path

/-- The anchor is no part of the path; `present` says which paths exist. -/
def linkTargetExists (present : Text → Bool) (fromFile : Path) (target : Text) : Bool :=
  let path := target.takeWhile (· ≠ '#')
  if path = [] then true else present (joinPath (display fromFile.dropLast) path)

def brokenLink (present : Text → Bool) (path : Path) (link : Nat × Text) : Option Issue :=
  if isExternalOrAnchor link.2 then none
  else if linkTargetExists present path link.2 then none
  else some (.brokenLink link.1 link.2)

def strayChapter (ref : Nat × UInt32) : Option Issue :=
  if chapterInRange ref.2 then none else some (.outOfRangeChapter ref.1 ref.2)

/-- The extractions slice the text, and would stop at a slice inside a character. -/
def lintMarkdown (present : Text → Bool) (path : Path) (contents : Text) : Option (List Issue) := do
  let links ← extractLinks contents
  let refs ← extractChapterRefs contents
  return sortByKey Issue.line
    (links.filterMap (brokenLink present path) ++ refs.filterMap strayChapter)

structure Totals where
  total : Nat := 0
  filesWithIssues : Nat := 0
  report : List Text := []

def lintFile (present : Text → Bool) (x : Totals) (file : MarkdownFile) : Option Totals :=
  match file.contents with
  | .error error => some
    { total := x.total + 1
      filesWithIssues := x.filesWithIssues + 1
      report := x.report ++ [display file.path ++ [':'], "  read error: ".toList ++ error] }
  | .ok contents => do
    let issues ← lintMarkdown present file.path contents
    return if issues = [] then x else
      { total := x.total + issues.length
        filesWithIssues := x.filesWithIssues + 1
        report := x.report ++ (display file.path ++ [':']) ::
          issues.map fun issue => "  ".toList ++ issue.describe }

def cleanLine (scanned : Nat) : Text :=
  "check-xrefs: scanned ".toList ++ decimal scanned ++ " file(s), no issues found".toList

def issuesLine (total files scanned : Nat) : Text :=
  "check-xrefs: ".toList ++ decimal total ++ " issue(s) across ".toList ++ decimal files ++
    " file(s) (".toList ++ decimal scanned ++ " scanned)".toList

def scanLine (dir : Path) (error : Text) : Text :=
  "check-xrefs: failed to scan ".toList ++ display dir ++ ": ".toList ++ error

/-- The number of issues and the lines written; what fails to be written is left out. -/
def checkXrefs (present : Text → Bool) (docsDir : Path) (listing : Listing) :
    Option (Nat × List Text) :=
  match collectMarkdownFiles docsDir listing with
  | .error error => some (1, [scanLine docsDir error])
  | .ok files => do
    let x ← files.foldlM (lintFile present) {}
    return (x.total, x.report ++ [if x.total = 0 then cleanLine files.length
      else issuesLine x.total x.filesWithIssues files.length])

/-- What there is to say about a file: why it cannot be read, or its issues, line by line. -/
inductive Found (present : Text → Bool) (file : MarkdownFile) : Except Text (List Issue) → Prop
  | unreadable {error : Text} (h : file.contents = .error error) : Found present file (.error error)
  | read {contents : Text} {links : List (Nat × Text)} {refs : List (Nat × UInt32)}
      {issues : List Issue} (h : file.contents = .ok contents)
      (hlinks : Numbered Links 1 (lines contents) links)
      (hrefs : Numbered Refs 1 (lines contents) refs)
      (hissues : issues.Perm
        (links.filterMap (brokenLink present file.path) ++ refs.filterMap strayChapter))
      (hlines : issues.Pairwise fun a b => a.line ≤ b.line) : Found present file (.ok issues)

def problems : Except Text (List Issue) → Nat
  | .error _ => 1
  | .ok issues => issues.length

def sectionLines (file : MarkdownFile) : Except Text (List Issue) → List Text
  | .error error => [display file.path ++ [':'], "  read error: ".toList ++ error]
  | .ok issues => if issues = [] then [] else
      (display file.path ++ [':']) :: issues.map fun issue => "  ".toList ++ issue.describe

theorem lintMarkdown_spec (present : Text → Bool) (file : MarkdownFile) {contents : Text}
    (h : file.contents = .ok contents) : ∃ issues,
      lintMarkdown present file.path contents = some issues ∧ Found present file (.ok issues) := by
  obtain ⟨links, hlinks, hl⟩ := extractFrom_spec (fun line => linksFrom_spec [] line) 1
    (lines contents)
  obtain ⟨refs, hrefs, hr⟩ := extractFrom_spec (fun line => chaptersFrom_spec [] line) 1
    (lines contents)
  have hlinks : extractLinks contents = some links := hlinks
  have hrefs : extractChapterRefs contents = some refs := hrefs
  refine ⟨_, by rw [lintMarkdown, hlinks, hrefs]; rfl, .read h hl hr (sortByKey_perm _ _)
    (sortByKey_sorted _ _)⟩

def Totals.add (x : Totals) (file : MarkdownFile) (found : Except Text (List Issue)) : Totals where
  total := x.total + problems found
  filesWithIssues := x.filesWithIssues + if problems found = 0 then 0 else 1
  report := x.report ++ sectionLines file found

theorem lintFile_spec (present : Text → Bool) (x : Totals) (file : MarkdownFile) :
    ∃ found, Found present file found ∧ lintFile present x file = some (x.add file found) := by
  cases h : file.contents with
  | error error => exact ⟨_, .unreadable h, by rw [lintFile, h]; rfl⟩
  | ok contents =>
    obtain ⟨issues, hissues, hfound⟩ := lintMarkdown_spec present file h
    refine ⟨_, hfound, ?_⟩
    rw [lintFile, h]
    simp only [hissues, Option.bind_eq_bind, Option.bind_some, Totals.add, problems, sectionLines]
    cases issues with
    | nil => simp
    | cons issue issues => simp

theorem foldlM_lintFile (present : Text → Bool) (files : List MarkdownFile) (x : Totals) :
    ∃ found, List.Forall₂ (Found present) files found ∧ files.foldlM (lintFile present) x = some
      { total := x.total + weight problems found
        filesWithIssues := x.filesWithIssues + found.countP fun r => problems r ≠ 0
        report := x.report ++ (List.zipWith sectionLines files found).flatten } := by
  induction files generalizing x with
  | nil => exact ⟨[], .nil, by simp⟩
  | cons file files ih =>
    obtain ⟨r, hr, hstep⟩ := lintFile_spec present x file
    obtain ⟨found, hfound, hrest⟩ := ih (x.add file r)
    refine ⟨r :: found, .cons hr hfound, ?_⟩
    rw [List.foldlM_cons, hstep, Option.bind_eq_bind, Option.bind_some, hrest]
    have hcount : (x.add file r).filesWithIssues + (found.countP fun r => problems r ≠ 0) =
        x.filesWithIssues + (r :: found).countP fun r => problems r ≠ 0 := by
      rw [List.countP_cons, Totals.add]
      by_cases hp : problems r = 0
      · simp [hp]
      · simp [hp]
        omega
    rw [hcount]
    simp only [Totals.add, weight_cons, List.zipWith_cons_cons,
      List.flatten_cons, List.append_assoc, Nat.add_assoc]

/-- Nothing is wrong with a file: it can be read, each link in it leads somewhere or is not
looked after, and each chapter it refers to is there. -/
structure FileClean (present : Text → Bool) (file : MarkdownFile) (contents : Text) : Prop where
  readable : file.contents = .ok contents
  links : ∀ links, Numbered Links 1 (lines contents) links → ∀ link ∈ links,
    isExternalOrAnchor link.2 = true ∨ linkTargetExists present file.path link.2 = true
  chapters : ∀ refs, Numbered Refs 1 (lines contents) refs → ∀ ref ∈ refs,
    1 ≤ ref.2.toNat ∧ ref.2.toNat ≤ 32

theorem brokenLink_eq_none_iff (present : Text → Bool) (path : Path) (link : Nat × Text) :
    brokenLink present path link = none ↔
      isExternalOrAnchor link.2 = true ∨ linkTargetExists present path link.2 = true := by
  rw [brokenLink]
  split
  · simp [*]
  · split <;> simp [*]

theorem strayChapter_eq_none_iff (ref : Nat × UInt32) :
    strayChapter ref = none ↔ 1 ≤ ref.2.toNat ∧ ref.2.toNat ≤ 32 := by
  rw [strayChapter, chapterInRange, minChapter, maxChapter]
  simp only [Bool.and_eq_true, decide_eq_true_eq, UInt32.le_iff_toNat_le]
  split <;> simp_all

theorem Found.clean_iff {present : Text → Bool} {file : MarkdownFile}
    {found : Except Text (List Issue)} (h : Found present file found) :
    problems found = 0 ↔ ∃ contents, FileClean present file contents := by
  cases h with
  | unreadable h =>
    refine ⟨fun h1 => absurd h1 Nat.one_ne_zero, fun ⟨contents, hclean⟩ => ?_⟩
    rw [hclean.readable] at h
    cases h
  | @read contents links refs issues h hlinks hrefs hissues hlines =>
    have hnil : problems (.ok issues) = 0 ↔
        (∀ link ∈ links, brokenLink present file.path link = none) ∧
          ∀ ref ∈ refs, strayChapter ref = none := by
      rw [problems, hissues.length_eq, List.length_eq_zero_iff, List.append_eq_nil_iff,
        List.filterMap_eq_nil_iff, List.filterMap_eq_nil_iff]
    simp only [brokenLink_eq_none_iff, strayChapter_eq_none_iff] at hnil
    rw [hnil]
    constructor
    · rintro ⟨hl, hr⟩
      refine ⟨contents, h, fun links' h' => ?_, fun refs' h' => ?_⟩
      · have hone : ∀ line l l', Links line l → Links line l' → l = l' := fun _ _ _ => Links.unique
        rwa [h'.unique hone hlinks]
      · have hone : ∀ line l l', Refs line l → Refs line l' → l = l' := fun _ _ _ => Refs.unique
        rwa [h'.unique hone hrefs]
    · rintro ⟨contents', hclean⟩
      have hsame : contents = contents' := Except.ok.inj (h.symm.trans hclean.readable)
      subst hsame
      exact ⟨hclean.links links hlinks, hclean.chapters refs hrefs⟩

def issueCount (found : List (Except Text (List Issue))) : Nat := weight problems found

def summaryLine (found : List (Except Text (List Issue))) : Text :=
  if issueCount found = 0 then cleanLine found.length
  else issuesLine (issueCount found) (found.countP fun r => problems r ≠ 0) found.length

/-- What the linter makes of the documents: it could not go over all of them, or it tells of
each file, in the order of the paths, what is found there, and sums it up. -/
inductive Linted (present : Text → Bool) (docsDir : Path) (listing : Listing) :
    Nat → List Text → Prop
  | failed {error : Text} (h : ¬ Walkable listing) :
      Linted present docsDir listing 1 [scanLine docsDir error]
  | scanned {files : List MarkdownFile} {found : List (Except Text (List Issue))}
      (h : Walkable listing) (hfiles : files.Perm (markdownOf docsDir listing))
      (hsorted : files.Pairwise fun a b => a.path ≤ b.path)
      (hfound : List.Forall₂ (Found present) files found) :
      Linted present docsDir listing (issueCount found)
        ((List.zipWith sectionLines files found).flatten ++ [summaryLine found])

def DocsClean (present : Text → Bool) (docsDir : Path) (listing : Listing) : Prop :=
  Walkable listing ∧
    ∀ file ∈ markdownOf docsDir listing, ∃ contents, FileClean present file contents

theorem issueCount_eq_zero_iff {present : Text → Bool} {files : List MarkdownFile}
    {found : List (Except Text (List Issue))} (h : List.Forall₂ (Found present) files found) :
    issueCount found = 0 ↔ ∀ file ∈ files, ∃ contents, FileClean present file contents := by
  induction h with
  | nil => simp [issueCount]
  | cons hr _ ih =>
    rw [issueCount, weight_cons, Nat.add_eq_zero_iff, hr.clean_iff,
      List.forall_mem_cons, ← issueCount, ih]

theorem Linted.clean_iff {present : Text → Bool} {docsDir : Path} {listing : Listing} {total : Nat}
    {out : List Text} (h : Linted present docsDir listing total out) :
    total = 0 ↔ DocsClean present docsDir listing := by
  cases h with
  | failed h => exact ⟨fun h1 => absurd h1 Nat.one_ne_zero, fun hclean => absurd hclean.1 h⟩
  | scanned h hfiles _ hfound =>
    rw [issueCount_eq_zero_iff hfound]
    simp only [hfiles.mem_iff]
    exact ⟨fun hall => ⟨h, hall⟩, fun hclean => hclean.2⟩

theorem checkXrefs_spec (present : Text → Bool) (docsDir : Path) (listing : Listing) :
    ∃ total out, checkXrefs present docsDir listing = some (total, out) ∧
      Linted present docsDir listing total out := by
  rcases collectMarkdownFiles_spec docsDir listing with ⟨hw, files, hc, hfiles, hsorted⟩ |
    ⟨hw, error, hc⟩
  · obtain ⟨found, hfound, hfold⟩ := foldlM_lintFile present files {}
    refine ⟨_, _, ?_, .scanned hw hfiles hsorted hfound⟩
    rw [checkXrefs, hc]
    simp only [hfold, Option.bind_eq_bind, Option.bind_some, Nat.zero_add, List.nil_append,
      summaryLine, issueCount, hfound.length_eq]
    rfl
  · exact ⟨_, _, by rw [checkXrefs, hc], .failed hw⟩

/-- The check over the documents always ends with a report that is as it should be, and its
count is zero exactly when nothing is wrong. -/
theorem xrefs_exact (present : Text → Bool) (docsDir : Path) (listing : Listing) :
    ∃ total out, checkXrefs present docsDir listing = some (total, out) ∧
      Linted present docsDir listing total out ∧
      (total = 0 ↔ DocsClean present docsDir listing) := by
  obtain ⟨total, out, hrun, hlinted⟩ := checkXrefs_spec present docsDir listing
  exact ⟨total, out, hrun, hlinted, hlinted.clean_iff⟩

end Graftx.Xtask
