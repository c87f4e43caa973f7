import Graftx.Xtask.ChapterScan
import Graftx.Xtask.LinkScan

/-! Extraction from a whole text: the finds of each line, under the number of the line. -/
namespace Graftx.Xtask
open Lib.Lines

variable {β : Type} {R : Text → List β → Prop}

inductive Numbered (R : Text → List β → Prop) : Nat → List Text → List (Nat × β) → Prop
  | nil (n : Nat) : Numbered R n [] []
  | cons {n : Nat} {line : Text} {rest : List Text} {found : List β} {more : List (Nat × β)}
      (hr : R line found) (h : Numbered R (n + 1) rest more) :
      Numbered R n (line :: rest) (found.map (n, ·) ++ more)

theorem Numbered.unique (hR : ∀ line found found', R line found → R line found' → found = found')
    {n : Nat} {ls : List Text} {out out' : List (Nat × β)} (h : Numbered R n ls out)
    (h' : Numbered R n ls out') : out = out' := by
  induction h generalizing out' with
  | nil n =>
    cases h'
    rfl
  | cons hr _ ih =>
    cases h' with
    | cons hr' h' => rw [hR _ _ _ hr hr', ih h']

theorem extractFrom_spec {scan : Text → Option (List β)}
    (hscan : ∀ line, ∃ found, scan line = some found ∧ R line found) (n : Nat) (ls : List Text) :
    ∃ out, extractFrom scan n ls = some out ∧ Numbered R n ls out := by
  induction ls generalizing n with
  | nil => exact ⟨[], rfl, .nil n⟩
  | cons line rest ih =>
    obtain ⟨found, hf, hr⟩ := hscan line
    obtain ⟨more, hm, hn⟩ := ih (n + 1)
    exact ⟨found.map (n, ·) ++ more, by rw [extractFrom, hf, hm]; rfl, .cons hr hn⟩

theorem extractFrom_exact {scan : Text → Option (List β)}
    (hscan : ∀ line, ∃ found, scan line = some found ∧ R line found)
    (hR : ∀ line found found', R line found → R line found' → found = found') (ls : List Text) :
    ∃ out, extractFrom scan 1 ls = some out ∧ ∀ out', Numbered R 1 ls out' ↔ out' = out := by
  obtain ⟨out, hout, hn⟩ := extractFrom_spec hscan 1 ls
  refine ⟨out, hout, fun out' => ⟨fun h' => h'.unique hR hn, ?_⟩⟩
  rintro rfl
  exact hn

/-- Both extractions return, and each returns its finds and nothing else. -/
theorem extraction_exact (md : Text) :
    (∃ links, extractLinks md = some links ∧
      ∀ out, Numbered Links 1 (lines md) out ↔ out = links) ∧
    ∃ refs, extractChapterRefs md = some refs ∧
      ∀ out, Numbered Refs 1 (lines md) out ↔ out = refs :=
  ⟨extractFrom_exact (fun line => linksFrom_spec [] line) (fun _ _ _ => Links.unique) (lines md),
    extractFrom_exact (fun line => chaptersFrom_spec [] line) (fun _ _ _ => Refs.unique) (lines md)⟩

end Graftx.Xtask
