import Graftx.Xtask.Xrefs

/-! The links a scan finds are the leftmost ones that do not overlap. -/
namespace Graftx.Xtask
open Lib.Utf8Text

def linkText (before target after : Text) : Text :=
  before ++ ([']', '('] ++ (target ++ ')' :: after))

/-- The links of a text from left to right: each is the leftmost of what is left, its target
goes up to the first closing parenthesis, and the next one is looked for behind that. -/
inductive Links : Text → List Text → Prop
  | done {s : Text} (h : ∀ before target after, s ≠ linkText before target after) : Links s []
  | next {before target after : Text} {targets : List Text}
      (hfirst : ∀ before' target' after',
        linkText before target after = linkText before' target' after' →
          before.length ≤ before'.length)
      (htarget : ')' ∉ target) (h : Links after targets) :
      Links (linkText before target after) (target :: targets)

theorem Links.skip {c : Char} {s : Text} {targets : List Text} (h : Links s targets)
    (hc : ∀ target after, c :: s ≠ linkText [] target after) : Links (c :: s) targets := by
  cases h with
  | done h =>
    refine .done fun before target after heq => ?_
    cases before with
    | nil => exact hc target after heq
    | cons x before =>
      simp only [linkText, List.cons_append, List.cons.injEq] at heq
      exact h before target after heq.2
  | @next before target after targets hfirst htarget h =>
    change Links (linkText (c :: before) target after) (target :: targets)
    refine .next (fun before' target' after' heq => ?_) htarget h
    cases before' with
    | nil => exact absurd heq (hc target' after')
    | cons x before' =>
      simp only [linkText, List.cons_append, List.cons.injEq] at heq
      exact Nat.succ_le_succ (hfirst before' target' after' heq.2)

theorem Links.unique {s : Text} {targets targets' : List Text} (h : Links s targets)
    (h' : Links s targets') : targets = targets' := by
  induction h generalizing targets' with
  | done hnone =>
    cases h' with
    | done _ => rfl
    | next _ _ _ => exact absurd rfl (hnone _ _ _)
  | @next before target after targets hfirst htarget _ ih =>
    generalize hs : linkText before target after = s at h'
    cases h' with
    | done hnone => exact absurd hs.symm (hnone _ _ _)
    | @next before' target' after' targets' hfirst' htarget' h' =>
      have hlen : before.length = before'.length :=
        Nat.le_antisymm (hfirst _ _ _ hs) (hfirst' _ _ _ hs.symm)
      obtain ⟨-, hrest⟩ := List.append_inj hs hlen
      rw [List.append_right_inj] at hrest
      obtain ⟨ht, ha⟩ := Lib.Lines.append_cons_inj htarget htarget' hrest
      rw [ht, ih (ha ▸ h')]

theorem opening_iff (pre s : Text) :
    byteAt (pre ++ s) (size pre) = some (asciiByte ']') ∧
        byteAt (pre ++ s) (size pre + 1) = some (asciiByte '(') ↔
      ∃ rest, s = [']', '('] ++ rest := by
  rw [byteAt_size_iff (by decide)]
  have hsize : size pre + 1 = size (pre ++ [']']) := by
    rw [size_append]
    rfl
  constructor
  · rintro ⟨⟨s, rfl⟩, hbyte⟩
    have hcons : pre ++ ']' :: s = (pre ++ [']']) ++ s := by simp
    rw [hsize, hcons, byteAt_size_iff (by decide)] at hbyte
    obtain ⟨rest, rfl⟩ := hbyte
    exact ⟨rest, rfl⟩
  · rintro ⟨rest, rfl⟩
    have hcons : pre ++ ([']', '('] ++ rest) = (pre ++ [']']) ++ '(' :: rest := by simp
    rw [hsize, hcons, byteAt_size_iff (by decide)]
    exact ⟨⟨_, rfl⟩, _, rfl⟩

theorem linksFrom_end {line : Text} {i : Nat} (h : ¬ i + 1 < size line) :
    linksFrom line i = some [] := by
  rw [linksFrom, dif_neg h]

theorem linksFrom_succ {line : Text} {i : Nat}
    (h : ¬ (byteAt line i = some (asciiByte ']') ∧ byteAt line (i + 1) = some (asciiByte '('))) :
    linksFrom line i = linksFrom line (i + 1) := by
  by_cases hi : i + 1 < size line
  · rw [linksFrom, dif_pos hi, if_neg h]
  · rw [linksFrom_end hi, linksFrom_end (by omega)]

theorem linksFrom_char (pre s : Text) (c : Char) (h : ¬ ∃ rest, c :: s = [']', '('] ++ rest) :
    linksFrom (pre ++ c :: s) (size pre) = linksFrom (pre ++ c :: s) (size (pre ++ [c])) := by
  rw [size_append, size_cons, size_nil, Nat.add_zero]
  refine walk_char _ c (size pre) fun k hk => linksFrom_succ ?_
  rintro ⟨h1, h2⟩
  rcases Nat.eq_zero_or_pos k with rfl | h0
  · exact h ((opening_iff pre (c :: s)).mp ⟨h1, h2⟩)
  · rw [byteAt_append] at h1
    exact absurd (byteAt_inside h0 hk h1) (by decide)

theorem linksFrom_match (pre target after : Text) (h : ')' ∉ target) :
    linksFrom (pre ++ linkText [] target after) (size pre) =
      (linksFrom (pre ++ linkText [] target after)
        (size (pre ++ [']', '('] ++ target ++ [')']))).map (target :: ·) := by
  have hopen := (opening_iff pre (linkText [] target after)).mpr ⟨target ++ ')' :: after, rfl⟩
  have hstart : size pre + 2 = size (pre ++ [']', '(']) := by
    rw [size_append]
    rfl
  have hend : size pre + 2 + size target + 1 = size (pre ++ [']', '('] ++ target ++ [')']) := by
    have h1 : size [')'] = 1 := by decide
    have h2 : size [']', '('] = 2 := by decide
    simp only [size_append, h1, h2]
  have hcut : pre ++ linkText [] target after =
      (pre ++ [']', '(']) ++ (target ++ ')' :: after) := by
    simp [linkText]
  have hslice : sliceFrom (pre ++ linkText [] target after) (size pre + 2) =
      some (target ++ ')' :: after) := by
    rw [hstart, hcut, sliceFrom_append]
  have htarget : slice (pre ++ linkText [] target after) (size pre + 2)
      (size pre + 2 + size target) = some target := by
    rw [hstart, hcut, slice_append]
  have hlt : size pre + 1 < size (pre ++ linkText [] target after) := by
    have hlast := byteAt_lt hopen.2
    exact hlast
  rw [linksFrom, dif_pos hlt, if_pos hopen, hslice]
  simp only [findChar_append h, htarget, hend]
  cases linksFrom (pre ++ linkText [] target after)
    (size (pre ++ [']', '('] ++ target ++ [')'])) <;> rfl

theorem linksFrom_unclosed (pre rest : Text) (h : ')' ∉ rest) :
    linksFrom (pre ++ ([']', '('] ++ rest)) (size pre) =
      linksFrom (pre ++ ([']', '('] ++ rest)) (size (pre ++ [']'])) := by
  have hopen := (opening_iff pre ([']', '('] ++ rest)).mpr ⟨rest, rfl⟩
  have hstart : size pre + 2 = size (pre ++ [']', '(']) := by
    rw [size_append]
    rfl
  have hslice : sliceFrom (pre ++ ([']', '('] ++ rest)) (size pre + 2) = some rest := by
    rw [hstart, ← List.append_assoc, sliceFrom_append]
  have hnext : size pre + 1 = size (pre ++ [']']) := by
    rw [size_append]
    rfl
  have hlt : size pre + 1 < size (pre ++ ([']', '('] ++ rest)) := byteAt_lt hopen.2
  rw [linksFrom, dif_pos hlt, if_pos hopen, hslice, hnext]
  simp only [findChar_of_not_mem h]

/-- From the start of any character on, the scan finds the links of what is left. -/
theorem linksFrom_spec (pre s : Text) :
    ∃ targets, linksFrom (pre ++ s) (size pre) = some targets ∧ Links s targets := by
  -- the scan goes on behind a closed link, else one character further
  induction hn : s.length using Nat.strongRecOn generalizing pre s with
  | _ n ih =>
    cases s with
    | nil =>
      refine ⟨[], linksFrom_end (by simp), .done fun before target after h => ?_⟩
      simp [linkText] at h
    | cons c s =>
      by_cases hopen : ∃ rest, c :: s = [']', '('] ++ rest
      · obtain ⟨rest, hrest⟩ := hopen
        have hlen : rest.length + 2 = n := by rw [← hn, hrest]; simp
        by_cases hclose : ')' ∈ rest
        · obtain ⟨target, after, rfl, htarget⟩ := List.eq_append_cons_of_mem hclose
          obtain ⟨targets, ht, hl⟩ := ih after.length (by simp at hlen; omega)
            (pre ++ [']', '('] ++ target ++ [')']) after rfl
          have hcut : pre ++ [']', '('] ++ target ++ [')'] ++ after =
              pre ++ linkText [] target after := by
            simp [linkText]
          rw [hcut] at ht
          have hlink : c :: s = linkText [] target after := hrest
          rw [hlink]
          refine ⟨target :: targets, ?_, .next (fun _ _ _ _ => Nat.zero_le _) htarget hl⟩
          rw [linksFrom_match pre target after htarget, ht]
          rfl
        · have hs : c = ']' ∧ s = '(' :: rest := by simpa using hrest
          obtain ⟨rfl, rfl⟩ := hs
          obtain ⟨targets, ht, hl⟩ := ih ('(' :: rest).length (by simp [← hn])
            (pre ++ [']']) ('(' :: rest) rfl
          have hcons : pre ++ [']'] ++ '(' :: rest = pre ++ ([']', '('] ++ rest) := by simp
          rw [hcons] at ht
          refine ⟨targets, (linksFrom_unclosed pre rest hclose).trans ht, hl.skip ?_⟩
          intro target after h
          simp only [linkText, List.nil_append, List.cons_append, List.cons.injEq, true_and] at h
          exact hclose (h ▸ by simp)
      · obtain ⟨targets, ht, hl⟩ := ih s.length (by simp [← hn]) (pre ++ [c]) s rfl
        have hcons : pre ++ [c] ++ s = pre ++ c :: s := by simp
        rw [hcons] at ht
        refine ⟨targets, (linksFrom_char pre s c hopen).trans ht, hl.skip fun target after h => ?_⟩
        exact hopen ⟨_, h⟩

end Graftx.Xtask
