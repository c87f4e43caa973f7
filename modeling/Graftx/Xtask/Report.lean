import Graftx.Xtask.Opcodes

/-! The note on a stale file. Whether a file is stale is decided on the whole text; the note
goes by the lines, and these leave the line endings out. -/
namespace Graftx.Xtask
open Lib.Lines Lib.Numerals

def differenceText : Text := "  first difference at line ".toList
def onDiskText : Text := "    on disk:   ".toList
def expectedText : Text := "    expected:  ".toList
def countText : Text := "  line count differs: ".toList
def versusText : Text := " on disk vs ".toList
def countEndText : Text := " expected".toList

def differenceLine (n : Nat) : Text := differenceText ++ decimal n ++ [':']

def countLine (haveCount wantCount : Nat) : Text :=
  countText ++ decimal haveCount ++ versusText ++ decimal wantCount ++ countEndText

/-- The loop over the pairs of lines; it stops at the first pair that differs. -/
def firstMismatch (idx : Nat) : List Text → List Text → Option (Nat × Text × Text)
  | haveLine :: haves, wantLine :: wants =>
    if haveLine ≠ wantLine then some (idx, haveLine, wantLine)
    else firstMismatch (idx + 1) haves wants
  | _, _ => none

def reportFirstDifference (onDisk want : Text) : List Text :=
  match firstMismatch 0 (lines onDisk) (lines want) with
  | some (idx, haveLine, wantLine) =>
    [differenceLine (idx + 1), onDiskText ++ haveLine, expectedText ++ wantLine]
  | none =>
    if (lines onDisk).length ≠ (lines want).length then
      [countLine (lines onDisk).length (lines want).length]
    else []

theorem firstMismatch_some {idx n : Nat} {haves wants : List Text} {a b : Text}
    (h : firstMismatch idx haves wants = some (n, a, b)) : ∃ k, n = idx + k ∧
      haves.take k = wants.take k ∧ haves[k]? = some a ∧ wants[k]? = some b ∧ a ≠ b := by
  induction haves generalizing idx wants with
  | nil => simp [firstMismatch] at h
  | cons x haves ih =>
    cases wants with
    | nil => simp [firstMismatch] at h
    | cons y wants =>
      rw [firstMismatch] at h
      split at h
      · rename_i hne
        cases h
        exact ⟨0, rfl, rfl, rfl, rfl, hne⟩
      · rename_i heq
        obtain ⟨k, rfl, htake, ha, hb, hne⟩ := ih h
        rw [not_not.mp heq]
        have htake : (y :: haves).take (k + 1) = (y :: wants).take (k + 1) := by
          rw [List.take_succ_cons, List.take_succ_cons, htake]
        exact ⟨k + 1, by omega, htake, ha, hb, hne⟩

theorem firstMismatch_none {idx : Nat} {haves wants : List Text}
    (h : firstMismatch idx haves wants = none) : haves <+: wants ∨ wants <+: haves := by
  induction haves generalizing idx wants with
  | nil => exact .inl (List.nil_prefix)
  | cons x haves ih =>
    cases wants with
    | nil => exact .inr (List.nil_prefix)
    | cons y wants =>
      rw [firstMismatch] at h
      split at h
      · cases h
      · rename_i heq
        rw [not_not.mp heq, List.cons_prefix_cons, List.cons_prefix_cons]
        exact (ih h).imp (fun hp => ⟨rfl, hp⟩) fun hp => ⟨rfl, hp⟩

theorem differenceLine_ne_countLine (n a b : Nat) : differenceLine n ≠ countLine a b := by
  intro h
  have hchar := congrArg (fun text => text[2]?) h
  simp only [differenceLine, countLine, List.append_assoc] at hchar
  rw [List.getElem?_append_left (by decide), List.getElem?_append_left (by decide)] at hchar
  exact absurd hchar (by decide)

theorem differenceLine_injective {m n : Nat} (h : differenceLine m = differenceLine n) : m = n := by
  rw [differenceLine, differenceLine, List.append_left_inj, List.append_right_inj] at h
  exact decimal_injective h

/-- What a note on two texts says is so: it is there, a line it names is the first to differ,
and where it gives line counts one text goes on where the other ends. -/
structure Explained (onDisk want : Text) : Prop where
  written : reportFirstDifference onDisk want ≠ []
  line : ∀ n, (reportFirstDifference onDisk want).head? = some (differenceLine n) →
    ∃ k a b, n = k + 1 ∧ (lines onDisk).take k = (lines want).take k ∧
      (lines onDisk)[k]? = some a ∧ (lines want)[k]? = some b ∧ a ≠ b
  count : ∀ a b, (reportFirstDifference onDisk want).head? = some (countLine a b) →
    (lines onDisk <+: lines want ∨ lines want <+: lines onDisk) ∧ lines onDisk ≠ lines want

theorem reportFirstDifference_eq_nil {onDisk want : Text} (h : lines onDisk = lines want) :
    reportFirstDifference onDisk want = [] := by
  rw [reportFirstDifference, h]
  cases hm : firstMismatch 0 (lines want) (lines want) with
  | some p =>
    obtain ⟨n, a, b⟩ := p
    obtain ⟨k, -, -, ha, hb, hne⟩ := firstMismatch_some hm
    rw [ha] at hb
    exact absurd (Option.some.inj hb) hne
  | none => simp

theorem explained_of_lines_ne {onDisk want : Text} (h : lines onDisk ≠ lines want) :
    Explained onDisk want := by
  cases hm : firstMismatch 0 (lines onDisk) (lines want) with
  | some p =>
    obtain ⟨n, a, b⟩ := p
    have hout : reportFirstDifference onDisk want =
        [differenceLine (n + 1), onDiskText ++ a, expectedText ++ b] := by
      simp only [reportFirstDifference, hm]
    obtain ⟨k, rfl, htake, ha, hb, hne⟩ := firstMismatch_some hm
    refine ⟨by simp [hout], fun m hline => ?_, fun x y hcount => ?_⟩
    · rw [hout, List.head?_cons, Option.some.injEq] at hline
      have hm := differenceLine_injective hline
      exact ⟨k, a, b, by omega, htake, ha, hb, hne⟩
    · rw [hout, List.head?_cons, Option.some.injEq] at hcount
      exact absurd hcount (differenceLine_ne_countLine _ x y)
  | none =>
    have hpre := firstMismatch_none hm
    have hlen : (lines onDisk).length ≠ (lines want).length := by
      intro hl
      rcases hpre with hp | hp
      · exact h (hp.eq_of_length hl)
      · exact h (hp.eq_of_length hl.symm).symm
    have hout : reportFirstDifference onDisk want =
        [countLine (lines onDisk).length (lines want).length] := by
      simp only [reportFirstDifference, hm, if_pos hlen]
    refine ⟨by simp [hout], fun m hline => ?_, fun x y _ => ⟨hpre, h⟩⟩
    rw [hout, List.head?_cons, Option.some.injEq] at hline
    exact absurd hline.symm (differenceLine_ne_countLine m _ _)

/-- A stale text is explained exactly when its lines differ from those expected. -/
theorem stale_explained_iff (onDisk want : Text) :
    (checkText (.ok onDisk) want = .stale onDisk want → Explained onDisk want) ↔
      (onDisk = want ∨ lines onDisk ≠ lines want) := by
  rw [checkText_stale_iff]
  constructor
  · intro h
    by_cases heq : onDisk = want
    · exact .inl heq
    · exact .inr fun hl =>
        (h ⟨rfl, rfl, heq⟩).written (reportFirstDifference_eq_nil hl)
  · rintro (heq | hne) ⟨-, -, hstale⟩
    · exact absurd heq hstale
    · exact explained_of_lines_ne hne

/-- A final newline is missing, and the note is empty. -/
theorem missing_newline_unexplained : ¬ ∀ onDisk want : Text,
    checkText (.ok onDisk) want = .stale onDisk want → Explained onDisk want := by
  intro h
  have hstale : checkText (.ok ['a']) ['a', '\n'] = .stale ['a'] ['a', '\n'] := by decide
  exact (h _ _ hstale).written (reportFirstDifference_eq_nil (by decide))

end Graftx.Xtask
