import Mathlib.Data.List.Induction

/-! Deterministic machines that answer every input, their runs and their logs. A
property of runs is proved from what a single step preserves. -/
namespace Lib.Machine
universe u v w
variable {σ : Type u} {ι : Type v} {ο : Type w}

def final (step : σ → ι → ο × σ) : σ → List ι → σ
  | s, [] => s
  | s, i :: is => final step (step s i).2 is

def log (step : σ → ι → ο × σ) : σ → List ι → List (ι × ο)
  | _, [] => []
  | s, i :: is => (i, (step s i).1) :: log step (step s i).2 is

variable {step : σ → ι → ο × σ}

theorem final_append (s : σ) (is js : List ι) :
    final step s (is ++ js) = final step (final step s is) js := by
  induction is generalizing s with
  | nil => rfl
  | cons i is ih => exact ih _

theorem log_append (s : σ) (is js : List ι) :
    log step s (is ++ js) = log step s is ++ log step (final step s is) js := by
  induction is generalizing s with
  | nil => rfl
  | cons i is ih => exact congrArg _ (ih _)

theorem final_snoc (s : σ) (is : List ι) (i : ι) :
    final step s (is ++ [i]) = (step (final step s is) i).2 := final_append s is [i]

theorem log_snoc (s : σ) (is : List ι) (i : ι) :
    log step s (is ++ [i]) = log step s is ++ [(i, (step (final step s is) i).1)] :=
  log_append s is [i]

theorem log_replicate {P : ο → Prop} {i : ι} (h : ∀ s, P (step s i).1) (s : σ) (n : Nat) :
    ∀ e ∈ log step s (List.replicate n i), P e.2 := by
  induction n generalizing s with
  | zero =>
    intro e he
    cases he
  | succ n ih =>
    intro e he
    rw [List.replicate_succ, log, List.mem_cons] at he
    rcases he with rfl | he
    · exact h s
    · exact ih _ e he

/-- What holds of the empty log and survives every step holds of every log and state. -/
theorem run_induction {P : List (ι × ο) → σ → Prop} (s : σ) (start : P [] s)
    (hstep : ∀ l s' i, P l s' → P (l ++ [(i, (step s' i).1)]) (step s' i).2) (is : List ι) :
    P (log step s is) (final step s is) := by
  induction is using List.reverseRecOn with
  | nil => exact start
  | append_singleton is i ih =>
    rw [log_snoc, final_snoc]
    exact hstep _ _ _ ih

/-- Every entry of the list stands in the relation to the entries before it. -/
def Along {α : Type u} (P : List α → α → Prop) (l : List α) : Prop :=
  ∀ before x after, l = before ++ x :: after → P before x

theorem along_nil {α : Type u} {P : List α → α → Prop} : Along P [] :=
  fun before x after h => absurd h (by simp)

theorem along_snoc {α : Type u} {P : List α → α → Prop} (l : List α) (x : α) :
    Along P (l ++ [x]) ↔ Along P l ∧ P l x := by
  constructor
  · intro h
    refine ⟨fun before y after he => h before y (after ++ [x]) ?_, h l x [] rfl⟩
    rw [he, List.append_assoc, List.cons_append]
  · rintro ⟨hl, hx⟩ before y after he
    cases after using List.reverseRecOn with
    | nil =>
      obtain ⟨rfl, hxy⟩ := List.append_inj' he rfl
      exact List.singleton_inj.mp hxy ▸ hx
    | append_singleton after' z =>
      rw [← List.cons_append, ← List.append_assoc] at he
      exact hl before y after' (List.append_inj' he rfl).1

theorem along_of_append {α : Type u} {P : List α → α → Prop} (l l' : List α)
    (h : Along P (l ++ l')) : Along P l := by
  rintro before x after rfl
  refine h before x (after ++ l') ?_
  rw [List.append_assoc, List.cons_append]

/-- Refinement of a specification of logs: `Req` is what the run may be assumed to keep to,
`Allows` what the specification says of the next entry, `Sim` the simulation relation. -/
theorem run_simulates {Sim : List (ι × ο) → σ → Prop} {Req Allows : List (ι × ο) → ι × ο → Prop}
    (s : σ) (start : Sim [] s)
    (hstep : ∀ l s' i, Sim l s' → Req l (i, (step s' i).1) →
      Allows l (i, (step s' i).1) ∧ Sim (l ++ [(i, (step s' i).1)]) (step s' i).2)
    (is : List ι) (hreq : Along Req (log step s is)) :
    Along Allows (log step s is) ∧ Sim (log step s is) (final step s is) := by
  induction is using List.reverseRecOn with
  | nil => exact ⟨along_nil, start⟩
  | append_singleton is i ih =>
    rw [log_snoc] at hreq ⊢
    obtain ⟨hprev, hlast⟩ := (along_snoc _ _).mp hreq
    obtain ⟨hall, hsim⟩ := ih hprev
    obtain ⟨hnow, hsim'⟩ := hstep _ _ i hsim hlast
    rw [final_snoc]
    exact ⟨(along_snoc _ _).mpr ⟨hall, hnow⟩, hsim'⟩

theorem along_iff {α : Type u} {P : List α → α → Prop} (l : List α) :
    Along P l ↔ ∀ (n : Nat) (h : n < l.length), P (l.take n) l[n] := by
  constructor
  · intro h n hn
    exact h _ _ (l.drop (n + 1)) (by rw [List.getElem_cons_drop, List.take_append_drop])
  · rintro h before x after rfl
    have hx := h before.length (by simp)
    rwa [List.take_left, List.getElem_append_right (Nat.le_refl _), List.getElem_cons,
      dif_pos (Nat.sub_self _)] at hx

instance {α : Type u} {P : List α → α → Prop} [∀ l x, Decidable (P l x)] (l : List α) :
    Decidable (Along P l) := decidable_of_iff _ (along_iff l).symm

end Lib.Machine
