import Mathlib.Data.List.Basic

/-! Sifting a list with a predicate that has a memory. It is asked about every element once,
in order, and what it answers may depend on everything it was asked before. -/
namespace Lib.Sift
universe u v
variable {α : Type u} {ω : Type v}

/-- The elements accepted and rejected, each in order, and the memory after the last call. -/
structure Sifted (α : Type u) (ω : Type v) where
  kept : List α
  rejected : List α
  memory : ω

def sift (keep : ω → α → Bool × ω) : ω → List α → Sifted α ω
  | st, [] => ⟨[], [], st⟩
  | st, a :: l =>
    let rest := sift keep (keep st a).2 l
    if (keep st a).1 then ⟨a :: rest.kept, rest.rejected, rest.memory⟩
    else ⟨rest.kept, a :: rest.rejected, rest.memory⟩

def noting (keep : ω → α → Bool × ω) (p : List α × ω) (a : α) : Bool × (List α × ω) :=
  ((keep p.2 a).1, (p.1 ++ [a], (keep p.2 a).2))

variable (keep : ω → α → Bool × ω)

theorem sift_cons_kept (st : ω) (a : α) (l : List α) (h : (keep st a).1 = true) :
    sift keep st (a :: l) = ⟨a :: (sift keep (keep st a).2 l).kept,
      (sift keep (keep st a).2 l).rejected, (sift keep (keep st a).2 l).memory⟩ := by
  rw [sift, if_pos h]

theorem sift_cons_rejected (st : ω) (a : α) (l : List α) (h : (keep st a).1 = false) :
    sift keep st (a :: l) = ⟨(sift keep (keep st a).2 l).kept,
      a :: (sift keep (keep st a).2 l).rejected, (sift keep (keep st a).2 l).memory⟩ := by
  rw [sift, if_neg (by simp [h])]

/-- It is asked about every element exactly once, in order, and writing that down changes
nothing else. -/
theorem sift_noting (st : ω) (seen l : List α) :
    sift (noting keep) (seen, st) l = ⟨(sift keep st l).kept, (sift keep st l).rejected,
      (seen ++ l, (sift keep st l).memory)⟩ := by
  induction l generalizing st seen with
  | nil => simp [sift]
  | cons a l ih =>
    have hrest := ih (keep st a).2 (seen ++ [a])
    rw [List.append_assoc, List.singleton_append] at hrest
    cases h : (keep st a).1 with
    | true =>
      rw [sift_cons_kept keep st a l h, sift_cons_kept (noting keep) (seen, st) a l h]
      simp only [noting, hrest]
    | false =>
      rw [sift_cons_rejected keep st a l h, sift_cons_rejected (noting keep) (seen, st) a l h]
      simp only [noting, hrest]

theorem length_kept_add_rejected (st : ω) (l : List α) :
    (sift keep st l).kept.length + (sift keep st l).rejected.length = l.length := by
  induction l generalizing st with
  | nil => rfl
  | cons a l ih =>
    have hrest := ih (keep st a).2
    cases h : (keep st a).1 with
    | true =>
      rw [sift_cons_kept keep st a l h]
      simp only [List.length_cons]
      omega
    | false =>
      rw [sift_cons_rejected keep st a l h]
      simp only [List.length_cons]
      omega

theorem sift_of_false (hkeep : ∀ st a, (keep st a).1 = false) (st : ω) (l : List α) :
    (sift keep st l).kept = [] ∧ (sift keep st l).rejected = l := by
  induction l generalizing st with
  | nil => exact ⟨rfl, rfl⟩
  | cons a l ih =>
    obtain ⟨hkept, hrej⟩ := ih (keep st a).2
    rw [sift_cons_rejected keep st a l (hkeep st a)]
    exact ⟨hkept, congrArg (a :: ·) hrej⟩

end Lib.Sift
