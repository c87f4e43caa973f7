import Mathlib.Data.List.Basic

/-! Two lists written into one log as their entries come, and getting one of them back. -/
namespace Lib
universe u

/-- `log` holds the entries of `xs` and of `ys`, each list in its own order. -/
inductive Interleaves {α : Type u} : List α → List α → List α → Prop where
  | nil : Interleaves [] [] []
  | left {log xs ys : List α} (x : α) (h : Interleaves log xs ys) :
      Interleaves (log ++ [x]) (xs ++ [x]) ys
  | right {log xs ys : List α} (y : α) (h : Interleaves log xs ys) :
      Interleaves (log ++ [y]) xs (ys ++ [y])

namespace Interleaves
variable {α : Type u} {log xs ys : List α}

theorem filter_eq (h : Interleaves log xs ys) (p : α → Bool) (hx : ∀ x ∈ xs, p x = true)
    (hy : ∀ y ∈ ys, p y = false) : log.filter p = xs := by
  induction h with
  | nil => rfl
  | left x h ih =>
    have hxs := List.forall_mem_append.mp hx
    have hlast : p x = true := hxs.2 x List.mem_cons_self
    rw [List.filter_append, ih hxs.1 hy, List.filter_cons_of_pos hlast, List.filter_nil]
  | right y h ih =>
    have hys := List.forall_mem_append.mp hy
    have hlast : ¬ p y = true := Bool.eq_false_iff.mp (hys.2 y List.mem_cons_self)
    rw [List.filter_append, ih hx hys.1, List.filter_cons_of_neg hlast, List.filter_nil,
      List.append_nil]

end Interleaves

/-- `log` is what a scheduler makes of the threads: each time some thread gives its next
entry, until none has any left. -/
inductive Schedules {α : Type u} : List (List α) → List α → Prop where
  | done (threads : List (List α)) (h : ∀ thread ∈ threads, thread = []) : Schedules threads []
  | pick (before after : List (List α)) (x : α) (thread log : List α)
      (h : Schedules (before ++ thread :: after) log) :
      Schedules (before ++ (x :: thread) :: after) (x :: log)

/-- Whatever the scheduler does, the log holds the entries of the threads and no others. -/
theorem Schedules.perm {α : Type u} {threads : List (List α)} {log : List α}
    (h : Schedules threads log) : log.Perm threads.flatten := by
  induction h with
  | done threads h => rw [List.flatten_eq_nil_iff.mpr h]
  | pick before after x thread log h ih =>
    simp only [List.flatten_append, List.flatten_cons, List.cons_append] at ih ⊢
    exact (ih.cons x).trans List.perm_middle.symm

end Lib
