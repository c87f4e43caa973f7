import Mathlib.Data.List.Basic

/-! Data that arrives in chunks, and the loop that fills a buffer from it. What the buffer
holds in the end depends on the data only, not on how it was cut into chunks. -/
namespace Lib.Chunks
universe u
variable {α : Type u}

/-- Fill a buffer of `n` elements, chunk by chunk, and keep what was not used. Without
enough data everything is used up in vain. -/
def fill : Nat → List (List α) → Option (List α) × List (List α)
  | 0, chunks => (some [], chunks)
  | _ + 1, [] => (none, [])
  | n + 1, c :: cs =>
    if n + 1 ≤ c.length then (some (c.take (n + 1)), c.drop (n + 1) :: cs)
    else
      match fill (n + 1 - c.length) cs with
      | (none, rest) => (none, rest)
      | (some got, rest) => (some (c ++ got), rest)

theorem fill_of_le (n : Nat) (chunks : List (List α)) (h : n ≤ chunks.flatten.length) :
    ∃ rest, fill n chunks = (some (chunks.flatten.take n), rest) ∧
      rest.flatten = chunks.flatten.drop n := by
  induction chunks generalizing n with
  | nil =>
    obtain rfl : n = 0 := Nat.le_zero.mp h
    exact ⟨[], rfl, rfl⟩
  | cons c cs ih =>
    cases n with
    | zero => exact ⟨c :: cs, by rw [fill, List.take_zero], rfl⟩
    | succ n =>
      rw [fill, List.flatten_cons]
      by_cases hc : n + 1 ≤ c.length
      · refine ⟨c.drop (n + 1) :: cs, ?_, ?_⟩
        · rw [if_pos hc, List.take_append_of_le_length hc]
        · rw [List.flatten_cons, List.drop_append_of_le_length hc]
      · rw [List.flatten_cons, List.length_append] at h
        obtain ⟨rest, hfill, hrest⟩ := ih (n + 1 - c.length) (by omega)
        have htake : c.take (n + 1) = c := List.take_of_length_le (by omega)
        have hdrop : c.drop (n + 1) = [] := List.drop_of_length_le (by omega)
        refine ⟨rest, ?_, ?_⟩
        · rw [if_neg hc, hfill, List.take_append, htake]
        · rw [hrest, List.drop_append, hdrop, List.nil_append]

theorem fill_of_lt (n : Nat) (chunks : List (List α)) (h : chunks.flatten.length < n) :
    fill n chunks = (none, []) := by
  induction chunks generalizing n with
  | nil =>
    cases n with
    | zero => exact absurd h (Nat.not_lt_zero _)
    | succ n => rfl
  | cons c cs ih =>
    rw [List.flatten_cons, List.length_append] at h
    cases n with
    | zero => exact absurd h (Nat.not_lt_zero _)
    | succ n => rw [fill, if_neg (by omega), ih _ (by omega)]

end Lib.Chunks
