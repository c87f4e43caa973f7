import Mathlib.Data.List.Perm.Basic

/-! Counters that stop at their largest value. What such a counter holds is the exact sum cut
off once, whatever the order of the additions. -/
namespace Lib.Saturation
universe u v
variable {α : Type u} {β : Type v}

def weight (w : β → Nat) : List β → Nat
  | [] => 0
  | x :: xs => w x + weight w xs

@[simp] theorem weight_nil (w : β → Nat) : weight w [] = 0 := rfl

@[simp] theorem weight_cons (w : β → Nat) (x : β) (xs : List β) :
    weight w (x :: xs) = w x + weight w xs := rfl

theorem weight_congr {w w' : β → Nat} {xs : List β} (h : ∀ x ∈ xs, w x = w' x) :
    weight w xs = weight w' xs := by
  induction xs with
  | nil => rfl
  | cons x xs ih =>
    rw [weight_cons, weight_cons, h x List.mem_cons_self,
      ih fun y hy => h y (List.mem_cons_of_mem x hy)]

theorem weight_perm (w : β → Nat) {xs ys : List β} (h : xs.Perm ys) :
    weight w xs = weight w ys := by
  induction h with
  | nil => rfl
  | cons x _ ih => simp [ih]
  | swap x y l => simp; omega
  | trans _ _ ih₁ ih₂ => exact ih₁.trans ih₂

theorem weight_one (xs : List β) : weight (fun _ => 1) xs = xs.length := by
  induction xs with
  | nil => rfl
  | cons x xs ih => simp [ih]; omega

theorem weight_indicator (p : β → Bool) (xs : List β) :
    weight (fun x => if p x then 1 else 0) xs = xs.countP p := by
  induction xs with
  | nil => rfl
  | cons x xs ih => simp [ih, List.countP_cons]; omega

theorem weight_map {γ : Type u} (f : γ → β) (w : β → Nat) (xs : List γ) :
    weight w (xs.map f) = weight (fun x => w (f x)) xs := by
  induction xs with
  | nil => rfl
  | cons x xs ih => simp [ih]

theorem weight_filterMap {γ : Type u} (f : γ → Option β) (w : β → Nat) (xs : List γ) :
    weight w (xs.filterMap f) = weight (fun x => ((f x).map w).getD 0) xs := by
  induction xs with
  | nil => rfl
  | cons x xs ih => cases hx : f x <;> simp [hx, ih]

theorem weight_zero (xs : List β) : weight (fun _ => 0) xs = 0 := by
  induction xs with
  | nil => rfl
  | cons x xs ih => simp [ih]

theorem weight_add (w w' : β → Nat) (xs : List β) :
    weight (fun x => w x + w' x) xs = weight w xs + weight w' xs := by
  induction xs with
  | nil => rfl
  | cons x xs ih => simp [ih]; omega

theorem weight_append (w : β → Nat) (xs ys : List β) :
    weight w (xs ++ ys) = weight w xs + weight w ys := by
  induction xs with
  | nil => exact (Nat.zero_add _).symm
  | cons x xs ih => rw [List.cons_append, weight_cons, weight_cons, ih, Nat.add_assoc]

theorem weight_set (w : β → Nat) {xs : List β} {i : Nat} {x : β} (y : β) (h : xs[i]? = some x) :
    weight w (xs.set i y) + w x = weight w xs + w y := by
  induction xs generalizing i with
  | nil => cases h
  | cons z xs ih =>
    cases i with
    | zero =>
      cases h
      rw [List.set_cons_zero, weight_cons, weight_cons]
      omega
    | succ i =>
      have hrest := ih (i := i) h
      rw [List.set_cons_succ, weight_cons, weight_cons]
      omega

theorem weight_rounds (w : β → Nat) (n : Nat) (xs : List β) :
    weight w (List.replicate n xs).flatten = n * weight w xs := by
  induction n with
  | zero => exact (Nat.zero_mul _).symm
  | succ n ih =>
    rw [List.replicate_succ, List.flatten_cons, weight_append, ih, Nat.succ_mul, Nat.add_comm]

theorem weight_only [DecidableEq β] (x : β) (n : Nat) {xs : List β} (hn : xs.Nodup) (hx : x ∈ xs) :
    weight (fun y => if x = y then n else 0) xs = n := by
  induction xs with
  | nil => cases hx
  | cons y ys ih =>
    obtain ⟨hy, hn⟩ := List.nodup_cons.mp hn
    rw [weight_cons]
    by_cases he : x = y
    · have hrest : weight (fun z => if x = z then n else 0) ys = weight (fun _ => 0) ys :=
        weight_congr fun z hz => if_neg fun hxz => hy (by rw [← he, hxz]; exact hz)
      rw [if_pos he, hrest, weight_zero, Nat.add_zero]
    · rw [if_neg he, ih hn ((List.mem_cons.mp hx).resolve_left he), Nat.zero_add]

theorem weight_groups {κ : Type u} [DecidableEq κ] (w : β → Nat) (key : β → κ) {keys : List κ}
    (hn : keys.Nodup) (xs : List β) (h : ∀ x ∈ xs, key x ∈ keys) :
    weight (fun k => weight w (xs.filter fun x => key x = k)) keys = weight w xs := by
  induction xs with
  | nil => exact weight_zero keys
  | cons x xs ih =>
    have hsplit : (fun k => weight w ((x :: xs).filter fun x => key x = k)) =
        fun k => (if key x = k then w x else 0) + weight w (xs.filter fun x => key x = k) := by
      funext k
      by_cases he : key x = k <;> simp [he]
    rw [hsplit, weight_add, weight_only (key x) (w x) hn (h x List.mem_cons_self),
      ih fun y hy => h y (List.mem_cons_of_mem x hy), weight_cons]

theorem min_weight (top : Nat) (w : β → Nat) (xs : List β) :
    min top (weight (fun x => min top (w x)) xs) = min top (weight w xs) := by
  induction xs with
  | nil => rfl
  | cons x xs ih =>
    simp only [weight_cons]
    omega

/-- Adding to the counter stops at `top`; a whole run of additions then stops there too. -/
theorem val_foldl (val : α → Nat) (w : β → Nat) {top : Nat} {add : α → β → α}
    (hadd : ∀ a x, val (add a x) = min top (val a + w x)) (xs : List β) (a : α)
    (ha : val a ≤ top) : val (xs.foldl add a) = min top (val a + weight w xs) := by
  induction xs generalizing a with
  | nil => simp [ha]
  | cons x xs ih =>
    rw [List.foldl_cons, ih (add a x) (by rw [hadd]; omega), hadd, weight_cons]
    omega

/-- The numbers a counter gives out that starts at one and stops at `top`. -/
def numbers (top n : Nat) : List Nat := (List.range n).map fun k => min top (k + 1)

theorem numbers_monotone (top n : Nat) : (numbers top n).Pairwise (· ≤ ·) := by
  rw [numbers, List.pairwise_map]
  exact List.pairwise_lt_range.imp fun h => by omega

theorem not_nodup_numbers {top n : Nat} (h0 : 0 < top) (h : top < n) :
    ¬ (numbers top n).Nodup := by
  intro hnd
  have hlen : (numbers top n).length = n := by simp [numbers]
  have hlt := List.pairwise_iff_getElem.mp hnd (top - 1) top (by omega) (by omega) (by omega)
  simp only [numbers, List.getElem_map, List.getElem_range] at hlt
  omega

theorem numbers_increasing_iff {top n : Nat} (h0 : 0 < top) :
    (numbers top n).Pairwise (· < ·) ↔ n ≤ top := by
  constructor
  · intro h
    by_contra hn
    exact not_nodup_numbers h0 (Nat.not_le.mp hn) (h.imp Nat.ne_of_lt)
  · intro h
    rw [numbers, List.pairwise_map]
    refine (List.pairwise_lt_range.imp_of_mem ?_)
    intro a b _ hb hab
    have := List.mem_range.mp hb
    omega

theorem numbers_nodup_iff {top n : Nat} (h0 : 0 < top) : (numbers top n).Nodup ↔ n ≤ top := by
  constructor
  · intro h
    by_contra hn
    exact not_nodup_numbers h0 (Nat.not_le.mp hn) h
  · intro h
    exact ((numbers_increasing_iff h0).mpr h).imp Nat.ne_of_lt

end Lib.Saturation
