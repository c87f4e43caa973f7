import Graftx.Lib.Saturation
import Mathlib.Data.List.Induction

/-! Entries counted by key while they are passed over once, the keys in the order in which they
were first seen. -/
namespace Lib.Tally
open Saturation
universe u
variable {κ : Type u} [DecidableEq κ]

/-- Count one more of `x`: in the first slot with that key, or in a new one at the end. -/
def bump : List (κ × Nat) → κ → List (κ × Nat)
  | [], x => [(x, 1)]
  | (k, n) :: rest, x => if k = x then (k, n + 1) :: rest else (k, n) :: bump rest x

def tally (xs : List κ) : List (κ × Nat) := xs.foldl bump []

def see (seen : List κ) (x : κ) : List κ := if x ∈ seen then seen else seen ++ [x]

def firstSeen (xs : List κ) : List κ := xs.foldl see []

theorem firstSeen_snoc (xs : List κ) (x : κ) : firstSeen (xs ++ [x]) = see (firstSeen xs) x :=
  List.foldl_concat ..

theorem mem_firstSeen (xs : List κ) (k : κ) : k ∈ firstSeen xs ↔ k ∈ xs := by
  induction xs using List.reverseRecOn with
  | nil => rfl
  | append_singleton xs x ih =>
    rw [firstSeen_snoc, see, List.mem_append, ← ih, List.mem_singleton]
    split
    · rename_i h
      exact ⟨.inl, fun hk => hk.elim id fun he => he ▸ h⟩
    · rw [List.mem_append, List.mem_singleton]

theorem firstSeen_ordered (xs : List κ) :
    (firstSeen xs).Pairwise fun a b => xs.idxOf a < xs.idxOf b := by
  induction xs using List.reverseRecOn with
  | nil => exact .nil
  | append_singleton xs x ih =>
    have hkept : (firstSeen xs).Pairwise fun a b =>
        (xs ++ [x]).idxOf a < (xs ++ [x]).idxOf b := ih.imp_of_mem fun ha hb h => by
      rwa [List.idxOf_append_of_mem ((mem_firstSeen xs _).mp ha),
        List.idxOf_append_of_mem ((mem_firstSeen xs _).mp hb)]
    rw [firstSeen_snoc, see]
    split
    · exact hkept
    · rename_i hx
      refine List.pairwise_append.mpr ⟨hkept, List.pairwise_singleton _ _, fun a ha b hb => ?_⟩
      cases List.mem_singleton.mp hb
      have ha := (mem_firstSeen xs a).mp ha
      rw [List.idxOf_append_of_mem ha,
        List.idxOf_append_of_notMem fun hm => hx ((mem_firstSeen xs _).mpr hm)]
      exact Nat.lt_of_lt_of_le (List.idxOf_lt_length_of_mem ha) (Nat.le_add_right _ _)

theorem nodup_firstSeen (xs : List κ) : (firstSeen xs).Nodup :=
  (firstSeen_ordered xs).imp fun h he => by rw [he] at h; exact Nat.lt_irrefl _ h

theorem bump_map {ks : List κ} (hn : ks.Nodup) (c : κ → Nat) (x : κ) (hx : x ∉ ks → c x = 0) :
    bump (ks.map fun k => (k, c k)) x =
      (see ks x).map fun k => (k, if k = x then c k + 1 else c k) := by
  induction ks with
  | nil => simp [bump, see, hx]
  | cons k ks ih =>
    obtain ⟨hk, hn⟩ := List.nodup_cons.mp hn
    rw [List.map_cons, bump]
    by_cases he : k = x
    · subst he
      have hrest : ks.map (fun k' => (k', if k' = k then c k' + 1 else c k')) =
          ks.map fun k' => (k', c k') :=
        List.map_congr_left fun k' hk' => by
          have hne : k' ≠ k := fun he => hk (he ▸ hk')
          rw [if_neg hne]
      rw [if_pos rfl, see, if_pos List.mem_cons_self, List.map_cons, hrest, if_pos rfl]
    · have hsee : see (k :: ks) x = k :: see ks x := by
        simp only [see, List.mem_cons, Ne.symm he, false_or]
        split <;> rfl
      rw [if_neg he, ih hn fun hm => hx (by simp [Ne.symm he, hm]), hsee, List.map_cons,
        if_neg he]

theorem tally_eq (xs : List κ) : tally xs = (firstSeen xs).map fun k => (k, xs.count k) := by
  induction xs using List.reverseRecOn with
  | nil => rfl
  | append_singleton xs x ih =>
    have hx : x ∉ firstSeen xs → xs.count x = 0 := fun h =>
      List.count_eq_zero.mpr fun hm => h ((mem_firstSeen xs x).mpr hm)
    rw [tally, List.foldl_concat]
    change bump (tally xs) x = _
    rw [ih, bump_map (nodup_firstSeen xs) (xs.count ·) x hx, firstSeen_snoc]
    refine List.map_congr_left fun k _ => ?_
    rw [List.count_append, List.count_singleton]
    by_cases hk : k = x
    · simp [hk]
    · simp [hk, Ne.symm hk]

theorem weight_tally (xs : List κ) : weight Prod.snd (tally xs) = xs.length := by
  have hcount (k : κ) : xs.count k = weight (fun _ => 1) (xs.filter fun x => x = k) := by
    rw [weight_one, List.count_eq_length_filter]
    rfl
  have hgroups := weight_groups (fun _ => 1) (fun x : κ => x) (nodup_firstSeen xs) xs
    fun x hx => (mem_firstSeen xs x).mpr hx
  rw [weight_one] at hgroups
  rw [tally_eq, weight_map]
  simp only [hcount]
  exact hgroups

end Lib.Tally
