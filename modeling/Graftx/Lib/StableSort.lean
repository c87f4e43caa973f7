import Mathlib.Data.List.Nodup
import Mathlib.Order.Lattice

/-! Sorting by a key without disturbing entries of equal keys. What the sort keeps of a list is,
for each key, the sequence of the entries that have it, and no more than that. -/
namespace Lib.StableSort
universe u v
variable {α : Type u} {K : Type v} [LinearOrder K]

def keyLe (key : α → K) (a b : α) : Bool := decide (key a ≤ key b)

def sortByKey (key : α → K) (l : List α) : List α := l.mergeSort (keyLe key)

theorem keyLe_trans (key : α → K) (a b c : α) (hab : keyLe key a b = true)
    (hbc : keyLe key b c = true) : keyLe key a c = true :=
  decide_eq_true (le_trans (of_decide_eq_true hab) (of_decide_eq_true hbc))

theorem keyLe_total (key : α → K) (a b : α) : (keyLe key a b || keyLe key b a) = true := by
  simpa [keyLe] using le_total (key a) (key b)

theorem sortByKey_perm (key : α → K) (l : List α) : (sortByKey key l).Perm l :=
  List.mergeSort_perm l _

theorem sortByKey_sorted (key : α → K) (l : List α) :
    (sortByKey key l).Pairwise fun a b => key a ≤ key b :=
  (List.pairwise_mergeSort (keyLe_trans key) (keyLe_total key) l).imp of_decide_eq_true

def ofKey (key : α → K) (k : K) (l : List α) : List α := l.filter fun a => key a = k

theorem ofKey_sortByKey (key : α → K) (k : K) (l : List α) :
    ofKey key k (sortByKey key l) = ofKey key k l := by
  have hconst : (ofKey key k l).Pairwise fun a b => keyLe key a b = true := by
    refine List.pairwise_of_forall_mem_list fun a ha b hb => ?_
    have hka := of_decide_eq_true (List.mem_filter.mp ha).2
    have hkb := of_decide_eq_true (List.mem_filter.mp hb).2
    simp [keyLe, hka, hkb]
  have hsub : (ofKey key k l).Sublist (sortByKey key l) :=
    List.sublist_mergeSort (keyLe_trans key) (keyLe_total key) hconst List.filter_sublist
  have hfilter := hsub.filter fun a => decide (key a = k)
  rw [ofKey, List.filter_filter] at hfilter
  simp only [Bool.and_self] at hfilter
  exact (hfilter.eq_of_length ((sortByKey_perm key l).filter _).length_eq.symm).symm

theorem eq_of_ofKey {key : α → K} {xs ys : List α} (hx : xs.Pairwise fun a b => key a ≤ key b)
    (hy : ys.Pairwise fun a b => key a ≤ key b) (h : ∀ k, ofKey key k xs = ofKey key k ys) :
    xs = ys := by
  induction xs generalizing ys with
  | nil =>
    cases ys with
    | nil => rfl
    | cons y ys =>
      have hk := h (key y)
      simp [ofKey] at hk
  | cons x xs ih =>
    cases ys with
    | nil =>
      have hk := h (key x)
      simp [ofKey] at hk
    | cons y ys =>
      -- both heads have the least key, and the first item of that key is the same
      have hmem {a b : α} {l l' : List α} (hab : ofKey key (key a) (a :: l) =
          ofKey key (key a) (b :: l')) : a ∈ b :: l' := by
        have ha : a ∈ ofKey key (key a) (a :: l) := by simp [ofKey]
        rw [hab] at ha
        exact List.mem_of_mem_filter ha
      have hle {a b : α} {l : List α} (hs : (b :: l).Pairwise fun a b => key a ≤ key b)
          (ha : a ∈ b :: l) : key b ≤ key a := by
        rcases List.mem_cons.mp ha with rfl | ha
        · exact le_refl _
        · exact (List.pairwise_cons.mp hs).1 a ha
      have hkey : key x = key y :=
        le_antisymm (hle hx (hmem (h (key y)).symm)) (hle hy (hmem (h (key x))))
      have hxy : x = y := by
        have hk := h (key x)
        simp only [ofKey, hkey, List.filter_cons, decide_true, if_true, List.cons.injEq] at hk
        exact hk.1
      subst hxy
      refine congrArg (x :: ·) (ih hx.of_cons hy.of_cons fun k => ?_)
      have hk := h k
      by_cases he : key x = k
      · simpa [ofKey, he] using hk
      · simpa [ofKey, he] using hk

/-- Two lists are sorted into one exactly when they agree on each key. -/
theorem sortByKey_eq_iff (key : α → K) (xs ys : List α) :
    sortByKey key xs = sortByKey key ys ↔ ∀ k, ofKey key k xs = ofKey key k ys := by
  constructor
  · intro h k
    rw [← ofKey_sortByKey key k xs, h, ofKey_sortByKey]
  · intro h
    refine eq_of_ofKey (sortByKey_sorted key xs) (sortByKey_sorted key ys) fun k => ?_
    rw [ofKey_sortByKey, ofKey_sortByKey, h k]

theorem sortByKey_eq_of_perm {key : α → K} {xs ys : List α} (h : xs.Perm ys)
    (hn : (xs.map key).Nodup) : sortByKey key xs = sortByKey key ys := by
  have hperm : (sortByKey key xs).Perm (sortByKey key ys) :=
    (sortByKey_perm key xs).trans (h.trans (sortByKey_perm key ys).symm)
  refine hperm.eq_of_pairwise ?_ (sortByKey_sorted key xs) (sortByKey_sorted key ys)
  intro a b ha hb hab hba
  have ha := (sortByKey_perm key xs).mem_iff.mp ha
  have hb := h.mem_iff.mpr ((sortByKey_perm key ys).mem_iff.mp hb)
  exact List.inj_on_of_nodup_map hn ha hb (le_antisymm hab hba)

theorem sortByKey_pairwise {key : α → K} {R : α → α → Prop} {l : List α} (h : l.Pairwise R) :
    (sortByKey key l).Pairwise fun a b => key a < key b ∨ key a = key b ∧ R a b := by
  refine List.pairwise_iff_forall_sublist.mpr fun {a b} hab => ?_
  rcases (List.pairwise_iff_forall_sublist.mp (sortByKey_sorted key l) hab).lt_or_eq with hlt | heq
  · exact .inl hlt
  · have hboth : ofKey key (key b) [a, b] = [a, b] := by simp [ofKey, heq]
    have hof : (ofKey key (key b) [a, b]).Sublist (ofKey key (key b) (sortByKey key l)) :=
      hab.filter _
    rw [hboth, ofKey_sortByKey] at hof
    exact .inr ⟨heq, List.pairwise_iff_forall_sublist.mp h (hof.trans List.filter_sublist)⟩

end Lib.StableSort
