import Mathlib.Data.Fintype.Card
import Mathlib.Data.Fintype.EquivFin
import Mathlib.Data.Nat.ModEq
import Mathlib.Data.Nat.Prime.Basic
import Mathlib.Tactic.Ring

/-! Linear congruential generators modulo a power of two. With an odd increment and a multiplier
that leaves one on division by four, a generator goes through all numbers before it repeats. -/
namespace Lib.Congruential

def step (a c m x : Nat) : Nat := (a * x + c) % m

def geom (a : Nat) : Nat → Nat
  | 0 => 0
  | n + 1 => a * geom a n + 1

theorem iterate_modEq (a c m n x : Nat) :
    (step a c m)^[n] x ≡ a ^ n * x + geom a n * c [MOD m] := by
  induction n with
  | zero =>
    change x ≡ _ [MOD m]
    rw [pow_zero, one_mul, geom, zero_mul, add_zero]
  | succ n ih =>
    rw [Function.iterate_succ_apply']
    calc step a c m ((step a c m)^[n] x)
        ≡ a * (step a c m)^[n] x + c [MOD m] := Nat.mod_modEq _ _
      _ ≡ a * (a ^ n * x + geom a n * c) + c [MOD m] := (ih.mul_left a).add_right c
      _ = a ^ (n + 1) * x + geom a (n + 1) * c := by
        rw [geom]
        ring

theorem geom_add (a m n : Nat) : geom a (m + n) = geom a m + a ^ m * geom a n := by
  induction m with
  | zero => simp [geom]
  | succ m ih =>
    rw [Nat.add_right_comm, geom, ih, geom]
    ring

theorem pow_eq (q n : Nat) : (4 * q + 1) ^ n = 1 + 4 * q * geom (4 * q + 1) n := by
  induction n with
  | zero => simp [geom]
  | succ n ih =>
    rw [pow_succ, ih, geom]
    ring

theorem geom_odd_iff (q n : Nat) : geom (4 * q + 1) n % 2 = n % 2 := by
  induction n with
  | zero => rfl
  | succ n ih =>
    have hexpand : geom (4 * q + 1) (n + 1) =
        2 * (2 * q * geom (4 * q + 1) n) + (geom (4 * q + 1) n + 1) := by
      rw [geom]
      ring
    rw [hexpand, Nat.mul_add_mod]
    omega

theorem geom_double (q n : Nat) : geom (4 * q + 1) (2 * n) =
    2 * (geom (4 * q + 1) n * (2 * (q * geom (4 * q + 1) n) + 1)) := by
  rw [Nat.two_mul, geom_add, pow_eq]
  ring

theorem coprime_two_pow_odd (w k : Nat) : Nat.Coprime (2 ^ w) (2 * k + 1) :=
  Nat.Coprime.pow_left w (by rw [Nat.coprime_two_left]; exact odd_two_mul_add_one k)

/-- The sum is as even as its number of terms. -/
theorem two_pow_dvd_geom (q w n : Nat) : 2 ^ w ∣ geom (4 * q + 1) n ↔ 2 ^ w ∣ n := by
  induction w generalizing n with
  | zero => simp
  | succ w ih =>
    have hpar := geom_odd_iff q n
    have heven {k : Nat} (h : 2 ^ (w + 1) ∣ k) : k % 2 = 0 :=
      Nat.mod_eq_zero_of_dvd ((Dvd.intro_left (2 ^ w) (pow_succ 2 w).symm).trans h)
    -- each doubling of the length brings one factor of two
    rcases Nat.even_or_odd' n with ⟨m, rfl | rfl⟩
    · rw [geom_double, pow_succ', Nat.mul_dvd_mul_iff_left two_pos,
        Nat.mul_dvd_mul_iff_left two_pos, ← ih m]
      exact (coprime_two_pow_odd w _).dvd_mul_right
    · constructor
      · intro h
        have := heven h
        omega
      · intro h
        have := heven h
        omega

section
variable {q c w x : Nat}

theorem iterate_lt (a : Nat) (hx : x < 2 ^ w) (n : Nat) : (step a c (2 ^ w))^[n] x < 2 ^ w := by
  cases n with
  | zero => exact hx
  | succ n =>
    rw [Function.iterate_succ_apply']
    exact Nat.mod_lt _ (Nat.two_pow_pos w)

theorem iterate_eq_iff (hc : c % 2 = 1) (hx : x < 2 ^ w) (n : Nat) :
    (step (4 * q + 1) c (2 ^ w))^[n] x = x ↔ 2 ^ w ∣ n := by
  have hshift : (4 * q + 1) ^ n * x + geom (4 * q + 1) n * c =
      x + geom (4 * q + 1) n * (4 * q * x + c) := by
    rw [pow_eq]
    ring
  have hmod := iterate_modEq (4 * q + 1) c (2 ^ w) n x
  rw [hshift] at hmod
  have hodd : 4 * q * x + c = 2 * (2 * q * x + c / 2) + 1 := by
    have hsplit : 2 * (2 * q * x) = 4 * q * x := by ring
    omega
  have hdvd : 2 ^ w ∣ geom (4 * q + 1) n * (4 * q * x + c) ↔ 2 ^ w ∣ n := by
    rw [hodd, (coprime_two_pow_odd w _).dvd_mul_right, two_pow_dvd_geom]
  rw [← hdvd]
  constructor
  · intro h
    rw [h] at hmod
    have hzero : x + 0 ≡ x + geom (4 * q + 1) n * (4 * q * x + c) [MOD 2 ^ w] := hmod
    exact (Nat.modEq_zero_iff_dvd).mp (hzero.add_left_cancel' x).symm
  · intro h
    have hback : x + geom (4 * q + 1) n * (4 * q * x + c) ≡ x + 0 [MOD 2 ^ w] :=
      ((Nat.modEq_zero_iff_dvd).mpr h).add_left x
    exact (hmod.trans hback).eq_of_lt_of_lt (iterate_lt _ hx n) hx

theorem iterate_injective (hc : c % 2 = 1) (hx : x < 2 ^ w) {i j : Nat} (hi : i < 2 ^ w)
    (hj : j < 2 ^ w)
    (h : (step (4 * q + 1) c (2 ^ w))^[i] x = (step (4 * q + 1) c (2 ^ w))^[j] x) : i = j := by
  wlog hij : i ≤ j generalizing i j
  · exact (this hj hi h.symm (Nat.le_of_not_le hij)).symm
  obtain ⟨k, rfl⟩ := Nat.exists_eq_add_of_le hij
  rw [Nat.add_comm i k, Function.iterate_add_apply] at h
  have hk := (iterate_eq_iff hc (iterate_lt _ hx i) k).mp h.symm
  have hzero : k = 0 := Nat.eq_zero_of_dvd_of_lt hk (by omega)
  rw [hzero, Nat.add_zero]

/-- In one period every number comes up once. -/
theorem exists_unique_iterate (hc : c % 2 = 1) (hx : x < 2 ^ w) {v : Nat} (hv : v < 2 ^ w) :
    ∃! n, n < 2 ^ w ∧ (step (4 * q + 1) c (2 ^ w))^[n] x = v := by
  let visit (n : Fin (2 ^ w)) : Fin (2 ^ w) :=
    ⟨(step (4 * q + 1) c (2 ^ w))^[n] x, iterate_lt _ hx n⟩
  have hinj : Function.Injective visit := fun i j h =>
    Fin.ext (iterate_injective hc hx i.isLt j.isLt (congrArg Fin.val h))
  obtain ⟨n, hn⟩ := Finite.surjective_of_injective hinj ⟨v, hv⟩
  have hval : (step (4 * q + 1) c (2 ^ w))^[n] x = v := congrArg Fin.val hn
  exact ⟨n, ⟨n.isLt, hval⟩, fun m hm =>
    iterate_injective hc hx hm.1 n.isLt (hm.2.trans hval.symm)⟩

end
end Lib.Congruential
