import Graftx.Lib.Congruential
import Graftx.Protocol.Reader

/-! The fuzzer's source of bytes: a congruential generator over 64-bit words, and the buffers cut
from its words. -/
namespace Graftx.Fuzz
open Graftx.Protocol Lib.Congruential Lib.LittleEndian

structure Lcg where
  state : UInt64
  deriving DecidableEq

namespace Lcg

def multiplier : UInt64 := 6364136223846793005

def increment : UInt64 := 1442695040888963407

theorem toNat_multiplier : multiplier.toNat = 4 * 1591034055961698251 + 1 := rfl

theorem toNat_increment : increment.toNat = 1442695040888963407 := rfl

theorem increment_odd : 1442695040888963407 % 2 = 1 := by decide

def new (seed : UInt64) : Lcg := ⟨seed⟩

def nextU64 (rng : Lcg) : UInt64 × Lcg :=
  let state := rng.state * multiplier + increment
  (state, ⟨state⟩)

/-- The bound is not zero. -/
def nextBelow (rng : Lcg) (bound : Nat) : Nat × Lcg :=
  let (x, rng) := rng.nextU64
  (x.toNat % bound, rng)

def next (rng : Lcg) : Lcg := rng.nextU64.2

theorem nextU64_eq (rng : Lcg) : rng.nextU64 = (rng.next.state, rng.next) := rfl

def advance (n : Nat) (rng : Lcg) : Lcg := next^[n] rng

theorem advance_succ (n : Nat) (rng : Lcg) : advance (n + 1) rng = advance n rng.next :=
  Function.iterate_succ_apply next n rng

theorem next_advance (n : Nat) (rng : Lcg) : (advance n rng).next = advance n rng.next := by
  rw [advance, advance, ← Function.iterate_succ_apply' next n rng, Function.iterate_succ_apply]

theorem toNat_next (rng : Lcg) : rng.next.state.toNat =
    step (4 * 1591034055961698251 + 1) 1442695040888963407 (2 ^ 64) rng.state.toNat := by
  have hstate : rng.next.state = rng.state * multiplier + increment := rfl
  rw [hstate, UInt64.toNat_add, UInt64.toNat_mul, toNat_multiplier, toNat_increment, step,
    Nat.mod_add_mod, Nat.mul_comm rng.state.toNat]

theorem toNat_advance (n : Nat) (rng : Lcg) : (advance n rng).state.toNat =
    (step (4 * 1591034055961698251 + 1) 1442695040888963407 (2 ^ 64))^[n] rng.state.toNat := by
  induction n generalizing rng with
  | zero => rfl
  | succ n ih => rw [advance_succ, ih, toNat_next, Function.iterate_succ_apply]

theorem ext_toNat {a b : Lcg} (h : a.state.toNat = b.state.toNat) : a = b := by
  obtain ⟨a⟩ := a
  obtain ⟨b⟩ := b
  exact congrArg mk (UInt64.toNat_inj.mp h)

theorem advance_injective {rng : Lcg} {i j : Nat} (hi : i < 2 ^ 64) (hj : j < 2 ^ 64)
    (h : advance i rng = advance j rng) : i = j := by
  refine iterate_injective (q := 1591034055961698251) increment_odd rng.state.toNat_lt hi hj ?_
  rw [← toNat_advance, ← toNat_advance, h]

/-- From any seed the generator comes back to its state after the multiples of `2 ^ 64` draws
and only then, and any `2 ^ 64` draws in a row give every 64-bit value exactly once. -/
theorem full_period (rng : Lcg) : (∀ n, advance n rng = rng ↔ 2 ^ 64 ∣ n) ∧
    ∀ v, ∃! n, n < 2 ^ 64 ∧ (advance n rng).nextU64.1 = v := by
  constructor
  · intro n
    have hback := iterate_eq_iff (q := 1591034055961698251) increment_odd rng.state.toNat_lt n
    rw [← toNat_advance] at hback
    exact ⟨fun h => hback.mp (by rw [h]), fun h => ext_toNat (hback.mpr h)⟩
  · intro v
    obtain ⟨n, ⟨hn, hv⟩, honly⟩ := exists_unique_iterate (q := 1591034055961698251) increment_odd
      rng.next.state.toNat_lt v.toNat_lt
    rw [← toNat_advance, UInt64.toNat_inj] at hv
    refine ⟨n, ⟨hn, ?_⟩, fun m hm => honly m ⟨hm.1, ?_⟩⟩
    · rw [nextU64_eq, next_advance]
      exact hv
    · have hm' := hm.2
      rw [nextU64_eq, next_advance] at hm'
      rw [← toNat_advance]
      exact congrArg UInt64.toNat hm'

def words (rng : Lcg) (start : Nat) : Nat → Bytes
  | 0 => []
  | count + 1 => le64 (advance start rng).nextU64.1 ++ words rng (start + 1) count

theorem length_words (rng : Lcg) (start count : Nat) :
    (words rng start count).length = 8 * count := by
  induction count generalizing start with
  | zero => rfl
  | succ count ih =>
    rw [words, List.length_append, ih, le64, leBytes_length]
    omega

end Lcg
open Lcg

def maxBufLen : Nat := 64

/-- The loop of `fill_buf`: whole words, and of the last as much as is missing. -/
def fillLoop (len : Nat) (rng : Lcg) (buf : Bytes) : Lcg × Bytes :=
  if buf.length < len then
    let (x, rng) := rng.nextU64
    let word := le64 x
    let take := min (len - buf.length) word.length
    fillLoop len rng (buf ++ word.take take)
  else (rng, buf)
termination_by len - buf.length
decreasing_by
  simp only [List.length_append, List.length_take, le64, leBytes_length]
  omega

def fillBuf (rng : Lcg) : Lcg × Bytes :=
  let (len, rng) := rng.nextBelow (maxBufLen + 1)
  fillLoop len rng []

/-- The draws for a buffer of so many bytes, without the one for its length. -/
def wordsFor (len : Nat) : Nat := (len + 7) / 8

theorem wordsFor_of_pos {m : Nat} (h : 0 < m) : wordsFor m = wordsFor (m - min m 8) + 1 := by
  unfold wordsFor
  omega

theorem fillLoop_eq (len : Nat) (rng : Lcg) (start : Nat) (buf : Bytes) (h : buf.length ≤ len) :
    fillLoop len (advance start rng) buf =
      (advance (start + wordsFor (len - buf.length)) rng,
        buf ++ (words rng start (wordsFor (len - buf.length))).take (len - buf.length)) := by
  generalize hm : len - buf.length = m
  induction m using Nat.strong_induction_on generalizing start buf with
  | _ m ih =>
    rw [fillLoop]
    by_cases hmore : buf.length < len
    · have hword : (le64 (advance start rng).nextU64.1).length = 8 := leBytes_length 8 _
      have hstep : (advance start rng).nextU64.2 = advance (start + 1) rng := by
        rw [nextU64_eq, next_advance, ← advance_succ]
      rw [if_pos hmore]
      simp only [hword, hm, hstep]
      generalize hx : le64 (advance start rng).nextU64.1 = word at hword ⊢
      have hlen : (buf ++ word.take (min m 8)).length = buf.length + min m 8 := by
        rw [List.length_append, List.length_take, hword, Nat.min_assoc, Nat.min_self]
      rw [ih (m - min m 8) (by omega) (start + 1) (buf ++ word.take (min m 8)) (by omega)
        (by omega), wordsFor_of_pos (m := m) (by omega), words, hx, List.take_append, hword,
        List.append_assoc, ← hword, ← List.take_eq_take_min]
      have hrest : m - min m word.length = m - word.length := by omega
      rw [hrest, Nat.add_assoc, Nat.add_comm 1]
    · rw [if_neg hmore]
      have hzero : m = 0 := by omega
      rw [hzero, wordsFor, words, List.take_nil, List.append_nil, Nat.add_zero]

def lenAt (rng : Lcg) (start : Nat) : Nat := (advance start rng).nextU64.1.toNat % (maxBufLen + 1)

def bufferAt (rng : Lcg) (start : Nat) : Bytes :=
  (words rng (start + 1) (wordsFor (lenAt rng start))).take (lenAt rng start)

def startOf (rng : Lcg) : Nat → Nat
  | 0 => 0
  | i + 1 => startOf rng i + 1 + wordsFor (lenAt rng (startOf rng i))

theorem lenAt_le (rng : Lcg) (start : Nat) : lenAt rng start ≤ maxBufLen :=
  Nat.le_of_lt_succ (Nat.mod_lt _ (Nat.succ_pos _))

theorem length_bufferAt (rng : Lcg) (start : Nat) :
    (bufferAt rng start).length = lenAt rng start := by
  rw [bufferAt, List.length_take, length_words]
  unfold wordsFor
  omega

theorem fillBuf_advance (rng : Lcg) (start : Nat) : fillBuf (advance start rng) =
    (advance (start + 1 + wordsFor (lenAt rng start)) rng, bufferAt rng start) := by
  have hdraw : (advance start rng).nextBelow (maxBufLen + 1) =
      (lenAt rng start, advance (start + 1) rng) := by
    rw [nextBelow, lenAt, nextU64_eq, next_advance, ← advance_succ]
  rw [fillBuf, hdraw]
  simp only [fillLoop_eq _ rng (start + 1) [] (Nat.zero_le _)]
  rw [List.length_nil, Nat.sub_zero, List.nil_append, bufferAt]

theorem fillBuf_startOf (rng : Lcg) (i : Nat) : fillBuf (advance (startOf rng i) rng) =
    (advance (startOf rng (i + 1)) rng, bufferAt rng (startOf rng i)) := by
  rw [fillBuf_advance, startOf]

theorem startOf_strictMono (rng : Lcg) : StrictMono (startOf rng) :=
  strictMono_nat_of_lt_succ fun i => by
    rw [startOf]
    omega

theorem startOf_le (rng : Lcg) (i : Nat) : startOf rng i ≤ 9 * i := by
  induction i with
  | zero => exact Nat.le_refl 0
  | succ i ih =>
    have hlen := lenAt_le rng (startOf rng i)
    rw [startOf]
    unfold wordsFor
    unfold maxBufLen at hlen
    omega

end Graftx.Fuzz
