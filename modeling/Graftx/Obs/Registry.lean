import Mathlib.Algebra.Group.Nat.Defs
import Mathlib.Data.List.Basic

/-! The metrics registry: counters by API name that stop at the largest 64-bit number. What a
number of records adds up to is the exact sum, cut off once at the end. -/
namespace Graftx.Obs

/-- `u64::saturating_add`. -/
def saturatingAdd (a b : UInt64) : UInt64 :=
  if a.toNat + b.toNat < 2 ^ 64 then a + b else UInt64.ofNat (2 ^ 64 - 1)

theorem toNat_saturatingAdd (a b : UInt64) :
    (saturatingAdd a b).toNat = min (2 ^ 64 - 1) (a.toNat + b.toNat) := by
  rw [saturatingAdd]
  split
  · rename_i h
    rw [UInt64.toNat_add, Nat.mod_eq_of_lt h]
    omega
  · rename_i h
    have hmax : (UInt64.ofNat (2 ^ 64 - 1)).toNat = 2 ^ 64 - 1 := by decide
    rw [hmax]
    omega

structure CallStats where
  calls : UInt64 := 0
  bytesOut : UInt64 := 0
  bytesIn : UInt64 := 0
  deriving DecidableEq

def CallStats.record (x : CallStats) (bytesOut bytesIn : UInt64) : CallStats where
  calls := saturatingAdd x.calls 1
  bytesOut := saturatingAdd x.bytesOut bytesOut
  bytesIn := saturatingAdd x.bytesIn bytesIn

def CallStats.merge (x other : CallStats) : CallStats where
  calls := saturatingAdd x.calls other.calls
  bytesOut := saturatingAdd x.bytesOut other.bytesOut
  bytesIn := saturatingAdd x.bytesIn other.bytesIn

structure Duration where
  secs : UInt64
  nanos : UInt32
  nanos_lt : nanos.toNat < 1000000000

/-- Whole microseconds; 128 bits hold every value. -/
def Duration.asMicros (d : Duration) : Nat := d.secs.toNat * 1000000 + d.nanos.toNat / 1000

structure LatencyHist where
  counts : Vector UInt64 12

namespace LatencyHist

def upperBoundsUs : List Nat := [1, 2, 4, 8, 16, 32, 64, 128, 256, 512, 1024]

def new : LatencyHist := ⟨Vector.replicate 12 0⟩

/-- The first bucket whose bound the value is under; with none it is bucket 11, which is where
the search ends. -/
def bucketIndex (micros : Nat) : Fin 12 :=
  ⟨upperBoundsUs.findIdx fun bound => micros < bound, Nat.lt_succ_of_le List.findIdx_le_length⟩

def record (x : LatencyHist) (d : Duration) : LatencyHist :=
  let index := bucketIndex d.asMicros
  { x with counts := x.counts.set index (saturatingAdd x.counts[index] 1) }

def count (x : LatencyHist) : UInt64 := x.counts.foldl saturatingAdd 0

end LatencyHist

structure ObsRegistry where
  inner : String → Option CallStats
  latency : String → Option LatencyHist

namespace ObsRegistry

def new : ObsRegistry := ⟨fun _ => none, fun _ => none⟩

def record (r : ObsRegistry) (api : String) (bytesOut bytesIn : UInt64) : ObsRegistry :=
  { r with
    inner := fun key =>
      if key = api then some (((r.inner api).getD {}).record bytesOut bytesIn) else r.inner key }

def recordLatency (r : ObsRegistry) (api : String) (d : Duration) : ObsRegistry :=
  { r with
    latency := fun key =>
      if key = api then some (((r.latency api).getD .new).record d) else r.latency key }

theorem inner_record (r : ObsRegistry) (api key : String) (bytesOut bytesIn : UInt64) :
    (r.record api bytesOut bytesIn).inner key =
      if key = api then some (((r.inner key).getD {}).record bytesOut bytesIn)
      else r.inner key := by
  simp only [record]
  split
  · rename_i h
    rw [h]
  · rfl

end ObsRegistry

structure CallRecord where
  api : String
  requestLen : Nat
  replyLen : Nat

def total (ns : List Nat) : Nat := ns.foldr (· + ·) 0

@[simp] theorem total_nil : total [] = 0 := rfl

@[simp] theorem total_cons (n : Nat) (ns : List Nat) : total (n :: ns) = n + total ns := rfl

/-- The counters `after` are the counters `before` and the calls on top, each sum cut off at
the largest 64-bit number. -/
structure Adds (before after : CallStats) (l : List CallRecord) : Prop where
  calls : after.calls.toNat = min (2 ^ 64 - 1) (before.calls.toNat + l.length)
  bytesOut : after.bytesOut.toNat =
    min (2 ^ 64 - 1) (before.bytesOut.toNat + total (l.map (·.requestLen)))
  bytesIn : after.bytesIn.toNat =
    min (2 ^ 64 - 1) (before.bytesIn.toNat + total (l.map (·.replyLen)))

theorem Adds.nil (x : CallStats) : Adds x x [] where
  calls := by
    have h := x.calls.toNat_lt
    rw [List.length_nil]
    omega
  bytesOut := by
    have h := x.bytesOut.toNat_lt
    rw [List.map_nil, total_nil]
    omega
  bytesIn := by
    have h := x.bytesIn.toNat_lt
    rw [List.map_nil, total_nil]
    omega

theorem Adds.cons (x y : CallStats) (call : CallRecord) (l : List CallRecord)
    (hout : call.requestLen < 2 ^ 64) (hin : call.replyLen < 2 ^ 64)
    (h : Adds (x.record (UInt64.ofNat call.requestLen) (UInt64.ofNat call.replyLen)) y l) :
    Adds x y (call :: l) where
  calls := by
    have h' := h.calls
    rw [CallStats.record, toNat_saturatingAdd, UInt64.toNat_one] at h'
    rw [h', List.length_cons]
    omega
  bytesOut := by
    have h' := h.bytesOut
    rw [CallStats.record, toNat_saturatingAdd, UInt64.toNat_ofNat_of_lt' hout] at h'
    rw [h', List.map_cons, total_cons]
    omega
  bytesIn := by
    have h' := h.bytesIn
    rw [CallStats.record, toNat_saturatingAdd, UInt64.toNat_ofNat_of_lt' hin] at h'
    rw [h', List.map_cons, total_cons]
    omega

/-- The registry `after` is the registry `before` with the calls counted under their names:
a name without a call is untouched, any other has an entry that adds them up. -/
structure Counts (before after : ObsRegistry) (calls : List CallRecord) : Prop where
  untouched : ∀ key, (∀ call ∈ calls, call.api ≠ key) → after.inner key = before.inner key
  counted : ∀ key, (∃ call ∈ calls, call.api = key) → ∃ stats, after.inner key = some stats ∧
    Adds ((before.inner key).getD {}) stats (calls.filter fun call => call.api = key)
  latency : after.latency = before.latency

theorem Counts.nil (r : ObsRegistry) : Counts r r [] where
  untouched _ _ := rfl
  counted key h := by
    obtain ⟨call, hmem, -⟩ := h
    cases hmem
  latency := rfl

theorem Counts.cons (before after : ObsRegistry) (call : CallRecord) (calls : List CallRecord)
    (hout : call.requestLen < 2 ^ 64) (hin : call.replyLen < 2 ^ 64)
    (h : Counts (before.record call.api (UInt64.ofNat call.requestLen)
      (UInt64.ofNat call.replyLen)) after calls) : Counts before after (call :: calls) where
  untouched key hnone := by
    have hne : key ≠ call.api := (hnone call List.mem_cons_self).symm
    rw [h.untouched key fun c hc => hnone c (List.mem_cons_of_mem call hc),
      ObsRegistry.inner_record, if_neg hne]
  counted key hsome := by
    by_cases hlater : ∃ c ∈ calls, c.api = key
    · obtain ⟨stats, hstats, hadds⟩ := h.counted key hlater
      refine ⟨stats, hstats, ?_⟩
      rw [ObsRegistry.inner_record] at hadds
      by_cases hkey : call.api = key
      · rw [if_pos hkey.symm, Option.getD_some] at hadds
        rw [List.filter_cons_of_pos (by simp [hkey])]
        exact .cons _ _ call _ hout hin hadds
      · rw [if_neg (Ne.symm hkey)] at hadds
        rwa [List.filter_cons_of_neg (by simp [hkey])]
    · have hnone : ∀ c ∈ calls, c.api ≠ key := fun c hc he => hlater ⟨c, hc, he⟩
      have hkey : call.api = key := by
        obtain ⟨c, hc, he⟩ := hsome
        obtain rfl | hc := List.mem_cons.mp hc
        · exact he
        · exact absurd he (hnone c hc)
      have hrest : calls.filter (fun c => c.api = key) = [] :=
        List.filter_eq_nil_iff.mpr fun c hc he => hnone c hc (of_decide_eq_true he)
      refine ⟨((before.inner key).getD {}).record (UInt64.ofNat call.requestLen)
        (UInt64.ofNat call.replyLen), ?_, ?_⟩
      · rw [h.untouched key hnone, ObsRegistry.inner_record, if_pos hkey.symm]
      · rw [List.filter_cons_of_pos (by simp [hkey]), hrest]
        exact .cons _ _ call [] hout hin (.nil _)
  latency := h.latency

end Graftx.Obs
