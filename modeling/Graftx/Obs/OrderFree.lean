import Graftx.Obs.Snapshot
import Graftx.Lib.Interleaving
import Graftx.Lib.Saturation

/-! What a registry holds and prints depends on which calls were made and not on their order,
nor on the order in which the maps are iterated. Every counter is an exact sum cut off once. -/
namespace Graftx.Obs
open Lib Lib.Entries Lib.Saturation Lib.StableSort

namespace LatencyHist

/-- Bucket 0 is for values below 1, bucket 11 for those of at least 1024, and bucket `i` between
them for those from `2 ^ (i - 1)` on and below `2 ^ i`. -/
def InBucket (i : Fin 12) (micros : Nat) : Prop :=
  if i = 0 then micros < 1
  else if i = 11 then 1024 ≤ micros
  else 2 ^ (i.val - 1) ≤ micros ∧ micros < 2 ^ i.val

instance (i : Fin 12) (micros : Nat) : Decidable (InBucket i micros) := by
  unfold InBucket
  infer_instance

theorem inBucket_iff (i : Fin 12) (n : Nat) :
    InBucket i n ↔ (i.val ≠ 0 → 2 ^ (i.val - 1) ≤ n) ∧ (i.val ≠ 11 → n < 2 ^ i.val) := by
  rw [InBucket]
  split
  · rename_i h
    simp [h]
  · rename_i h0
    have h0 : i.val ≠ 0 := fun h => h0 (Fin.ext h)
    split
    · rename_i h
      have hv : i.val = 11 := congrArg Fin.val h
      simp [hv]
    · rename_i h11
      have h11 : i.val ≠ 11 := fun h => h11 (Fin.ext h)
      simp [h0, h11]

theorem inBucket_unique {i j : Fin 12} {n : Nat} (hi : InBucket i n) (hj : InBucket j n) :
    i = j := by
  have hle {i j : Fin 12} (hi : InBucket i n) (hj : InBucket j n) : j.val ≤ i.val := by
    by_contra hlt
    have hup := ((inBucket_iff i n).mp hi).2 (by omega)
    have hlow := ((inBucket_iff j n).mp hj).1 (by omega)
    have hpow : 2 ^ i.val ≤ 2 ^ (j.val - 1) := Nat.pow_le_pow_right (by decide) (by omega)
    omega
  exact Fin.ext (Nat.le_antisymm (hle hj hi) (hle hi hj))

theorem getElem_upperBoundsUs (i : Nat) (h : i < upperBoundsUs.length) :
    upperBoundsUs[i] = 2 ^ i := by
  simp [show upperBoundsUs = (List.range 11).map (2 ^ ·) from rfl]

theorem inBucket_bucketIndex (n : Nat) : InBucket (bucketIndex n) n := by
  refine (inBucket_iff _ n).mpr ⟨fun h0 => ?_, fun h11 => ?_⟩
  · have hlt : (bucketIndex n).val - 1 < upperBoundsUs.findIdx fun bound => n < bound :=
      Nat.sub_lt (Nat.pos_of_ne_zero h0) (by decide)
    have hpassed := List.not_of_lt_findIdx hlt
    rw [getElem_upperBoundsUs] at hpassed
    simpa using hpassed
  · have hlt : (upperBoundsUs.findIdx fun bound => n < bound) < upperBoundsUs.length :=
      Nat.lt_of_le_of_ne List.findIdx_le_length h11
    have hfound := List.findIdx_getElem (w := hlt)
    rw [getElem_upperBoundsUs] at hfound
    exact of_decide_eq_true hfound

theorem bucketIndex_eq_iff (n : Nat) (i : Fin 12) : bucketIndex n = i ↔ InBucket i n :=
  ⟨fun h => h ▸ inBucket_bucketIndex n, inBucket_unique (inBucket_bucketIndex n)⟩

theorem toNat_counts_record (x : LatencyHist) (d : Duration) (i : Fin 12) :
    (x.record d).counts[i].toNat =
      min (2 ^ 64 - 1) (x.counts[i].toNat + if InBucket i d.asMicros then 1 else 0) := by
  have hlt := x.counts[i].toNat_lt
  simp only [← bucketIndex_eq_iff]
  simp only [record, Fin.getElem_fin, Vector.getElem_set, Fin.val_inj]
  split
  · rename_i h
    subst h
    rw [toNat_saturatingAdd, UInt64.toNat_one]
  · rw [Nat.add_zero]
    simp only [Fin.getElem_fin] at hlt
    omega

theorem toNat_counts_foldl (l : List Duration) (i : Fin 12) :
    ((l.foldl record new).counts[i]).toNat =
      min (2 ^ 64 - 1) (l.countP fun d => InBucket i d.asMicros) := by
  have h := val_foldl (fun x : LatencyHist => x.counts[i].toNat)
    (fun d => if InBucket i d.asMicros then 1 else 0) (fun x d => toNat_counts_record x d i) l new
    (by simp [new])
  have hnew : (new.counts[i]).toNat = 0 := by simp [new]
  rw [h, hnew, Nat.zero_add, ← weight_indicator]
  simp

theorem toNat_count (x : LatencyHist) : x.count.toNat =
    min (2 ^ 64 - 1) (weight (fun i => x.counts[i].toNat) (List.finRange 12)) := by
  have h := val_foldl UInt64.toNat UInt64.toNat toNat_saturatingAdd x.counts.toList 0 (by decide)
  have hlist : x.counts.toList = (List.finRange 12).map fun i => x.counts[i] := by
    refine List.ext_getElem (by simp) fun i hi hi' => ?_
    simp
  rw [count, ← Vector.foldl_toList, h, UInt64.toNat_zero, Nat.zero_add, hlist, weight_map]

theorem toNat_count_foldl (l : List Duration) :
    (l.foldl record new).count.toNat = min (2 ^ 64 - 1) l.length := by
  have hbuckets : (fun i : Fin 12 => ((l.foldl record new).counts[i]).toNat) =
      fun i => min (2 ^ 64 - 1)
        (weight (fun _ => 1) (l.filter fun d => bucketIndex d.asMicros = i)) :=
    funext fun i => by
      rw [toNat_counts_foldl, weight_one, List.countP_eq_length_filter]
      simp only [bucketIndex_eq_iff]
  rw [toNat_count, hbuckets, min_weight, weight_groups _ (fun d => bucketIndex d.asMicros)
    (List.nodup_finRange 12) l fun d _ => List.mem_finRange _, weight_one]

end LatencyHist

def records : List ObsCall → List (String × UInt64 × UInt64) :=
  List.filterMap fun call =>
    match call with
    | .record api bytesOut bytesIn => some (api, bytesOut, bytesIn)
    | .recordLatency _ _ => none

def latencies : List ObsCall → List (String × Duration) :=
  List.filterMap fun call =>
    match call with
    | .record _ _ _ => none
    | .recordLatency api d => some (api, d)

namespace CallStats

theorem record_eq_merge (x : CallStats) (bytesOut bytesIn : UInt64) :
    x.record bytesOut bytesIn = x.merge ⟨1, bytesOut, bytesIn⟩ := rfl

def counters : List (CallStats → UInt64) := [(·.calls), (·.bytesOut), (·.bytesIn)]

theorem toNat_foldl_merge (l : List CallStats) (field : CallStats → UInt64)
    (hf : field ∈ counters) :
    (field (l.foldl merge {})).toNat = min (2 ^ 64 - 1) (weight (fun x => (field x).toNat) l) := by
  have hmerge : field {} = 0 ∧ ∀ x y, field (merge x y) = saturatingAdd (field x) (field y) := by
    simp only [counters, List.mem_cons, List.not_mem_nil, or_false] at hf
    rcases hf with rfl | rfl | rfl <;> exact ⟨rfl, fun _ _ => rfl⟩
  have hval := val_foldl (fun x => (field x).toNat) (fun x => (field x).toNat)
    (fun x y => by rw [hmerge.2, toNat_saturatingAdd]) l {} (by rw [hmerge.1]; decide)
  rw [hval, hmerge.1, UInt64.toNat_zero, Nat.zero_add]

theorem ext_counters {x y : CallStats} (h : ∀ field ∈ counters, (field x).toNat = (field y).toNat) :
    x = y := by
  cases x
  cases y
  simp only [counters, List.forall_mem_cons, UInt64.toNat_inj] at h
  rw [mk.injEq]
  exact ⟨h.1, h.2.1, h.2.2.1⟩

theorem foldl_merge_perm {l l' : List CallStats} (h : l.Perm l') :
    l.foldl merge {} = l'.foldl merge {} := by
  refine ext_counters fun field hf => ?_
  rw [toNat_foldl_merge l field hf, toNat_foldl_merge l' field hf, weight_perm _ h]

end CallStats

namespace LatencyHist

theorem foldl_record_perm {l l' : List Duration} (h : l.Perm l') :
    l.foldl record new = l'.foldl record new := by
  rw [mk.injEq]
  refine Vector.ext fun i hi => UInt64.toNat_inj.mp ?_
  have hl := toNat_counts_foldl l ⟨i, hi⟩
  have hl' := toNat_counts_foldl l' ⟨i, hi⟩
  rw [h.countP_eq] at hl
  exact hl.trans hl'.symm

end LatencyHist

def single (x : String × UInt64 × UInt64) : CallStats := ⟨1, x.2.1, x.2.2⟩

namespace ObsRegistry

theorem run_maps (calls : List ObsCall) :
    (run calls).inner = (records calls).foldl
        (fun m x => upsert m x.1 {} fun stats => stats.record x.2.1 x.2.2) (fun _ => none) ∧
      (run calls).latency = (latencies calls).foldl
        (fun m x => upsert m x.1 .new fun hist => hist.record x.2) (fun _ => none) := by
  induction calls using List.reverseRecOn with
  | nil => exact ⟨rfl, rfl⟩
  | append_singleton calls c ih =>
    obtain ⟨hinner, hlatency⟩ := ih
    have hrun : run (calls ++ [c]) = (run calls).call c := List.foldl_concat ..
    rw [hrun]
    cases c with
    | record api bytesOut bytesIn =>
      have hr : records (calls ++ [.record api bytesOut bytesIn]) =
        records calls ++ [(api, bytesOut, bytesIn)] := List.filterMap_append ..
      have hl : latencies (calls ++ [.record api bytesOut bytesIn]) = latencies calls := by
        simp [latencies]
      rw [hr, hl, List.foldl_concat, ← hinner, ← hlatency]
      exact ⟨rfl, rfl⟩
    | recordLatency api d =>
      have hr : records (calls ++ [.recordLatency api d]) = records calls := by
        simp [records]
      have hl : latencies (calls ++ [.recordLatency api d]) = latencies calls ++ [(api, d)] :=
        List.filterMap_append ..
      rw [hr, hl, List.foldl_concat, ← hinner, ← hlatency]
      exact ⟨rfl, rfl⟩

theorem inner_run (calls : List ObsCall) (key : String) :
    (run calls).inner key = if itemsOf key (records calls) = [] then none
      else some (((itemsOf key (records calls)).map single).foldl .merge {}) := by
  have h := foldl_upsert ({} : CallStats)
    (fun stats (x : UInt64 × UInt64) => stats.record x.1 x.2) (records calls) key
  simp only [CallStats.record_eq_merge] at h
  rw [(run_maps calls).1, List.foldl_map]
  exact h

theorem latency_run (calls : List ObsCall) (key : String) :
    (run calls).latency key = if itemsOf key (latencies calls) = [] then none
      else some (((itemsOf key (latencies calls)).map Prod.snd).foldl .record .new) := by
  rw [(run_maps calls).2, foldl_upsert .new LatencyHist.record, List.foldl_map]

theorem run_perm {calls calls' : List ObsCall} (h : calls.Perm calls') :
    run calls = run calls' := by
  have hr (key : String) : (itemsOf key (records calls)).Perm (itemsOf key (records calls')) :=
    (h.filterMap _).filter _
  have hl (key : String) : (itemsOf key (latencies calls)).Perm (itemsOf key (latencies calls')) :=
    (h.filterMap _).filter _
  rw [mk.injEq]
  constructor
  · funext key
    have hnil : itemsOf key (records calls) = [] ↔ itemsOf key (records calls') = [] :=
      ⟨fun he => (he ▸ hr key).nil_eq.symm, fun he => (he ▸ hr key).eq_nil⟩
    rw [inner_run, inner_run, CallStats.foldl_merge_perm ((hr key).map single)]
    simp only [hnil]
  · funext key
    have hnil : itemsOf key (latencies calls) = [] ↔ itemsOf key (latencies calls') = [] :=
      ⟨fun he => (he ▸ hl key).nil_eq.symm, fun he => (he ▸ hl key).eq_nil⟩
    rw [latency_run, latency_run, LatencyHist.foldl_record_perm ((hl key).map Prod.snd)]
    simp only [hnil]

def exactSum (calls : List ObsCall) (key : String) (field : CallStats → UInt64) : Nat :=
  weight (fun x => (field (single x)).toNat) (itemsOf key (records calls))

/-- What the registry holds, as sums over the calls. -/
structure Sums (calls : List ObsCall) (r : ObsRegistry) : Prop where
  uncounted : ∀ key, r.inner key = none ↔ itemsOf key (records calls) = []
  counted : ∀ key stats, r.inner key = some stats → ∀ field ∈ CallStats.counters,
    (field stats).toNat = min (2 ^ 64 - 1) (exactSum calls key field)
  untimed : ∀ key, r.latency key = none ↔ itemsOf key (latencies calls) = []
  timed : ∀ key hist, r.latency key = some hist →
    (∀ i : Fin 12, hist.counts[i].toNat = min (2 ^ 64 - 1)
      ((itemsOf key (latencies calls)).countP fun x => LatencyHist.InBucket i x.2.asMicros)) ∧
    hist.count.toNat = min (2 ^ 64 - 1) (itemsOf key (latencies calls)).length

theorem sums_run (calls : List ObsCall) : Sums calls (run calls) where
  uncounted key := by
    rw [inner_run]
    split <;> simp [*]
  counted key stats hs field hf := by
    rw [inner_run] at hs
    split at hs
    · cases hs
    · cases hs
      rw [CallStats.toNat_foldl_merge _ field hf, weight_map, exactSum]
  untimed key := by
    rw [latency_run]
    split <;> simp [*]
  timed key hist hs := by
    rw [latency_run] at hs
    split at hs
    · cases hs
    · cases hs
      refine ⟨fun i => ?_, ?_⟩
      · rw [LatencyHist.toNat_counts_foldl, List.countP_map]
        rfl
      · rw [LatencyHist.toNat_count_foldl, List.length_map]

theorem toNat_total (calls : List ObsCall) (rows : Rows) (hrows : Lists (run calls).inner rows)
    (field : CallStats → UInt64) (hf : field ∈ CallStats.counters) :
    (field (total rows)).toNat = min (2 ^ 64 - 1) (weight (fun row => (field row.2).toNat) rows) ∧
      (field (total rows)).toNat =
        min (2 ^ 64 - 1) (weight (fun x => (field (single x)).toNat) (records calls)) := by
  have hsum : (field (total rows)).toNat =
      min (2 ^ 64 - 1) (weight (fun row => (field row.2).toNat) rows) := by
    rw [total, CallStats.toNat_foldl_merge _ field hf, weight_map]
  have hparts : weight (fun row => (field row.2).toNat) rows =
      weight (fun row => min (2 ^ 64 - 1) (exactSum calls row.1 field)) rows :=
    weight_congr fun row hrow =>
      (sums_run calls).counted row.1 row.2 ((hrows.mem_iff row.1 row.2).mp hrow) field hf
  have hkeys : ∀ x ∈ records calls, x.1 ∈ rows.map Prod.fst := fun x hx => by
    cases hs : (run calls).inner x.1 with
    | none =>
      have hnil := ((sums_run calls).uncounted x.1).mp hs
      have hmem : x ∈ itemsOf x.1 (records calls) := List.mem_filter.mpr ⟨hx, by simp⟩
      rw [hnil] at hmem
      cases hmem
    | some stats => exact List.mem_map_of_mem ((hrows.mem_iff x.1 stats).mpr hs)
  refine ⟨hsum, ?_⟩
  rw [hsum, hparts, min_weight, ← weight_map Prod.fst fun key => exactSum calls key field]
  exact congrArg _ (weight_groups _ Prod.fst hrows.nodup (records calls) hkeys)

theorem exists_lists_run (calls : List ObsCall) : ∃ rows, Lists (run calls).inner rows := by
  refine exists_lists _ ((records calls).map Prod.fst) fun key stats hs => ?_
  by_contra hmem
  have hnone := ((sums_run calls).uncounted key).mpr <| List.filter_eq_nil_iff.mpr fun x hx he =>
    hmem (of_decide_eq_true he ▸ List.mem_map_of_mem hx)
  rw [hnone] at hs
  cases hs

/-- The sorted rows are the same for every order in which the map may be iterated. -/
theorem snapshotSorted_eq {m : String → Option CallStats} {rows rows' : Rows}
    (h : Lists m rows) (h' : Lists m rows') : snapshotSorted rows = snapshotSorted rows' :=
  sortByKey_eq_of_perm (h.perm h') h.nodup

theorem foldl_snapshotSorted (rows : Rows) :
    (snapshotSorted rows).foldl (fun total row => total.merge row.2) {} = total rows := by
  have hperm : ((snapshotSorted rows).map Prod.snd).Perm (rows.map Prod.snd) :=
    (sortByKey_perm _ rows).map _
  rw [total, ← CallStats.foldl_merge_perm hperm, List.foldl_map]

/-- What comes out of the calls. -/
structure Outcome (calls : List ObsCall) : Prop where
  /-- The maps do not depend on who makes the calls and when. -/
  registry : ∀ threads log, threads.flatten.Perm calls → Schedules threads log →
    run log = run calls
  /-- They can be iterated in some order, -/
  iterates : ∃ rows, Lists (run calls).inner rows
  /-- and no reading depends on which. -/
  readings : ∀ rows rows', Lists (run calls).inner rows → Lists (run calls).inner rows' →
    snapshotSorted rows = snapshotSorted rows' ∧ total rows = total rows' ∧
      report rows = report rows' ∧ toJson rows = toJson rows'
  /-- Each counter and each bucket is the exact sum, cut off. -/
  sums : Sums calls (run calls)
  /-- So is each counter of the total, which is also what the two texts end with. -/
  totals : ∀ rows, Lists (run calls).inner rows →
    (∀ field ∈ CallStats.counters,
      (field (total rows)).toNat =
        min (2 ^ 64 - 1) (weight (fun row => (field row.2).toNat) rows) ∧
      (field (total rows)).toNat =
        min (2 ^ 64 - 1) (weight (fun x => (field (single x)).toNat) (records calls))) ∧
    (snapshotSorted rows).foldl (fun total row => total.merge row.2) {} = total rows

theorem order_independent (calls : List ObsCall) : Outcome calls where
  registry threads log hcalls hlog := run_perm (hlog.perm.trans hcalls)
  iterates := exists_lists_run calls
  readings rows rows' h h' := by
    have hsorted := snapshotSorted_eq h h'
    refine ⟨hsorted, ?_, ?_, ?_⟩
    · rw [← foldl_snapshotSorted, hsorted, foldl_snapshotSorted]
    · rw [report, hsorted, report]
    · rw [toJson, hsorted, toJson]
  sums := sums_run calls
  totals rows h := ⟨toNat_total calls rows h, foldl_snapshotSorted rows⟩

end ObsRegistry
end Graftx.Obs
