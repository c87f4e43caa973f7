import Graftx.Obs.OrderFree
import Graftx.Lib.Lines

/-! The text of the latency histograms. Names are taken to have no newline in them; the text
then tells the histograms, whatever the order in which the map was read out. -/
namespace Graftx.Obs
open Lib Lib.Entries Lib.Lines Lib.Numerals Lib.StableSort

namespace LatencyHist

def lastBoundUs : Nat := upperBoundsUs.getLast (by decide)

/-- The row of bucket `i`; an empty bucket has none. -/
def reportRow (i : Nat) (count : UInt64) : List Char :=
  if count = 0 then []
  else match upperBoundsUs[i]? with
    | some bound =>
      "| <".toList ++ decimal bound ++ "us | ".toList ++ decimal count.toNat ++ " |\n".toList
    | none =>
      "| >=".toList ++ decimal lastBoundUs ++ "us | ".toList ++ decimal count.toNat ++
        " |\n".toList

def reportHead : List Char := "| bucket | count |\n| --- | --- |\n".toList

def report (x : LatencyHist) : List Char :=
  reportHead ++ x.counts.toList.zipIdx.flatMap fun p => reportRow p.2 p.1

/-! ### The same by lines -/

def bucketName (i : Nat) : List Char :=
  match upperBoundsUs[i]? with
  | some bound => '<' :: (decimal bound ++ "us".toList)
  | none => '>' :: '=' :: (decimal lastBoundUs ++ "us".toList)

def rowLine (count : UInt64) (i : Nat) : List Char :=
  "| ".toList ++ (bucketName i ++ ' ' :: ("| ".toList ++ (decimal count.toNat ++ " |".toList)))

def filled (x : LatencyHist) : List (UInt64 × Nat) :=
  x.counts.toList.zipIdx.filter fun p => p.1 ≠ 0

def reportLines (x : LatencyHist) : List (List Char) :=
  "| bucket | count |".toList :: "| --- | --- |".toList ::
    x.filled.map fun p => rowLine p.1 p.2

theorem reportRow_eq (i : Nat) (count : UInt64) :
    reportRow i count = if count = 0 then [] else rowLine count i ++ ['\n'] := by
  rw [reportRow, rowLine, bucketName]
  split
  · rfl
  · cases upperBoundsUs[i]? <;> simp

theorem report_eq (x : LatencyHist) : x.report = unlines x.reportLines := by
  have hrows (l : List (UInt64 × Nat)) : (l.flatMap fun p => reportRow p.2 p.1) =
      unlines ((l.filter fun p => p.1 ≠ 0).map fun p => rowLine p.1 p.2) := by
    induction l with
    | nil => rfl
    | cons p l ih =>
      rw [List.flatMap_cons, ih, reportRow_eq]
      by_cases hp : p.1 = 0 <;> simp [hp]
  have hhead : reportHead =
      "| bucket | count |".toList ++ '\n' :: ("| --- | --- |".toList ++ ['\n']) := rfl
  rw [report, hrows, reportLines, unlines_cons, unlines_cons, hhead]
  simp only [List.append_assoc, List.cons_append, List.nil_append]
  rfl

theorem bucketName_injective {i j : Nat} (hi : i < 12) (hj : j < 12)
    (h : bucketName i = bucketName j) : i = j := by
  have hbound {k : Nat} (hk : k < 11) : upperBoundsUs[k]? = some (2 ^ k) := by
    rw [List.getElem?_eq_getElem (show k < upperBoundsUs.length from hk), getElem_upperBoundsUs]
  have hlast : upperBoundsUs[11]? = none := rfl
  rcases Nat.lt_succ_iff_lt_or_eq.mp hi with hi | rfl <;>
    rcases Nat.lt_succ_iff_lt_or_eq.mp hj with hj | rfl
  · simp only [bucketName, hbound hi, hbound hj, List.cons.injEq, true_and,
      List.append_left_inj] at h
    exact Nat.pow_right_injective (Nat.le_refl 2) (decimal_injective h)
  · simp [bucketName, hbound hi, hlast] at h
  · simp [bucketName, hbound hj, hlast] at h
  · rfl

theorem plain_decimal {c : Char} (hc : ¬ c.isDigit) (n : Nat) : c ∉ decimal n :=
  fun h => hc (isDigit_decimal h)

theorem plain_bucketName {c : Char} (hc : c = ' ' ∨ c = '\n') (i : Nat) : c ∉ bucketName i := by
  have hdigit (n : Nat) : c ∉ decimal n := plain_decimal (by rcases hc with rfl | rfl <;> decide) n
  rw [bucketName]
  cases upperBoundsUs[i]? <;> rcases hc with rfl | rfl <;> simp [hdigit]

theorem rowLine_injective {p q : UInt64 × Nat} (hp : p.2 < 12) (hq : q.2 < 12)
    (h : rowLine p.1 p.2 = rowLine q.1 q.2) : p = q := by
  rw [rowLine, rowLine, List.append_cancel_left_eq] at h
  obtain ⟨hname, hcount⟩ := append_cons_inj (plain_bucketName (.inl rfl) _)
    (plain_bucketName (.inl rfl) _) h
  rw [List.append_cancel_left_eq, List.append_left_inj] at hcount
  exact Prod.ext (UInt64.toNat_inj.mp (decimal_injective hcount))
    (bucketName_injective hp hq hname)

theorem mem_filled (x : LatencyHist) (count : UInt64) (i : Nat) :
    (count, i) ∈ x.filled ↔ x.counts[i]? = some count ∧ count ≠ 0 := by
  simp [filled, List.mem_filter, List.mem_zipIdx_iff_getElem?]

theorem lt_of_mem_filled {x : LatencyHist} {p : UInt64 × Nat} (h : p ∈ x.filled) : p.2 < 12 := by
  obtain ⟨hcount, -⟩ := (mem_filled x p.1 p.2).mp h
  exact (Vector.getElem?_eq_some_iff.mp hcount).1

theorem reportLines_injective {x y : LatencyHist} (h : x.reportLines = y.reportLines) : x = y := by
  rw [reportLines, reportLines, List.cons.injEq, List.cons.injEq] at h
  have hfilled : x.filled = y.filled :=
    map_inj_on (fun p q hp hq => rowLine_injective hp hq) (fun _ => lt_of_mem_filled)
      (fun _ => lt_of_mem_filled) h.2.2
  have hcounts (i : Nat) (hi : i < 12) : x.counts[i] = y.counts[i] := by
    by_contra hne
    have hboth (u v : LatencyHist) (huv : u.filled = v.filled) (hu : u.counts[i] ≠ v.counts[i]) :
        u.counts[i] = 0 := by
      by_contra hzero
      have hmem := (mem_filled u u.counts[i] i).mpr ⟨Vector.getElem?_eq_getElem hi, hzero⟩
      rw [huv, mem_filled, Vector.getElem?_eq_getElem hi, Option.some.injEq] at hmem
      exact hu hmem.1.symm
    exact hne ((hboth x y hfilled hne).trans (hboth y x hfilled.symm (Ne.symm hne)).symm)
  rw [mk.injEq]
  exact Vector.ext hcounts

theorem plain_reportLines (x : LatencyHist) :
    ∀ l ∈ x.reportLines, '\n' ∉ l ∧ l.head? ≠ some '#' := by
  intro l hl
  simp only [reportLines, List.mem_cons, List.mem_map] at hl
  rcases hl with rfl | rfl | ⟨p, -, rfl⟩
  · decide
  · decide
  · have hname := plain_bucketName (c := '\n') (.inr rfl) p.2
    have hcount := plain_decimal (c := '\n') (by decide) p.1.toNat
    simp [rowLine, hname, hcount]

end LatencyHist

namespace ObsRegistry

def latencyHeading (api : String) : List Char := "### ".toList ++ api.toList

def latencyReport (rows : List (String × LatencyHist)) : List Char :=
  (sortByKey Prod.fst rows).flatMap fun row =>
    latencyHeading row.1 ++ ['\n'] ++ row.2.report

theorem latencyReport_eq (rows : List (String × LatencyHist)) : latencyReport rows =
    unlines ((sortByKey Prod.fst rows).flatMap fun row =>
      latencyHeading row.1 :: row.2.reportLines) := by
  rw [latencyReport]
  induction sortByKey Prod.fst rows with
  | nil => rfl
  | cons row rows ih =>
    rw [List.flatMap_cons, List.flatMap_cons, ih, LatencyHist.report_eq]
    simp [unlines]

theorem latencyReport_inj {rows rows' : List (String × LatencyHist)}
    (hn : ∀ row ∈ rows, '\n' ∉ row.1.toList) (hn' : ∀ row ∈ rows', '\n' ∉ row.1.toList)
    (h : latencyReport rows = latencyReport rows') :
    sortByKey Prod.fst rows = sortByKey Prod.fst rows' := by
  have hsorted {l : List (String × LatencyHist)} (hl : ∀ row ∈ l, '\n' ∉ row.1.toList) :
      ∀ row ∈ sortByKey Prod.fst l, '\n' ∉ row.1.toList := fun row hrow =>
    hl row ((sortByKey_perm Prod.fst l).mem_iff.mp hrow)
  have hlines {l : List (String × LatencyHist)} (hl : ∀ row ∈ l, '\n' ∉ row.1.toList) :
      ∀ line ∈ l.flatMap fun row => latencyHeading row.1 :: row.2.reportLines, '\n' ∉ line := by
    intro line hline
    obtain ⟨row, hrow, hline⟩ := List.mem_flatMap.mp hline
    rcases List.mem_cons.mp hline with rfl | hline
    · simp [latencyHeading, hl row hrow]
    · exact (row.2.plain_reportLines line hline).1
  rw [latencyReport_eq, latencyReport_eq] at h
  refine sections_inj (fun l => l.head? = some '#') (fun _ => rfl)
    (fun row l hl => (row.2.plain_reportLines l hl).2) (fun a b hhead hbody => ?_)
    (unlines_inj (hlines (hsorted hn)) (hlines (hsorted hn')) h)
  rw [latencyHeading, latencyHeading, List.append_cancel_left_eq] at hhead
  exact Prod.ext (String.toList_inj.mp hhead) (LatencyHist.reportLines_injective hbody)

def bucketed (calls : List ObsCall) (key : String) (i : Fin 12) : Nat :=
  (itemsOf key (latencies calls)).countP fun x => LatencyHist.InBucket i x.2.asMicros

theorem latency_eq_none_iff (calls : List ObsCall) (key : String) :
    (run calls).latency key = none ↔ ∀ i, min (2 ^ 64 - 1) (bucketed calls key i) = 0 := by
  rw [(sums_run calls).untimed]
  constructor
  · intro h i
    rw [bucketed, h]
    rfl
  · intro h
    refine List.eq_nil_iff_forall_not_mem.mpr fun x hx => ?_
    have hpos : 0 < bucketed calls key (LatencyHist.bucketIndex x.2.asMicros) :=
      List.countP_pos_iff.mpr ⟨x, hx, decide_eq_true (LatencyHist.inBucket_bucketIndex _)⟩
    have hzero := h (LatencyHist.bucketIndex x.2.asMicros)
    omega

theorem latency_eq_iff (calls calls' : List ObsCall) :
    (run calls).latency = (run calls').latency ↔
      ∀ key i, min (2 ^ 64 - 1) (bucketed calls key i) =
        min (2 ^ 64 - 1) (bucketed calls' key i) := by
  constructor
  · intro h key i
    cases hr : (run calls).latency key with
    | none =>
      rw [(latency_eq_none_iff calls key).mp hr,
        (latency_eq_none_iff calls' key).mp (by rw [← h, hr])]
    | some hist =>
      have hi := ((sums_run calls).timed key hist hr).1 i
      have hi' := ((sums_run calls').timed key hist (h ▸ hr)).1 i
      exact hi.symm.trans hi'
  · intro h
    funext key
    have hnone : (run calls).latency key = none ↔ (run calls').latency key = none := by
      rw [latency_eq_none_iff, latency_eq_none_iff]
      simp only [h]
    cases hr : (run calls).latency key with
    | none => exact (hnone.mp hr).symm
    | some hist =>
      cases hr' : (run calls').latency key with
      | none => rw [hnone.mpr hr'] at hr; cases hr
      | some hist' =>
        rw [Option.some.injEq, LatencyHist.mk.injEq]
        refine Vector.ext fun i hi => UInt64.toNat_inj.mp ?_
        have hi₁ := ((sums_run calls).timed key hist hr).1 ⟨i, hi⟩
        have hi₂ := ((sums_run calls').timed key hist' hr').1 ⟨i, hi⟩
        exact hi₁.trans ((h key ⟨i, hi⟩).trans hi₂.symm)

theorem plain_rows {calls : List ObsCall} (hn : ∀ x ∈ latencies calls, '\n' ∉ x.1.toList)
    {rows : List (String × LatencyHist)} (h : Lists (run calls).latency rows) :
    ∀ row ∈ rows, '\n' ∉ row.1.toList := by
  intro row hrow
  have hsome := (h.mem_iff row.1 row.2).mp hrow
  by_contra hnl
  have hnone := ((sums_run calls).untimed row.1).mpr <| List.filter_eq_nil_iff.mpr fun x hx he =>
    hn x hx (of_decide_eq_true he ▸ hnl)
  rw [hnone] at hsome
  cases hsome

theorem exists_lists_latency (calls : List ObsCall) :
    ∃ rows, Lists (run calls).latency rows := by
  refine exists_lists _ ((latencies calls).map Prod.fst) fun key hist hs => ?_
  by_contra hmem
  have hnone := ((sums_run calls).untimed key).mpr <| List.filter_eq_nil_iff.mpr fun x hx he =>
    hmem (of_decide_eq_true he ▸ List.mem_map_of_mem hx)
  rw [hnone] at hs
  cases hs

/-- Two logs give the same text exactly when no bucket of any name tells them apart, whichever
way the two maps were read out. -/
theorem latencyReport_tells {calls calls' : List ObsCall}
    (hn : ∀ x ∈ latencies calls, '\n' ∉ x.1.toList)
    (hn' : ∀ x ∈ latencies calls', '\n' ∉ x.1.toList) {rows rows' : List (String × LatencyHist)}
    (h : Lists (run calls).latency rows) (h' : Lists (run calls').latency rows') :
    latencyReport rows = latencyReport rows' ↔
      ∀ key i, min (2 ^ 64 - 1) (bucketed calls key i) =
        min (2 ^ 64 - 1) (bucketed calls' key i) := by
  rw [← latency_eq_iff]
  constructor
  · intro htext
    have hsorted := latencyReport_inj (plain_rows hn h) (plain_rows hn' h') htext
    have hmem (row : String × LatencyHist) : row ∈ rows ↔ row ∈ rows' := by
      rw [← (sortByKey_perm Prod.fst rows).mem_iff, hsorted,
        (sortByKey_perm Prod.fst rows').mem_iff]
    funext key
    refine Option.ext fun hist => ?_
    rw [← h.mem_iff, hmem, h'.mem_iff]
  · intro hmaps
    rw [← hmaps] at h'
    rw [latencyReport, latencyReport, sortByKey_eq_of_perm (h.perm h') h.nodup]

def threeUs : List ObsCall := [.recordLatency "vulkan" ⟨0, 3000, by decide⟩]

def twoAndAHalfUs : List ObsCall := [.recordLatency "vulkan" ⟨0, 2500, by decide⟩]

theorem latencyReport_tells_vulkan :
    ∃ rows rows', Lists (run threeUs).latency rows ∧ Lists (run twoAndAHalfUs).latency rows' ∧
      (latencyReport rows = latencyReport rows' ↔ ∀ key i,
        min (2 ^ 64 - 1) (bucketed threeUs key i) =
          min (2 ^ 64 - 1) (bucketed twoAndAHalfUs key i)) := by
  obtain ⟨rows, h⟩ := exists_lists_latency threeUs
  obtain ⟨rows', h'⟩ := exists_lists_latency twoAndAHalfUs
  exact ⟨rows, rows', h, h', latencyReport_tells (by decide) (by decide) h h'⟩

end ObsRegistry
end Graftx.Obs
