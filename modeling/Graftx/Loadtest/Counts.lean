import Graftx.Loadtest.Drive

/-! What the registry shows after a load run, to the byte. -/
namespace Graftx.Loadtest
open Graftx.Obs Graftx.Server Lib.Entries Lib.Saturation Lib.Threads

def clip (n : Nat) : UInt64 := UInt64.ofNat (min (2 ^ 64 - 1) n)

theorem eq_clip {x : UInt64} {n : Nat} (h : x.toNat = min (2 ^ 64 - 1) n) : x = clip n := by
  rw [← UInt64.toNat_inj, clip, UInt64.toNat_ofNat_of_lt' (by rw [UInt64.size]; omega), h]

def shown (calls bytesOut bytesIn : Nat) : CallStats := ⟨clip calls, clip bytesOut, clip bytesIn⟩

theorem eq_shown {stats : CallStats} {calls bytesOut bytesIn : Nat}
    (hcalls : stats.calls.toNat = min (2 ^ 64 - 1) calls)
    (hout : stats.bytesOut.toNat = min (2 ^ 64 - 1) bytesOut)
    (hin : stats.bytesIn.toNat = min (2 ^ 64 - 1) bytesIn) :
    stats = shown calls bytesOut bytesIn := by
  cases stats
  rw [shown, ← eq_clip hcalls, ← eq_clip hout, ← eq_clip hin]

def roundRecords : List (String × UInt64 × UInt64) := [("vulkan", 32, 36), ("vulkan", 36, 40)]

theorem records_roundsCalls (n : Nat) :
    records (roundsCalls n) = (List.replicate n roundRecords).flatten := by
  induction n with
  | zero => rfl
  | succ n ih =>
    rw [roundsCalls, List.replicate_succ, List.flatten_cons, List.replicate_succ, List.flatten_cons,
      ← ih]
    rfl

theorem records_loadCalls (n : Nat) : records (loadCalls n) =
    ("core", 40, 48) :: (List.replicate n roundRecords).flatten := by
  rw [← records_roundsCalls]
  rfl

theorem itemsOf_rounds (n : Nat) (key : String) :
    itemsOf key (List.replicate n roundRecords).flatten =
      if key = "vulkan" then (List.replicate n roundRecords).flatten else [] := by
  induction n with
  | zero => simp [itemsOf]
  | succ n ih =>
    rw [itemsOf] at ih ⊢
    rw [List.replicate_succ, List.flatten_cons, List.filter_append, ih]
    by_cases hk : key = "vulkan"
    · subst hk
      simp [roundRecords]
    · have hne : ¬ "vulkan" = key := Ne.symm hk
      simp [roundRecords, hk, hne]

theorem itemsOf_loadCalls (n : Nat) (key : String) : itemsOf key (records (loadCalls n)) =
    if key = "core" then [("core", 40, 48)]
    else if key = "vulkan" then (List.replicate n roundRecords).flatten else [] := by
  have hrounds := itemsOf_rounds n key
  rw [records_loadCalls, itemsOf, List.filter_cons, ← itemsOf, hrounds]
  by_cases hk : key = "core"
  · subst hk
    simp
  · have hne : ¬ "core" = key := Ne.symm hk
    simp [hk, hne]

theorem merged_rounds (n : Nat) :
    (((List.replicate n roundRecords).flatten.map single).foldl .merge {} : CallStats) =
      shown (2 * n) (68 * n) (76 * n) := by
  have hsum (field : CallStats → UInt64) (hf : field ∈ CallStats.counters) :=
    CallStats.toNat_foldl_merge ((List.replicate n roundRecords).flatten.map single) field hf
  simp only [weight_map, weight_rounds] at hsum
  refine eq_shown ?_ ?_ ?_
  · rw [hsum (·.calls) (by simp [CallStats.counters]), Nat.mul_comm]
    rfl
  · rw [hsum (·.bytesOut) (by simp [CallStats.counters]), Nat.mul_comm]
    rfl
  · rw [hsum (·.bytesIn) (by simp [CallStats.counters]), Nat.mul_comm]
    rfl

theorem inner_loadCalls (n : Nat) (key : String) : (ObsRegistry.run (loadCalls n)).inner key =
    if key = "core" then some (shown 1 40 48)
    else if key = "vulkan" ∧ 0 < n then some (shown (2 * n) (68 * n) (76 * n))
    else none := by
  rw [ObsRegistry.inner_run, itemsOf_loadCalls]
  by_cases hcore : key = "core"
  · simp only [if_pos hcore]
    rfl
  · simp only [if_neg hcore]
    by_cases hvulkan : key = "vulkan"
    · simp only [hvulkan, true_and, reduceIte]
      cases n with
      | zero => rfl
      | succ n =>
        have hne : (List.replicate (n + 1) roundRecords).flatten ≠ [] := by
          rw [List.replicate_succ, List.flatten_cons]
          exact List.append_ne_nil_of_left_ne_nil (by simp [roundRecords]) _
        rw [if_neg hne, if_pos n.succ_pos, merged_rounds]
    · simp [hvulkan]

theorem total_loadCalls (n : Nat) (rows : ObsRegistry.Rows)
    (hrows : Lists (ObsRegistry.run (loadCalls n)).inner rows) :
    ObsRegistry.total rows = shown (2 * n + 1) (68 * n + 40) (76 * n + 48) := by
  have hsum (field : CallStats → UInt64) (hf : field ∈ CallStats.counters) :=
    (ObsRegistry.toNat_total (loadCalls n) rows hrows field hf).2
  simp only [records_loadCalls, weight_cons, weight_rounds] at hsum
  refine eq_shown ?_ ?_ ?_
  · rw [hsum (·.calls) (by simp [CallStats.counters]), Nat.add_comm, Nat.mul_comm]
    rfl
  · rw [hsum (·.bytesOut) (by simp [CallStats.counters]), Nat.add_comm, Nat.mul_comm]
    rfl
  · rw [hsum (·.bytesIn) (by simp [CallStats.counters]), Nat.add_comm, Nat.mul_comm]
    rfl

/-- What `run_load` returns; `rows` is the registry as its map is iterated at the end. -/
def runLoad (n : Nat) (schedule : List Party) (rows : ObsRegistry.Rows) : CallStats :=
  match (drive n .new schedule).1 with
  | some (.ok ()) => ObsRegistry.total rows
  | _ => {}

/-- A load run of any number of rounds ends well under every schedule that lets both threads
finish, and a schedule that gives each of them enough turns does. The registry then holds one
call under `core` and two a round under `vulkan`, with their bytes, and nothing else; these
add up to what the run reports. -/
theorem load_run_counts (n : Nat) (schedule : List Party)
    (h : Stuck Duplex.move
        (run Duplex.move (Duplex.start (clientTalk n) loadSession .new) schedule) ∨
      Fair (10 * n + 8) schedule) :
    (drive n .new schedule).1 = some (.ok ()) ∧
      (∀ key, (drive n .new schedule).2.inner key =
        if key = "core" then some (shown 1 40 48)
        else if key = "vulkan" ∧ 0 < n then some (shown (2 * n) (68 * n) (76 * n))
        else none) ∧
      ∀ rows, Lists (drive n .new schedule).2.inner rows →
        runLoad n schedule rows = shown (2 * n + 1) (68 * n + 40) (76 * n + 48) := by
  have hdrive := drive_eq n .new schedule h
  have hload (rows : ObsRegistry.Rows) : runLoad n schedule rows = ObsRegistry.total rows := by
    simp only [runLoad, hdrive]
  simp only [hload, hdrive]
  exact ⟨trivial, inner_loadCalls n, total_loadCalls n⟩

theorem load_run_counts_alternating :
    (drive 1 .new (List.replicate 18 [Party.client, .server]).flatten).1 = some (.ok ()) :=
  (load_run_counts 1 _ (.inr (Duplex.fair_alternating 18))).1

end Graftx.Loadtest
