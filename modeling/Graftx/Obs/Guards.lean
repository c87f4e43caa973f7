import Graftx.Obs.OrderFree
import Graftx.Protocol.Core

/-! The guards of calls in progress and the reset of a registry. A guard holds its name and the
last sizes set and records them once, when it is dropped; a reset forgets what was counted and
leaves the latencies and the open guards. The tracing span of a guard is left out. -/
namespace Graftx.Obs
open Protocol Lib.Entries Lib.Saturation

def ObsRegistry.recordFrame (r : ObsRegistry) (api : String) (requestFrame replyFrame : Bytes) :
    ObsRegistry :=
  r.record api (UInt64.ofNat requestFrame.length) (UInt64.ofNat replyFrame.length)

def ObsRegistry.reset (r : ObsRegistry) : ObsRegistry := { r with inner := fun _ => none }

structure CallGuard where
  api : String
  bytesOut : UInt64
  bytesIn : UInt64

namespace CallGuard

def begin (api : String) : CallGuard := ⟨api, 0, 0⟩

def setBytes (x : CallGuard) (bytesOut bytesIn : UInt64) : CallGuard :=
  { x with bytesOut := bytesOut, bytesIn := bytesIn }

def drop (x : CallGuard) (r : ObsRegistry) : ObsRegistry := r.record x.api x.bytesOut x.bytesIn

end CallGuard

/-- What happens to a registry. Guards are numbered in the order in which they are begun. -/
inductive GuardEvent where
  | begin (api : String)
  | setBytes (guard : Nat) (bytesOut bytesIn : UInt64)
  | drop (guard : Nat)
  | call (c : ObsCall)
  | recordFrame (api : String) (requestFrame replyFrame : Bytes)
  | reset

/-- A registry and the guards begun on it; a dropped one is gone. -/
structure Guarded where
  registry : ObsRegistry
  guards : List (Option CallGuard)

namespace Guarded

def new : Guarded := ⟨.new, []⟩

def step (s : Guarded) : GuardEvent → Guarded
  | .begin api => { s with guards := s.guards ++ [some (.begin api)] }
  | .setBytes k bytesOut bytesIn =>
    match s.guards[k]? with
    | some (some guard) =>
      { s with guards := s.guards.set k (some (guard.setBytes bytesOut bytesIn)) }
    | _ => s
  | .drop k =>
    match s.guards[k]? with
    | some (some guard) => ⟨guard.drop s.registry, s.guards.set k none⟩
    | _ => s
  | .call c => { s with registry := s.registry.call c }
  | .recordFrame api requestFrame replyFrame =>
    { s with registry := s.registry.recordFrame api requestFrame replyFrame }
  | .reset => { s with registry := s.registry.reset }

def run (es : List GuardEvent) : Guarded := es.foldl step new

theorem run_snoc (es : List GuardEvent) (e : GuardEvent) : run (es ++ [e]) = (run es).step e :=
  List.foldl_concat ..

end Guarded

namespace GuardEvent

def begun : List GuardEvent → List String :=
  List.filterMap fun e =>
    match e with
    | .begin api => some api
    | _ => none

def sizes (k : Nat) : List GuardEvent → List (UInt64 × UInt64) :=
  List.filterMap fun e =>
    match e with
    | .setBytes k' bytesOut bytesIn => if k' = k then some (bytesOut, bytesIn) else none
    | _ => none

def dropped : List GuardEvent → List Nat :=
  List.filterMap fun e =>
    match e with
    | .drop k => some k
    | _ => none

def sinceReset : List GuardEvent → List GuardEvent :=
  List.foldl (fun since e =>
    match e with
    | .reset => []
    | e => since ++ [e]) []

/-- An event may use a guard only from its beginning to its drop: a guard has one owner. -/
def Allowed (es : List GuardEvent) : GuardEvent → Prop
  | .setBytes k _ _ | .drop k => k < (begun es).length ∧ k ∉ dropped es
  | _ => True

inductive Owned : List GuardEvent → Prop
  | nil : Owned []
  | snoc (es : List GuardEvent) (e : GuardEvent) : Owned es → Allowed es e → Owned (es ++ [e])

def lastSizes (es : List GuardEvent) (k : Nat) : UInt64 × UInt64 :=
  (sizes k es).getLast?.getD (0, 0)

/-- What an event among `es` records: a drop the name of its guard and the last sizes set. -/
def recorded (es : List GuardEvent) : GuardEvent → Option ObsCall
  | .drop k => (begun es)[k]?.map fun api => .record api (lastSizes es k).1 (lastSizes es k).2
  | .call c => some c
  | .recordFrame api requestFrame replyFrame =>
    some (.record api (UInt64.ofNat requestFrame.length) (UInt64.ofNat replyFrame.length))
  | .begin _ | .setBytes _ _ _ | .reset => none

theorem Owned.fresh {es : List GuardEvent} (h : Owned es) {k : Nat}
    (hk : (begun es).length ≤ k) : k ∉ dropped es ∧ sizes k es = [] := by
  induction h with
  | nil => exact ⟨List.not_mem_nil, rfl⟩
  | snoc es e _ hallowed ih =>
    have hle : (begun es).length ≤ (begun (es ++ [e])).length := by
      simp [begun]
    obtain ⟨hdropped, hsizes⟩ := ih (hle.trans hk)
    rw [dropped, sizes, List.filterMap_append, List.filterMap_append]
    cases e with
    | setBytes k' bytesOut bytesIn =>
      have hlt := hallowed.1
      have hne : k' ≠ k := by omega
      exact ⟨by simpa [dropped] using hdropped, by simpa [hne, sizes] using hsizes⟩
    | drop k' =>
      have hlt := hallowed.1
      have hne : k ≠ k' := by omega
      exact ⟨by simpa [hne, dropped] using hdropped, by simpa [sizes] using hsizes⟩
    | begin | call | recordFrame | reset =>
      exact ⟨by simpa [dropped] using hdropped, by simpa [sizes] using hsizes⟩

theorem Owned.lt_of_dropped {es : List GuardEvent} (h : Owned es) {k : Nat} (hk : k ∈ dropped es) :
    k < (begun es).length :=
  Nat.lt_of_not_le fun hle => (h.fresh hle).1 hk

theorem Owned.nodup_dropped {es : List GuardEvent} (h : Owned es) : (dropped es).Nodup := by
  induction h with
  | nil => exact .nil
  | snoc es e _ hallowed ih =>
    rw [dropped, List.filterMap_append]
    cases e with
    | drop k =>
      refine List.nodup_append.mpr ⟨ih, List.nodup_singleton k, fun a ha b hb hab => ?_⟩
      cases List.mem_singleton.mp hb
      exact hallowed.2 (hab ▸ ha)
    | begin | setBytes | call | recordFrame | reset => simpa [dropped] using ih

theorem recorded_snoc {es : List GuardEvent} {e : GuardEvent} (h : Owned es) (ha : Allowed es e)
    {e' : GuardEvent} (he : ∀ k, e' = .drop k → k ∈ dropped es ∨ e = .drop k) :
    recorded (es ++ [e]) e' = recorded es e' := by
  cases e' with
  | drop k =>
    have hlt : k < (begun es).length := by
      rcases he k rfl with hk | hk
      · exact h.lt_of_dropped hk
      · subst hk
        exact ha.1
    have hbegun : (begun (es ++ [e]))[k]? = (begun es)[k]? := by
      rw [begun, List.filterMap_append]
      exact List.getElem?_append_left hlt
    have hsizes : sizes k (es ++ [e]) = sizes k es := by
      rw [sizes, List.filterMap_append]
      cases e with
      | setBytes k' bytesOut bytesIn =>
        have hne : k' ≠ k := by
          rintro rfl
          rcases he k' rfl with hk | hk
          · exact ha.2 hk
          · cases hk
        simp [hne]
      | begin | drop | call | recordFrame | reset => simp
    rw [recorded, recorded, hbegun, lastSizes, lastSizes, hsizes]
  | begin | setBytes | call | recordFrame | reset => rfl

end GuardEvent

namespace ObsRegistry

theorem inner_call {r r' : ObsRegistry} (h : r.inner = r'.inner) (c : ObsCall) :
    (r.call c).inner = (r'.call c).inner := by
  cases c with
  | record api bytesOut bytesIn => simp only [call, record, h]
  | recordLatency api d => exact h

theorem latency_call {r r' : ObsRegistry} (h : r.latency = r'.latency) (c : ObsCall) :
    (r.call c).latency = (r'.call c).latency := by
  cases c with
  | record api bytesOut bytesIn => exact h
  | recordLatency api d => simp only [call, recordLatency, h]

theorem run_filterMap_snoc {α : Type} (f : α → Option ObsCall) (l : List α) (x : α) :
    run ((l ++ [x]).filterMap f) = (f x).elim (run (l.filterMap f)) (run (l.filterMap f)).call := by
  rw [List.filterMap_append, run, List.foldl_append]
  cases h : f x with
  | none => simp [h, run]
  | some c => simp [h, run]

end ObsRegistry

namespace Guarded
open GuardEvent

def guardAfter (es : List GuardEvent) (k : Nat) : Option (Option CallGuard) :=
  (begun es)[k]?.map fun api =>
    if k ∈ dropped es then none else some ⟨api, (lastSizes es k).1, (lastSizes es k).2⟩

/-- The state after the events, read off them: the counters tell what was recorded after the
last reset, the latencies all that was timed. -/
structure Tells (es : List GuardEvent) (s : Guarded) : Prop where
  guards : ∀ k, s.guards[k]? = guardAfter es k
  inner : s.registry.inner =
    (ObsRegistry.run ((sinceReset es).filterMap (recorded es))).inner
  latency : s.registry.latency = (ObsRegistry.run (es.filterMap (recorded es))).latency

theorem Tells.guard {es : List GuardEvent} {s : Guarded} (h : Tells es s) {k : Nat}
    (hlt : k < (begun es).length) (hopen : k ∉ dropped es) :
    s.guards[k]? = some (some ⟨(begun es)[k], (lastSizes es k).1, (lastSizes es k).2⟩) := by
  rw [h.guards, guardAfter, List.getElem?_eq_getElem hlt, Option.map_some, if_neg hopen]

theorem Tells.registry_step {es : List GuardEvent} {s : Guarded} (h : Tells es s)
    {e : GuardEvent} (ha : Allowed es e) (hr : e ≠ .reset) :
    (s.step e).registry = (recorded es e).elim s.registry s.registry.call := by
  cases e with
  | begin api => rfl
  | setBytes k bytesOut bytesIn =>
    rw [step, h.guard ha.1 ha.2]
    rfl
  | drop k =>
    rw [step, h.guard ha.1 ha.2, recorded, List.getElem?_eq_getElem ha.1]
    rfl
  | call c => rfl
  | recordFrame api requestFrame replyFrame => rfl
  | reset => exact absurd rfl hr

theorem Tells.guards_step {es : List GuardEvent} {s : Guarded} (h : Tells es s)
    {e : GuardEvent} (ho : Owned es) (ha : Allowed es e) (k : Nat) :
    (s.step e).guards[k]? = guardAfter (es ++ [e]) k := by
  have hlen : s.guards.length = (begun es).length := by
    have hnone (j : Nat) : s.guards.length ≤ j ↔ (begun es).length ≤ j := by
      rw [← List.getElem?_eq_none_iff, h.guards, guardAfter, Option.map_eq_none_iff,
        List.getElem?_eq_none_iff]
    exact Nat.le_antisymm ((hnone _).mpr le_rfl) ((hnone _).mp le_rfl)
  have hpast := h.guards k
  rw [guardAfter] at hpast ⊢
  cases e with
  -- the fresh guard is the one past the end: no earlier event could name it
  | begin api =>
    have hb : begun (es ++ [.begin api]) = begun es ++ [api] := List.filterMap_append ..
    have hd : dropped (es ++ [.begin api]) = dropped es := by simp [dropped]
    have hs : lastSizes (es ++ [.begin api]) k = lastSizes es k := by simp [lastSizes, sizes]
    rw [step, hb, hd, hs, List.getElem?_append, List.getElem?_append, hlen]
    split
    · exact hpast
    · rename_i hle
      obtain ⟨hdropped, hsizes⟩ := ho.fresh (Nat.le_of_not_lt hle)
      simp only [if_neg hdropped, lastSizes, hsizes]
      cases k - (begun es).length with
      | zero => rfl
      | succ n => rfl
  | setBytes k' bytesOut bytesIn =>
    have hb : begun (es ++ [.setBytes k' bytesOut bytesIn]) = begun es := by simp [begun]
    have hd : dropped (es ++ [.setBytes k' bytesOut bytesIn]) = dropped es := by simp [dropped]
    rw [step, h.guard ha.1 ha.2, hb, hd]
    simp only [List.getElem?_set]
    by_cases hk : k' = k
    · subst hk
      have hs : lastSizes (es ++ [.setBytes k' bytesOut bytesIn]) k' = (bytesOut, bytesIn) := by
        simp [lastSizes, sizes]
      rw [if_pos rfl, if_pos (hlen ▸ ha.1), List.getElem?_eq_getElem ha.1, Option.map_some,
        if_neg ha.2, hs]
      rfl
    · have hs : lastSizes (es ++ [.setBytes k' bytesOut bytesIn]) k = lastSizes es k := by
        simp [lastSizes, sizes, hk]
      rw [if_neg hk, hs]
      exact hpast
  | drop k' =>
    have hb : begun (es ++ [.drop k']) = begun es := by simp [begun]
    have hd : dropped (es ++ [.drop k']) = dropped es ++ [k'] := List.filterMap_append ..
    have hs : lastSizes (es ++ [.drop k']) k = lastSizes es k := by simp [lastSizes, sizes]
    rw [step, h.guard ha.1 ha.2, hb, hd, hs]
    simp only [List.getElem?_set]
    by_cases hk : k' = k
    · subst hk
      rw [if_pos rfl, if_pos (hlen ▸ ha.1), List.getElem?_eq_getElem ha.1, Option.map_some,
        if_pos (List.mem_append_right _ List.mem_cons_self)]
    · have hmem : k ∈ dropped es ++ [k'] ↔ k ∈ dropped es := by simp [Ne.symm hk]
      rw [if_neg hk]
      simpa only [hmem] using hpast
  | call | recordFrame | reset =>
    simp only [begun, dropped, lastSizes, sizes, List.filterMap_append, List.filterMap_cons_none,
      List.filterMap_nil, List.append_nil]
    exact hpast

theorem sinceReset_reset (es : List GuardEvent) : sinceReset (es ++ [.reset]) = [] :=
  List.foldl_concat ..

theorem sinceReset_snoc (es : List GuardEvent) {e : GuardEvent} (h : e ≠ .reset) :
    sinceReset (es ++ [e]) = sinceReset es ++ [e] := by
  rw [sinceReset, List.foldl_concat]
  cases e with
  | reset => exact absurd rfl h
  | begin | setBytes | drop | call | recordFrame => rfl

theorem sinceReset_subset (es : List GuardEvent) : sinceReset es ⊆ es := by
  induction es using List.reverseRecOn with
  | nil => exact List.Subset.refl _
  | append_singleton es e ih =>
    by_cases he : e = .reset
    · subst he
      rw [sinceReset_reset]
      exact List.nil_subset _
    · rw [sinceReset_snoc es he]
      exact List.append_subset.mpr ⟨List.Subset.trans ih (List.subset_append_left _ _),
        List.subset_append_right _ _⟩

theorem filterMap_recorded_snoc {es : List GuardEvent} {e : GuardEvent} (h : Owned es)
    (ha : Allowed es e) {l : List GuardEvent} (hl : l ⊆ es) :
    l.filterMap (recorded (es ++ [e])) = l.filterMap (recorded es) :=
  List.filterMap_congr fun e' he' => recorded_snoc h ha fun k hk =>
    .inl (List.mem_filterMap.mpr ⟨e', hl he', by rw [hk]⟩)

theorem tells {es : List GuardEvent} (h : Owned es) : Tells es (run es) := by
  induction h with
  | nil => exact ⟨fun k => rfl, rfl, rfl⟩
  | snoc es e ho ha ih =>
    have hself : recorded (es ++ [e]) e = recorded es e := recorded_snoc ho ha fun k hk => .inr hk
    rw [run_snoc]
    refine ⟨fun k => ih.guards_step ho ha k, ?_, ?_⟩
    · by_cases he : e = .reset
      · subst he
        rw [sinceReset_reset]
        rfl
      · rw [sinceReset_snoc es he, ih.registry_step ha he, ObsRegistry.run_filterMap_snoc, hself,
          filterMap_recorded_snoc ho ha (sinceReset_subset es)]
        cases recorded es e with
        | none => exact ih.inner
        | some c => exact ObsRegistry.inner_call ih.inner c
    · rw [ObsRegistry.run_filterMap_snoc, hself,
        filterMap_recorded_snoc ho ha (List.Subset.refl es)]
      by_cases he : e = .reset
      · subst he
        exact ih.latency
      · rw [ih.registry_step ha he]
        cases recorded es e with
        | none => exact ih.latency
        | some c => exact ObsRegistry.latency_call ih.latency c

def opened (s : Guarded) : Nat := s.guards.countP Option.isSome

theorem opened_set {s : Guarded} {k : Nat} {guard : CallGuard}
    (h : s.guards[k]? = some (some guard)) (r : ObsRegistry) (y : Option CallGuard) :
    opened ⟨r, s.guards.set k y⟩ + 1 = s.opened + if y.isSome then 1 else 0 := by
  have hset := weight_set (fun x : Option CallGuard => if x.isSome then 1 else 0) y h
  rwa [weight_indicator, weight_indicator] at hset

theorem opened_add_dropped {es : List GuardEvent} (h : Owned es) :
    (run es).opened + (dropped es).length = (begun es).length := by
  induction h with
  | nil => rfl
  | snoc es e ho ha ih =>
    rw [run_snoc, begun, dropped, List.filterMap_append, List.filterMap_append,
      List.length_append, List.length_append]
    simp only [begun, dropped] at ih
    cases e with
    | begin api =>
      have hopened : ((run es).step (.begin api)).opened = (run es).opened + 1 :=
        List.countP_append
      simp [hopened]
      omega
    | setBytes k bytesOut bytesIn =>
      obtain ⟨guard, hguard⟩ : ∃ guard, (run es).guards[k]? = some (some guard) :=
        ⟨_, (tells ho).guard ha.1 ha.2⟩
      have hopened := opened_set hguard (run es).registry (some (guard.setBytes bytesOut bytesIn))
      rw [Option.isSome_some, if_pos rfl, Nat.add_right_cancel_iff] at hopened
      rw [step, hguard]
      simpa [hopened] using ih
    | drop k =>
      obtain ⟨guard, hguard⟩ : ∃ guard, (run es).guards[k]? = some (some guard) :=
        ⟨_, (tells ho).guard ha.1 ha.2⟩
      have hopened := opened_set hguard (guard.drop (run es).registry) none
      rw [Option.isSome_none, if_neg Bool.false_ne_true] at hopened
      rw [step, hguard]
      simp
      omega
    | call | recordFrame | reset => exact ih

def log (es : List GuardEvent) : List ObsCall := es.filterMap (recorded es)

/-- What is recorded after the last reset, also by guards begun before it. -/
def logSinceReset (es : List GuardEvent) : List ObsCall := (sinceReset es).filterMap (recorded es)

/-- What a registry and its guards have come to. -/
structure Accounts (es : List GuardEvent) (s : Guarded) : Prop where
  /-- An open guard has its name and the last sizes set, -/
  guards : ∀ k, s.guards[k]? = guardAfter es k
  /-- each one is open or has been dropped, -/
  balance : s.opened + (dropped es).length = (begun es).length
  /-- and that once. -/
  once : (dropped es).Nodup
  /-- The counters add up what was recorded after the last reset, -/
  uncounted : ∀ key, s.registry.inner key = none ↔ itemsOf key (records (logSinceReset es)) = []
  counted : ∀ key stats, s.registry.inner key = some stats → ∀ field ∈ CallStats.counters,
    (field stats).toNat =
      min (2 ^ 64 - 1) (ObsRegistry.exactSum (logSinceReset es) key field)
  /-- and the latencies are those of all calls timed. -/
  latency : s.registry.latency = (ObsRegistry.run (log es)).latency

theorem guards_accounted {es : List GuardEvent} (h : Owned es) : Accounts es (run es) where
  guards := (tells h).guards
  balance := opened_add_dropped h
  once := h.nodup_dropped
  uncounted key := by
    rw [(tells h).inner]
    exact (ObsRegistry.sums_run _).uncounted key
  counted key stats hs := by
    rw [(tells h).inner] at hs
    exact (ObsRegistry.sums_run _).counted key stats hs
  latency := (tells h).latency

def overlapping : List GuardEvent :=
  [.begin "vulkan", .begin "cuda", .setBytes 0 10 20, .drop 1, .reset, .setBytes 0 3 4, .drop 0]

theorem guards_accounted_overlapping : Accounts overlapping (run overlapping) :=
  guards_accounted <|
    .snoc [.begin "vulkan", .begin "cuda", .setBytes 0 10 20, .drop 1, .reset, .setBytes 0 3 4] _
      (.snoc [.begin "vulkan", .begin "cuda", .setBytes 0 10 20, .drop 1, .reset] _
        (.snoc [.begin "vulkan", .begin "cuda", .setBytes 0 10 20, .drop 1] _
          (.snoc [.begin "vulkan", .begin "cuda", .setBytes 0 10 20] _
            (.snoc [.begin "vulkan", .begin "cuda"] _
              (.snoc [.begin "vulkan"] _ (.snoc [] _ .nil trivial) trivial)
              ⟨by decide, by decide⟩)
            ⟨by decide, by decide⟩)
          trivial)
        ⟨by decide, by decide⟩)
      ⟨by decide, by decide⟩

end Guarded
end Graftx.Obs
