import Graftx.Handles.IndexLimit

/-! The quota on live entries. It is kept by a counter, and the counter is above the number of
entries by as many as insertions have overwritten since the table was last cleared. -/
namespace Graftx.Handles
open Graftx.Protocol Lib.Machine Lib.Sift
universe u
variable {α : Type u}

namespace HandleTable

/-- The next insertion would reuse a slot that holds a live entry. -/
def Overwrites (t : HandleTable α) : Prop :=
  ∃ i rest slot, t.free = i :: rest ∧ t.slots[i.toNat]? = some slot ∧ slot.value.isSome

def Sheds (t t' : HandleTable α) : Prop :=
  ∃ k, t'.live + k = t.live ∧ t'.occupancy + k = t.occupancy

theorem Sheds.refl (t : HandleTable α) : Sheds t t := ⟨0, rfl, rfl⟩

theorem sheds_retain {ω : Type} (t : HandleTable α) (keep : ω → Handle → α → Bool × ω) (st : ω)
    (hle : t.occupancy ≤ t.live) : Sheds t (t.retain keep st).1 := by
  obtain ⟨-, -, hlive, hsnd⟩ := t.retain_swept keep st
  obtain ⟨hkept, hrest⟩ := t.retain_sift keep st
  have hsum := length_kept_add_rejected (paired keep) st t.iter
  have hrem : (retainLoop keep 0 t.slots t.free st 0).removed =
      (sift (paired keep) st t.iter).rejected.length :=
    congrArg Prod.snd (hsnd.symm.trans hrest)
  rw [← hkept, length_iter, length_iter, ← hrem] at hsum
  exact ⟨_, by omega, hsum⟩

theorem sheds_remove (t : HandleTable α) (h : Handle) (hle : t.occupancy ≤ t.live) :
    Sheds t (t.remove h).2 := by
  obtain hr | ⟨v, slot, -, hi, hv, hr⟩ := t.remove_cases h
  · rw [hr]
    exact .refl t
  · rw [hr]
    have hcount := occupancy_set t _ _ slot _ hi (t.slots_release _ slot hi)
    simp only [occupied, hv, Slot.value_vacate, Option.isSome_none, Bool.false_eq_true, if_true,
      if_false] at hcount
    exact ⟨1, by rw [t.live_release _ slot hi]; omega, hcount⟩

theorem sheds_getMut (t : HandleTable α) (h : Handle) (write : α → α) :
    Sheds t (t.step (.getMut h write)).2 := by
  obtain hs | ⟨v, slot, -, hi, hv, hs⟩ := t.step_getMut_cases h write
  · rw [hs]
    exact .refl t
  · rw [hs]
    have hcount := occupancy_set t _ _ slot _ hi (t.slots_store _ (write v) slot hi)
    simp only [occupied, hv, Option.isSome_some, if_true] at hcount
    have hlive : (t.store h.slot.toNat (write v)).live = t.live := by
      rw [store]
      split <;> rfl
    exact ⟨0, hlive, Nat.add_right_cancel hcount⟩

theorem count_step (t : HandleTable α) (op : Op α) (hle : t.occupancy ≤ t.live) :
    (∃ kind v, t.step op = (some (t.insert kind v).1, (t.insert kind v).2)) ∨
      (t.step op).1 = none ∧ (op = .clear ∨ op ≠ .clear ∧ Sheds t (t.step op).2) := by
  cases op with
  | insert kind v => exact .inl ⟨kind, v, rfl⟩
  | tryInsert kind v maxLive =>
    simp only [step, tryInsert]
    split
    · exact .inl ⟨kind, v, rfl⟩
    · exact .inr ⟨rfl, .inr ⟨fun h => (by cases h), .refl t⟩⟩
  | getMut h write =>
    refine .inr ⟨?_, .inr ⟨fun h => (by cases h), t.sheds_getMut h write⟩⟩
    simp only [step]
    split <;> rfl
  | remove h => exact .inr ⟨rfl, .inr ⟨fun h => (by cases h), t.sheds_remove h hle⟩⟩
  | clear => exact .inr ⟨rfl, .inl rfl⟩
  | retain ω keep st => exact .inr ⟨rfl, .inr ⟨fun h => (by cases h), t.sheds_retain keep st hle⟩⟩

theorem occupancy_insert (t : HandleTable α) (kind : UInt8) (v : α) :
    (t.Overwrites ∧ (t.insert kind v).2.occupancy = t.occupancy) ∨
      (¬ t.Overwrites ∧ (t.insert kind v).2.occupancy = t.occupancy + 1) := by
  obtain ⟨i, free, slot, hfree, hi, -, hs, -⟩ |
    ⟨hfree, -, ⟨new, -, -, hv, -, hs⟩, -⟩ := t.insert_cases kind v
  · have hcount := occupancy_set t _ i.toNat slot _ hi hs
    cases hv : slot.value.isSome with
    | true =>
      simp only [occupied, hv, Option.isSome_some, if_true] at hcount
      exact .inl ⟨⟨i, free, slot, hfree, hi, hv⟩, Nat.add_right_cancel hcount⟩
    | false =>
      simp only [occupied, hv, Option.isSome_some, Bool.false_eq_true, if_true, if_false] at hcount
      refine .inr ⟨?_, hcount⟩
      rintro ⟨i', rest', slot', hfree', hi', hv'⟩
      rw [hfree] at hfree'
      cases hfree'
      rw [hi] at hi'
      cases hi'
      rw [hv] at hv'
      cases hv'
  · refine .inr ⟨?_, ?_⟩
    · rintro ⟨i', rest', slot', hfree', -⟩
      rw [hfree] at hfree'
      cases hfree'
    · rw [occupancy, hs, List.countP_append, List.countP_singleton,
        if_pos (by simp [occupied, hv])]
      rfl

theorem occupancy_clear (t : HandleTable α) : t.clear.occupancy = 0 := by
  rw [← t.clear.length_iter, t.iter_clear]
  rfl

theorem occupancy_le_live (ops : List (Op α)) :
    (final step new ops).occupancy ≤ (final step new ops).live := by
  induction ops using List.reverseRecOn with
  | nil => exact Nat.le_refl 0
  | append_singleton ops op ih =>
    rw [final_snoc]
    obtain ⟨kind, v, hs⟩ | ⟨-, rfl | ⟨-, k, hlive, hocc⟩⟩ := count_step _ op ih
    · rw [hs]
      have hlive := (final step new ops).live_insert kind v
      obtain ⟨-, hocc⟩ | ⟨-, hocc⟩ := (final step new ops).occupancy_insert kind v
      · simp only
        omega
      · simp only
        omega
    · exact Nat.le_of_eq (occupancy_clear _)
    · omega

/-- Since the table was last cleared no insertion has overwritten a live entry. -/
def NothingOverwritten (ops : List (Op α)) : Prop :=
  ∀ before op after, ops = before ++ op :: after → .clear ∉ after →
    (step (final step new before) op).1 ≠ none → ¬ (final step new before).Overwrites

theorem nothingOverwritten_snoc (ops : List (Op α)) (op : Op α) :
    NothingOverwritten (ops ++ [op]) ↔ (op = .clear ∨ NothingOverwritten ops) ∧
      ((step (final step new ops) op).1 ≠ none → ¬ (final step new ops).Overwrites) := by
  constructor
  · intro h
    refine ⟨?_, h ops op [] rfl List.not_mem_nil⟩
    by_cases hc : op = .clear
    · exact .inl hc
    · refine .inr fun before op' after he hafter => h before op' (after ++ [op]) ?_ ?_
      · rw [he, List.append_assoc, List.cons_append]
      · rw [List.mem_append, List.mem_singleton]
        exact fun hmem => hmem.elim hafter fun he => hc he.symm
  · rintro ⟨hops, hlast⟩ before op' after he hafter
    cases after using List.reverseRecOn with
    | nil =>
      obtain ⟨rfl, hop⟩ := List.append_inj' he rfl
      cases hop
      exact hlast
    | append_singleton after' o =>
      rw [← List.cons_append, ← List.append_assoc] at he
      obtain ⟨hinit, ho⟩ := List.append_inj' he rfl
      cases ho
      obtain rfl | hops := hops
      · exact absurd (List.mem_append_right after' (List.mem_singleton.mpr rfl)) hafter
      · exact hops before op' after' hinit fun hmem => hafter (List.mem_append_left _ hmem)

theorem live_eq_occupancy_iff (ops : List (Op α)) :
    (final step new ops).live = (final step new ops).occupancy ↔ NothingOverwritten ops := by
  induction ops using List.reverseRecOn with
  | nil => exact iff_of_true rfl fun before op after he => absurd he (by simp)
  | append_singleton ops op ih =>
    have hle := occupancy_le_live ops
    rw [final_snoc, nothingOverwritten_snoc]
    obtain ⟨kind, v, hs⟩ | ⟨hnone, rfl | ⟨hne, k, hlive, hocc⟩⟩ := count_step _ op hle
    · have hlive := (final step new ops).live_insert kind v
      have hne : op ≠ .clear := by
        rintro rfl
        cases hs
      rw [← ih, hs]
      simp only [hne, false_or]
      obtain ⟨hover, hocc⟩ | ⟨hover, hocc⟩ := (final step new ops).occupancy_insert kind v
      · rw [hlive, hocc]
        exact iff_of_false (by omega) fun h => h.2 (by simp) hover
      · rw [hlive, hocc, Nat.add_right_cancel_iff]
        exact ⟨fun h => ⟨h, fun _ => hover⟩, fun h => h.1⟩
    · refine iff_of_true (occupancy_clear _).symm ⟨.inl rfl, fun h => absurd hnone h⟩
    · rw [← ih]
      have hiff : (step (final step new ops) op).2.live =
          (step (final step new ops) op).2.occupancy ↔
          (final step new ops).live = (final step new ops).occupancy := by omega
      rw [hiff]
      exact ⟨fun h => ⟨.inr h, fun h' => absurd hnone h'⟩, fun h => h.1.resolve_left hne⟩

inductive UnderQuota (q : Nat) : Op α → Prop where
  | tryInsert (kind : UInt8) (v : α) : UnderQuota q (.tryInsert kind v q)
  | getMut (h : Handle) (write : α → α) : UnderQuota q (.getMut h write)
  | remove (h : Handle) : UnderQuota q (.remove h)
  | clear : UnderQuota q .clear
  | retain (ω : Type) (keep : ω → Handle → α → Bool × ω) (st : ω) :
      UnderQuota q (.retain ω keep st)

/-- In every state at most `q` entries are live, and a refused insertion finds exactly `q` and
changes nothing. -/
def QuotaKept (q : Nat) (ops : List (Op α)) : Prop :=
  ∀ before after, ops = before ++ after → (final step new before).occupancy ≤ q ∧
    ∀ kind v rest, after = .tryInsert kind v q :: rest →
      ((final step new before).tryInsert kind v q).1 = none →
        (final step new before).occupancy = q ∧
          ((final step new before).tryInsert kind v q).2 = final step new before

theorem tryInsert_eq_none (t : HandleTable α) (kind : UInt8) (v : α) (q : Nat) :
    ((t.tryInsert kind v q).1 = none ↔ q ≤ t.live) ∧
      ((t.tryInsert kind v q).1 = none → (t.tryInsert kind v q).2 = t) := by
  rw [tryInsert]
  split
  · rename_i hlt
    exact ⟨iff_of_false (fun h => (by cases h)) (Nat.not_le.mpr hlt), fun h => (by cases h)⟩
  · rename_i hge
    exact ⟨iff_of_true rfl (Nat.not_lt.mp hge), fun _ => rfl⟩

theorem live_le_quota (q : Nat) (ops : List (Op α)) (hops : ∀ op ∈ ops, UnderQuota q op) :
    (final step new ops).live ≤ q := by
  induction ops using List.reverseRecOn with
  | nil => exact Nat.zero_le q
  | append_singleton ops op ih =>
    have hbefore := ih fun o ho => hops o (List.mem_append_left _ ho)
    have hle := occupancy_le_live ops
    have hop := hops op (List.mem_append_right _ (List.mem_singleton.mpr rfl))
    rw [final_snoc]
    cases hop with
    | tryInsert kind v =>
      simp only [step, tryInsert]
      split
      · rename_i hlt
        rw [show ((final step new ops).insert kind v).2.live = _ from live_insert _ kind v]
        exact hlt
      · exact hbefore
    | getMut h write =>
      obtain ⟨k, hlive, -⟩ := (final step new ops).sheds_getMut h write
      omega
    | remove h =>
      obtain ⟨k, hlive, -⟩ := (final step new ops).sheds_remove h hle
      exact Nat.le_trans (Nat.le.intro hlive) hbefore
    | clear => exact Nat.zero_le q
    | retain ω keep st =>
      obtain ⟨k, hlive, -⟩ := (final step new ops).sheds_retain keep st hle
      exact Nat.le_trans (Nat.le.intro hlive) hbefore

/-- In every run under a quota the quota is kept if and only if the counter never stops an
insertion after another one has overwritten a live entry. With fewer than `2 ^ 32` slots it is
kept. -/
theorem quota_kept_iff (q : Nat) (ops : List (Op α)) (hops : ∀ op ∈ ops, UnderQuota q op) :
    (QuotaKept q ops ↔ ∀ before kind v rest, ops = before ++ .tryInsert kind v q :: rest →
      q ≤ (final step new before).live → NothingOverwritten before) ∧
    ((final step new ops).slots.length < 2 ^ 32 → QuotaKept q ops) := by
  have hbound (before after : List (Op α)) (he : ops = before ++ after) :
      (final step new before).live ≤ q :=
    live_le_quota q before fun op ho => hops op (he ▸ List.mem_append_left after ho)
  have hkept (hexact : ∀ before kind v rest, ops = before ++ .tryInsert kind v q :: rest →
      q ≤ (final step new before).live →
        (final step new before).live = (final step new before).occupancy) : QuotaKept q ops := by
    intro before after he
    refine ⟨Nat.le_trans (occupancy_le_live before) (hbound before after he), ?_⟩
    rintro kind v rest rfl hnone
    obtain ⟨hiff, hsame⟩ := (final step new before).tryInsert_eq_none kind v q
    have hge := hiff.mp hnone
    have heq := hexact before kind v rest he hge
    exact ⟨heq ▸ Nat.le_antisymm (hbound before _ he) hge, hsame hnone⟩
  refine ⟨⟨?_, ?_⟩, ?_⟩
  · intro h before kind v rest he hge
    obtain ⟨hiff, -⟩ := (final step new before).tryInsert_eq_none kind v q
    have hocc := ((h before _ he).2 kind v rest rfl (hiff.mpr hge)).1
    rw [← live_eq_occupancy_iff, hocc]
    exact Nat.le_antisymm (hbound before _ he) hge
  · intro h
    exact hkept fun before kind v rest he hge =>
      (live_eq_occupancy_iff before).mpr (h before kind v rest he hge)
  · intro hfits
    refine hkept fun before kind v rest he _ => ?_
    have hbefore : (final step new before).Fits :=
      accountedLedger.fits_prefix new before (.tryInsert kind v q :: rest) (he ▸ hfits)
    exact (accountedLedger.inv_final new before accounted_new hbefore).live_eq

/-- At the quota, below it again after a removal, and at it once more. -/
theorem quota_kept_iff_two : QuotaKept 2 [.tryInsert 1 'a' 2, .tryInsert 1 'b' 2,
    .tryInsert 1 'c' 2, .remove (Handle.new 1 0 0), .tryInsert 1 'd' 2] :=
  (quota_kept_iff 2 _ fun op ho => by
    simp only [List.mem_cons, List.not_mem_nil, or_false] at ho
    obtain rfl | rfl | rfl | rfl | rfl := ho <;> constructor).2 (by decide)

theorem step_tryInsert (t : HandleTable α) (kind : UInt8) (v : α) (q : Nat) (h : t.live < q) :
    t.step (.tryInsert kind v q) = (some (t.insert kind v).1, (t.insert kind v).2) := by
  rw [step, tryInsert, if_pos h]

theorem filled_tryInserts (n q : Nat) (kind : UInt8) (v : α) (hn : n ≤ q) :
    Filled n (final step new (List.replicate n (.tryInsert kind v q))) := by
  induction n with
  | zero => exact filled_new
  | succ n ih =>
    have hfilled := ih (Nat.le_of_succ_le hn)
    have hlt : (final step new (List.replicate n (.tryInsert kind v q))).live < q := by
      rw [hfilled.live_eq]
      exact hn
    rw [List.replicate_succ', final_snoc, step_tryInsert _ kind v q hlt]
    exact filled_insert n _ kind v hfilled

theorem length_free_clearLoop (slots : List (Slot α)) (i : Nat) (free : List UInt32)
    (h : ∀ slot ∈ slots, slot.value.isSome ∧ slot.generation = 0) :
    (clearLoop i slots free).2.length = slots.length + free.length := by
  induction slots generalizing i free with
  | nil => exact (Nat.zero_add _).symm
  | cons slot slots ih =>
    obtain ⟨hv, hg⟩ := h slot List.mem_cons_self
    obtain ⟨v, hv⟩ := Option.isSome_iff_exists.mp hv
    have hmax : ¬ generationMax ≤ slot.generation := by
      rw [hg]
      decide
    have hrest := ih (i + 1) (UInt32.ofNat i :: free) fun s hs => h s (List.mem_cons_of_mem slot hs)
    simp only [clearLoop, hv, dif_neg hmax]
    rw [hrest, List.length_cons, List.length_cons]
    omega

/-- A table that still lists enough free slots, with an empty slot no index reaches. -/
structure Refilling (q left : Nat) (t : HandleTable α) : Prop where
  length_free : t.free.length = left
  length_slots : t.slots.length = q
  live_eq : t.live + left = q
  unreached : ∃ slot, t.slots[2 ^ 32]? = some slot ∧ slot.value = none

theorem refilling_clear (q : Nat) (t : HandleTable α) (h : Filled q t) (hq : 2 ^ 32 < q) :
    Refilling q q t.clear := by
  have hlen : t.clear.slots.length = q := (t.length_retain _ _).trans h.length_eq
  refine ⟨?_, hlen, Nat.zero_add q, ?_⟩
  · rw [t.clear_swept.2, length_free_clearLoop t.slots 0 t.free h.occupied, h.length_eq, h.free_nil]
    rfl
  · have hi := List.getElem?_eq_getElem (l := t.clear.slots) (i := 2 ^ 32) (by omega)
    refine ⟨_, hi, ?_⟩
    cases hv : t.clear.slots[2 ^ 32].value with
    | none => rfl
    | some v =>
      have hmem := (t.clear.mem_iter _ v).mpr ⟨2 ^ 32, _, hi, hv, rfl⟩
      rw [t.iter_clear] at hmem
      cases hmem

theorem refilling_tryInsert (q left : Nat) (t : HandleTable α) (kind : UInt8) (v : α)
    (h : Refilling q (left + 1) t) : Refilling q left (t.step (.tryInsert kind v q)).2 := by
  have hlive := h.live_eq
  rw [step_tryInsert t kind v q (by omega)]
  have hfree := h.length_free
  obtain ⟨i, free, slot, hcons, hi, -, hs, hf⟩ | ⟨hnil, -⟩ := t.insert_cases kind v
  · rw [hcons, List.length_cons] at hfree
    refine ⟨by rw [hf]; omega, by rw [hs, List.length_set, h.length_slots], ?_, ?_⟩
    · rw [t.live_insert kind v]
      omega
    · obtain ⟨s, hi₀, hv₀⟩ := h.unreached
      exact ⟨s, by rw [hs, List.getElem?_set_ne (Nat.ne_of_lt i.toNat_lt), hi₀], hv₀⟩
  · rw [hnil] at hfree
    cases hfree

theorem refilling_tryInserts (q n left : Nat) (t : HandleTable α) (kind : UInt8) (v : α)
    (h : Refilling q (n + left) t) :
    Refilling q left (final step t (List.replicate n (.tryInsert kind v q))) := by
  induction n generalizing t with
  | zero => rwa [Nat.zero_add] at h
  | succ n ih =>
    rw [List.replicate_succ, final]
    exact ih _ (refilling_tryInsert q (n + left) t kind v (by rwa [Nat.succ_add] at h))

theorem refilling_cleared (q : Nat) (t : HandleTable α) (kind : UInt8) (v : α) (h : Filled q t)
    (hq : 2 ^ 32 < q) :
    Refilling q 0 (final step t (.clear :: List.replicate q (.tryInsert kind v q))) :=
  refilling_tryInserts q q 0 t.clear kind v (refilling_clear q t h hq)

/-- One entry more than there are slot indices, all freed and put back: the last one
overwrites another, and the quota refuses the next one with an entry to spare. -/
theorem quota_miscounts_past_the_limit :
    ¬ ∀ (q : Nat) (ops : List (Op Unit)), (∀ op ∈ ops, UnderQuota q op) → QuotaKept q ops := by
  intro h
  have hq : 2 ^ 32 < 2 ^ 32 + 1 := Nat.lt_succ_self _
  generalize 2 ^ 32 + 1 = q at hq
  let fill : List (Op Unit) := List.replicate q (.tryInsert 1 () q)
  have hfill (op : Op Unit) (hop : op ∈ fill) : UnderQuota q op :=
    List.eq_of_mem_replicate hop ▸ .tryInsert 1 ()
  have hkept := h q (fill ++ .clear :: fill ++ [.tryInsert 1 () q]) fun op hop => by
    rw [List.mem_append, List.mem_append, List.mem_cons, List.mem_singleton] at hop
    obtain (hop | rfl | hop) | rfl := hop
    · exact hfill op hop
    · exact .clear
    · exact hfill op hop
    · exact .tryInsert 1 ()
  have hstate : Refilling q 0 (final step new (fill ++ .clear :: fill)) := by
    rw [final_append]
    exact refilling_cleared q _ 1 () (filled_tryInserts q q 1 () (Nat.le_refl q)) hq
  have hfull : q ≤ (final step new (fill ++ .clear :: fill)).live := by
    have hlive := hstate.live_eq
    omega
  have hocc := ((hkept _ _ rfl).2 1 () [] rfl ((tryInsert_eq_none _ 1 () q).1.mpr hfull)).1
  rw [occupancy, ← hstate.length_slots, List.countP_eq_length] at hocc
  obtain ⟨slot, hi, hv⟩ := hstate.unreached
  have hsome := hocc slot (List.mem_of_getElem? hi)
  rw [occupied, hv] at hsome
  cases hsome

end HandleTable
end Graftx.Handles
