import Graftx.Handles.Runs

/-! The representation invariant of a handle table: which of three things a slot is, what
the free list lists, and that the counter of live entries counts them. -/
namespace Graftx.Handles
open Graftx.Protocol Lib.Machine Lib.Ledger
universe u
variable {α : Type u}

namespace HandleTable

def occupied (s : Slot α) : Bool := s.value.isSome

def occupancy (t : HandleTable α) : Nat := t.slots.countP occupied

def Listed (t : HandleTable α) (i : Nat) : Prop := ∃ j ∈ t.free, j.toNat = i

def ExactlyOne (a b c : Prop) : Prop := (a ∨ b ∨ c) ∧ ¬ (a ∧ b) ∧ ¬ (a ∧ c) ∧ ¬ (b ∧ c)

structure WellFormed (t : HandleTable α) : Prop where
  one_of : ∀ (i : Nat) slot, t.slots[i]? = some slot →
    ExactlyOne (slot.value.isSome) (t.Listed i) (slot.retired)
  free_nodup : t.free.Nodup
  free_vacant : ∀ i ∈ t.free, ∃ slot, t.slots[i.toNat]? = some slot ∧ slot.value = none ∧
    slot.retired = false
  live_eq : t.live = t.occupancy
  gen_le : ∀ slot ∈ t.slots, slot.generation ≤ generationMax
  retired_spent : ∀ slot ∈ t.slots, slot.retired → slot.value = none ∧
    slot.generation = generationMax

/-- Beyond soundness: no slot is lost, the counter counts, and only the last generation
retires. -/
structure Accounted (t : HandleTable α) : Prop where
  sound : t.Sound
  covered : ∀ (i : Nat) slot, t.slots[i]? = some slot → slot.value = none → slot.retired = false →
    t.Listed i
  live_eq : t.live = t.occupancy
  retired_max : ∀ (i : Nat) slot, t.slots[i]? = some slot → slot.retired →
    slot.generation = generationMax

theorem Accounted.wellFormed {t : HandleTable α} (h : t.Accounted) : t.WellFormed where
  one_of i slot hi := by
    have hlisted : t.Listed i → slot.value = none ∧ slot.retired = false := by
      rintro ⟨j, hj, rfl⟩
      exact h.sound.free_vacant j hj slot hi
    refine ⟨?_, ?_, ?_, ?_⟩
    · cases hv : slot.value with
      | some v => exact .inl rfl
      | none =>
        cases hr : slot.retired with
        | true => exact .inr (.inr rfl)
        | false => exact .inr (.inl (h.covered i slot hi hv hr))
    · rintro ⟨hv, hl⟩
      rw [(hlisted hl).1] at hv
      cases hv
    · rintro ⟨hv, hr⟩
      rw [h.sound.live_active i slot hi hv] at hr
      cases hr
    · rintro ⟨hl, hr⟩
      rw [(hlisted hl).2] at hr
      cases hr
  free_nodup := h.sound.free_nodup
  free_vacant i hi := by
    have hlt := t.free_lt i hi
    exact ⟨t.slots[i.toNat], List.getElem?_eq_getElem hlt,
      h.sound.free_vacant i hi _ (List.getElem?_eq_getElem hlt)⟩
  live_eq := h.live_eq
  gen_le slot _ := slot.gen_le
  retired_spent slot hmem hr := by
    obtain ⟨i, hi⟩ := List.mem_iff_getElem?.mp hmem
    refine ⟨?_, h.retired_max i slot hi hr⟩
    cases hv : slot.value with
    | none => rfl
    | some v =>
      rw [h.sound.live_active i slot hi (by rw [hv]; rfl)] at hr
      cases hr

theorem accounted_new : (new : HandleTable α).Accounted where
  sound := sound_new
  covered i slot hi := by simp [new] at hi
  live_eq := rfl
  retired_max i slot hi := by simp [new] at hi

theorem occupancy_set (t t' : HandleTable α) (i : Nat) (slot slot' : Slot α)
    (hi : t.slots[i]? = some slot) (hs : t'.slots = t.slots.set i slot') :
    t'.occupancy + (if occupied slot then 1 else 0) =
      t.occupancy + (if occupied slot' then 1 else 0) := by
  obtain ⟨hlt, hget⟩ := List.getElem?_eq_some_iff.mp hi
  have hpos : occupied slot → 1 ≤ t.occupancy := fun ho =>
    List.one_le_countP_iff.mpr ⟨slot, hget ▸ List.getElem_mem hlt, ho⟩
  have hset : t'.occupancy =
      t.occupancy - (if occupied slot then 1 else 0) + (if occupied slot' then 1 else 0) := by
    rw [occupancy, hs, List.countP_set hlt, hget, occupancy]
  cases ho : occupied slot with
  | false =>
    rw [ho] at hset
    simpa using hset
  | true =>
    have h1 := hpos ho
    rw [ho] at hset
    simp only [if_true] at hset ⊢
    omega

theorem accounted_release (t : HandleTable α) (i : UInt32) (slot : Slot α)
    (hi : t.slots[i.toNat]? = some slot) (hv : slot.value.isSome) (ht : t.Accounted) :
    (t.release i.toNat).Accounted ∧ (t.release i.toNat).live + 1 = t.live := by
  have hs := t.slots_release _ slot hi
  have hf := t.free_release _ slot hi
  rw [UInt32.ofNat_toNat] at hf
  have hcount := occupancy_set t _ i.toNat slot _ hi hs
  simp only [occupied, hv, Slot.value_vacate, Option.isSome_none, Bool.false_eq_true, if_true,
    if_false] at hcount
  have hlive : (t.release i.toNat).live = t.live - 1 := by
    rw [release]
    split
    · rename_i hnone
      rw [hnone] at hi
      cases hi
    · rfl
  have heq := ht.live_eq
  refine ⟨⟨t.sound_release i slot hi hv ht.sound, ?_, by omega, ?_⟩, by omega⟩
  · intro j s hj hvac hret
    -- the freed slot is on the free list itself, unless its generation is used up
    obtain ⟨rfl, rfl⟩ | ⟨-, hj⟩ := slot_cases_set hs hj
    · cases hx : slot.exhausted with
      | true =>
        rw [(slot.vacate_of_exhausted hx).2] at hret
        cases hret
      | false =>
        refine ⟨i, ?_, rfl⟩
        rw [hf, hx]
        exact List.mem_cons_self
    · obtain ⟨k, hk, hkj⟩ := ht.covered j s hj hvac hret
      refine ⟨k, ?_, hkj⟩
      rw [hf]
      split
      · exact hk
      · exact List.mem_cons_of_mem i hk
  · intro j s hj hret
    obtain ⟨-, rfl⟩ | ⟨-, hj⟩ := slot_cases_set hs hj
    · cases hx : slot.exhausted with
      | true =>
        rw [(slot.vacate_of_exhausted hx).1]
        have hge : generationMax ≤ slot.generation := of_decide_eq_true hx
        exact UInt32.le_antisymm slot.gen_le hge
      | false =>
        rw [(slot.vacate_of_not_exhausted hx).2, ht.sound.live_active _ slot hi hv] at hret
        cases hret
    · exact ht.retired_max j s hj hret

theorem accounted_store (t : HandleTable α) (i : Nat) (slot : Slot α) (v : α)
    (hi : t.slots[i]? = some slot) (hv : slot.value.isSome) (ht : t.Accounted) :
    (t.store i v).Accounted := by
  have hs := t.slots_store i v slot hi
  have hcount := occupancy_set t _ i slot _ hi hs
  simp only [occupied, hv, Option.isSome_some, if_true] at hcount
  have hlive : (t.store i v).live = t.live := by
    rw [store]
    split <;> rfl
  refine ⟨t.sound_store i slot v hi hv ht.sound, ?_, ?_, ?_⟩
  · intro j s hj hvac hret
    rw [Listed, free_store]
    obtain ⟨-, rfl⟩ | ⟨-, hj⟩ := slot_cases_set hs hj
    · cases hvac
    · exact ht.covered j s hj hvac hret
  · rw [hlive, ht.live_eq]
    omega
  · intro j s hj hret
    obtain ⟨-, rfl⟩ | ⟨-, hj⟩ := slot_cases_set hs hj
    · exact ht.retired_max i slot hi hret
    · exact ht.retired_max j s hj hret

theorem live_insert (t : HandleTable α) (kind : UInt8) (v : α) :
    (t.insert kind v).2.live = t.live + 1 := by
  rw [insert]
  split <;> rfl

theorem accounted_insert (t : HandleTable α) (kind : UInt8) (v : α) (ht : t.Accounted) :
    (t.insert kind v).2.Accounted := by
  have hsound := t.sound_insert kind v ht.sound
  have hlive := t.live_insert kind v
  have heq := ht.live_eq
  obtain ⟨i, free, slot, hfree, hi, -, hs, hf⟩ |
    ⟨hfree, -, ⟨new, -, -, hv, hret, hs⟩, -⟩ := t.insert_cases kind v
  · obtain ⟨hvac, hret⟩ := ht.sound.free_vacant i (by simp [hfree]) slot hi
    have hcount := occupancy_set t _ i.toNat slot _ hi hs
    simp only [occupied, hvac, Option.isSome_none, Bool.false_eq_true, if_false,
      Option.isSome_some, if_true] at hcount
    refine ⟨hsound, ?_, by omega, ?_⟩
    · intro j s hj hjv hjr
      obtain ⟨-, rfl⟩ | ⟨hji, hj⟩ := slot_cases_set hs hj
      · cases hjv
      · obtain ⟨k, hk, hkj⟩ := ht.covered j s hj hjv hjr
        rw [hfree] at hk
        obtain rfl | hk := List.mem_cons.mp hk
        · exact absurd hkj.symm hji
        · exact ⟨k, hf ▸ hk, hkj⟩
    · intro j s hj hjr
      obtain ⟨-, rfl⟩ | ⟨-, hj⟩ := slot_cases_set hs hj
      · exact ht.retired_max i.toNat slot hi hjr
      · exact ht.retired_max j s hj hjr
  · have hcount : (t.insert kind v).2.occupancy = t.occupancy + 1 := by
      rw [occupancy, hs, List.countP_append, List.countP_singleton, if_pos (by simp [occupied, hv])]
      rfl
    refine ⟨hsound, ?_, by omega, ?_⟩
    · intro j s hj hjv hjr
      obtain ⟨-, rfl⟩ | hold := slot_cases_append hs hj
      · rw [hv] at hjv
        cases hjv
      · obtain ⟨k, hk, -⟩ := ht.covered j s hold hjv hjr
        rw [hfree] at hk
        cases hk
    · intro j s hj hjr
      obtain ⟨-, rfl⟩ | hold := slot_cases_append hs hj
      · rw [hret] at hjr
        cases hjr
      · exact ht.retired_max j s hold hjr

theorem accounted_remove (t : HandleTable α) (h : Handle) (ht : t.Accounted) :
    (t.remove h).2.Accounted ∧
      ∀ v, (t.remove h).1 = some v → (t.remove h).2.live + 1 = t.live := by
  obtain hr | ⟨v, slot, -, hi, hv, hr⟩ := t.remove_cases h
  · rw [hr]
    exact ⟨ht, fun v hv => by cases hv⟩
  · rw [hr]
    obtain ⟨hacc, hlive⟩ := t.accounted_release h.slot slot hi hv ht
    exact ⟨hacc, fun _ _ => hlive⟩

theorem accounted_retain {ω : Type} (t : HandleTable α) (keep : ω → Handle → α → Bool × ω) (st : ω)
    (ht : t.Accounted) (hfits : t.Fits) : (t.retain keep st).1.Accounted ∧
      (t.retain keep st).1.live + (t.retain keep st).2.2 = t.live := by
  rw [retain]
  refine List.foldlRecOn
    (motive := fun p => p.1.Accounted ∧ p.1.live + p.2.2 = t.live) (b := (t, st, 0)) _ (visit keep)
    ⟨ht, rfl⟩ ?_
  intro p hp i hi
  have hlt : i < 2 ^ 32 := Nat.lt_trans (List.mem_range.mp hi) hfits
  have hn : (UInt32.ofNat i).toNat = i := UInt32.toNat_ofNat_of_lt' hlt
  obtain ⟨t', st', n⟩ := p
  obtain ⟨hacc, hsum⟩ := hp
  simp only [visit]
  cases hs : t'.slots[i]? with
  | none => exact ⟨hacc, hsum⟩
  | some slot =>
    simp only
    cases hv : slot.value with
    | none => exact ⟨hacc, hsum⟩
    | some v =>
      obtain ⟨hfreed, hlive⟩ :=
        t'.accounted_release (UInt32.ofNat i) slot (by rw [hn, hs]) (by rw [hv]; rfl) hacc
      rw [hn] at hfreed hlive
      simp only at hsum ⊢
      split
      · exact ⟨hacc, hsum⟩
      · exact ⟨hfreed, by simp only; omega⟩

theorem accounted_clear (t : HandleTable α) (ht : t.Accounted) (hfits : t.Fits) :
    t.clear.Accounted := by
  obtain ⟨hsound, hcov, -, hmax⟩ := (t.accounted_retain (fun st _ _ => (false, st)) () ht hfits).1
  have hempty : t.clear.occupancy = 0 := by
    refine List.countP_eq_zero.mpr fun slot hmem hocc => ?_
    obtain ⟨i, hi⟩ := List.mem_iff_getElem?.mp hmem
    have hlt := (List.getElem?_eq_some_iff.mp hi).1
    have hlen : t.clear.slots.length = t.slots.length := t.length_retain _ _
    rw [hlen] at hlt
    exact (vacant_of_visited _ _ i slot hi hocc).1 (List.mem_range.mpr hlt)
  exact ⟨⟨hsound.free_vacant, hsound.free_nodup, hsound.live_active⟩, hcov, hempty.symm, hmax⟩

theorem accounted_getMut (t : HandleTable α) (h : Handle) (write : α → α) (ht : t.Accounted) :
    (t.step (.getMut h write)).2.Accounted := by
  obtain hs | ⟨v, slot, -, hi, hv, hs⟩ := t.step_getMut_cases h write
  · rw [hs]
    exact ht
  · rw [hs]
    exact t.accounted_store _ slot _ hi hv ht

theorem accounted_step (t : HandleTable α) (op : Op α) (ht : t.Accounted) (hfits : t.Fits) :
    (t.step op).2.Accounted := by
  cases op with
  | insert kind v => exact t.accounted_insert kind v ht
  | tryInsert kind v maxLive =>
    simp only [step, tryInsert]
    split
    · exact t.accounted_insert kind v ht
    · exact ht
  | getMut h write => exact t.accounted_getMut h write ht
  | remove h => exact (t.accounted_remove h ht).1
  | clear => exact t.accounted_clear ht hfits
  | retain ω keep st => exact (t.accounted_retain keep st ht hfits).1

theorem accountedLedger : Keeps (@step α) (fun r => r.map Handle.key) phase Fits Accounted where
  fits_back := keepsLedger.fits_back
  inv_step t op ht h := t.accounted_step op ht (keepsLedger.fits_back t op h)
  forward t op k ht h := keepsLedger.forward t op k ht.sound h
  issue t op k ht h hk := keepsLedger.issue t op k ht.sound h hk

/-- In every state a run reaches the representation is intact. A reused slot is then in
range and empty, and no decrement of the counter passes below zero. -/
theorem representation_invariant (ops : List (Op α))
    (hfits : (final step new ops).slots.length < 2 ^ 32) :
    let t := final step new ops
    t.WellFormed ∧
      (∀ i rest, t.free = i :: rest → ∃ slot, t.slots[i.toNat]? = some slot ∧ slot.value = none) ∧
      (∀ kind v h w, t.get h = some w → (t.insert kind v).2.get h = some w) ∧
      (∀ h v, (t.remove h).1 = some v → 1 ≤ t.live ∧ (t.remove h).2.live = t.live - 1) ∧
      ∀ (ω : Type) (keep : ω → Handle → α → Bool × ω) (st : ω),
        (t.retain keep st).2.2 ≤ t.live ∧
        (t.retain keep st).1.live = t.live - (t.retain keep st).2.2 := by
  intro t
  have ht : t.Accounted := accountedLedger.inv_final new ops accounted_new hfits
  refine ⟨ht.wellFormed, ?_, ?_, ?_, ?_⟩
  · intro i rest hfree
    obtain ⟨slot, hi, hv, -⟩ := ht.wellFormed.free_vacant i (by simp [hfree])
    exact ⟨slot, hi, hv⟩
  · intro kind v h w hg
    exact t.get_insert_of_get kind v w h ht.sound hg
  · intro h v hv
    have hlive := (t.accounted_remove h ht).2 v hv
    omega
  · intro ω keep st
    have hlive := (t.accounted_retain keep st ht hfits).2
    omega

/-- Two insertions, a removal and a reuse, then everything but the reused slot is freed. -/
theorem representation_invariant_reuse :
    (final step new [.insert 1 'a', .insert 1 'b', .remove (Handle.new 1 0 0), .insert 2 'c',
      .retain Unit (fun st h _ => (h.kind = 2, st)) ()]).WellFormed :=
  (representation_invariant [.insert 1 'a', .insert 1 'b', .remove (Handle.new 1 0 0),
    .insert 2 'c', .retain Unit (fun st h _ => (h.kind = 2, st)) ()] (by decide)).1

end HandleTable
end Graftx.Handles
