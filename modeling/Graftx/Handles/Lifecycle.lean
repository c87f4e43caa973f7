import Graftx.Handles.Laws
import Graftx.Lib.Ledger

/-! The life cycle of handle keys. A key is fresh until the table issues it, live while
its entry is there, and spent once the entry is freed; no operation moves it back. -/
namespace Graftx.Handles
open Graftx.Protocol Lib.Machine Lib.Ledger
universe u
variable {α : Type u}

namespace HandleTable

/-- Where the key (slot, generation) stands, read off the slot. -/
def phase (t : HandleTable α) (k : UInt32 × UInt32) : Phase :=
  match t.slots[k.1.toNat]? with
  | none => .fresh
  | some slot =>
    if k.2 < slot.generation then .spent
    else if slot.generation < k.2 then .fresh
    else if slot.value.isSome then .live
    else if slot.retired then .spent
    else .fresh

/-- What reuse rests on: free entries are empty slots still in use, listed once, and a
retired slot is empty. -/
structure Sound (t : HandleTable α) : Prop where
  free_vacant : ∀ i ∈ t.free, ∀ slot, t.slots[i.toNat]? = some slot →
    slot.value = none ∧ slot.retired = false
  free_nodup : t.free.Nodup
  live_active : ∀ (i : Nat) slot, t.slots[i]? = some slot → slot.value.isSome →
    slot.retired = false

/-- Fewer than `2 ^ 32` slots: every slot index fits its field. -/
def Fits (t : HandleTable α) : Prop := t.slots.length < 2 ^ 32

theorem sound_new : (new : HandleTable α).Sound where
  free_vacant _ hi := absurd hi (by simp [new])
  free_nodup := List.nodup_nil
  live_active i slot h := by simp [new] at h

theorem phase_of_slot (t : HandleTable α) (k : UInt32 × UInt32) (slot : Slot α)
    (h : t.slots[k.1.toNat]? = some slot) : t.phase k =
      if k.2 < slot.generation then .spent
      else if slot.generation < k.2 then .fresh
      else if slot.value.isSome then .live
      else if slot.retired then .spent
      else .fresh := by
  rw [phase, h]

theorem phase_eq_live (t : HandleTable α) (h : Handle) :
    t.phase h.key = .live ↔ (t.get h).isSome := by
  rw [get, lookup, phase, show h.key = (h.slot, h.generation) from rfl]
  simp only
  cases t.slots[h.slot.toNat]? with
  | none => simp
  | some slot =>
    simp only
    by_cases heq : slot.generation = h.generation
    · rw [heq]
      cases hv : slot.value with
      | none => cases slot.retired <;> simp [hv]
      | some v => simp [hv]
    · have hlt := UInt32.lt_or_lt_of_ne (Ne.symm heq)
      rw [if_pos heq]
      obtain hlt | hlt := hlt
      · rw [if_pos hlt]
        simp
      · rw [if_neg (UInt32.lt_asymm hlt), if_pos hlt]
        simp

theorem get_none_of_spent (t : HandleTable α) (h : Handle) (hs : t.phase h.key = .spent) :
    t.get h = none := by
  cases hg : t.get h with
  | none => rfl
  | some v =>
    rw [(t.phase_eq_live h).mpr (by rw [hg]; rfl)] at hs
    cases hs

theorem phase_of_slot_ne (t t' : HandleTable α) (i : Nat) (slot' : Slot α)
    (hs : t'.slots = t.slots.set i slot') (k : UInt32 × UInt32) (hk : k.1.toNat ≠ i) :
    t'.phase k = t.phase k := by
  rw [phase, phase, hs, List.getElem?_set_ne (Ne.symm hk)]

theorem phase_store (t : HandleTable α) (i : Nat) (slot : Slot α) (v : α)
    (hi : t.slots[i]? = some slot) (hv : slot.value.isSome) (k : UInt32 × UInt32) :
    (t.store i v).phase k = t.phase k := by
  have hs := t.slots_store i v slot hi
  by_cases hk : k.1.toNat = i
  · have hlt : i < t.slots.length := (List.getElem?_eq_some_iff.mp hi).1
    rw [phase_of_slot _ k _ (by rw [hs, hk, List.getElem?_set_self hlt]),
      phase_of_slot t k slot (by rw [hk, hi])]
    simp only [Option.isSome_some, hv]
  · exact phase_of_slot_ne _ _ i _ hs k hk

theorem sound_store (t : HandleTable α) (i : Nat) (slot : Slot α) (v : α)
    (hi : t.slots[i]? = some slot) (hv : slot.value.isSome) (ht : t.Sound) :
    (t.store i v).Sound where
  free_vacant j hj s hsj := by
    rw [free_store] at hj
    obtain ⟨rfl, -⟩ | ⟨-, hsj⟩ := slot_cases_set (t.slots_store i v slot hi) hsj
    · rw [(ht.free_vacant j hj slot hi).1] at hv
      cases hv
    · exact ht.free_vacant j hj s hsj
  free_nodup := by
    rw [free_store]
    exact ht.free_nodup
  live_active j s hsj hsome := by
    obtain ⟨-, rfl⟩ | ⟨-, hsj⟩ := slot_cases_set (t.slots_store i v slot hi) hsj
    · exact ht.live_active i slot hi hv
    · exact ht.live_active j s hsj hsome

theorem phase_release (t : HandleTable α) (i : UInt32) (slot : Slot α)
    (hi : t.slots[i.toNat]? = some slot) (hv : slot.value.isSome) (ht : t.Sound)
    (k : UInt32 × UInt32) :
    (t.release i.toNat).phase k = if k = (i, slot.generation) then .spent else t.phase k := by
  have hs := t.slots_release _ slot hi
  have hlt : i.toNat < t.slots.length := (List.getElem?_eq_some_iff.mp hi).1
  by_cases hk : k.1.toNat = i.toNat
  · have hki : k.1 = i := UInt32.toNat_inj.mp hk
    have hkeq : k = (i, slot.generation) ↔ k.2 = slot.generation := by
      rw [Prod.ext_iff]
      simp [hki]
    rw [phase_of_slot _ k _ (by rw [hs, hk, List.getElem?_set_self hlt]),
      phase_of_slot t k slot (by rw [hk, hi])]
    simp only [hkeq, Slot.value_vacate, Option.isSome_none, Bool.false_eq_true, if_false, hv,
      if_true, UInt32.lt_iff_toNat_lt, ← UInt32.toNat_inj]
    cases hx : slot.exhausted with
    | true =>
      obtain ⟨hg, hr⟩ := slot.vacate_of_exhausted hx
      rw [hg, hr]
      split_ifs <;> first | rfl | contradiction | omega
    | false =>
      obtain ⟨hg, hr⟩ := slot.vacate_of_not_exhausted hx
      rw [hg, hr, slot.toNat_succ_generation hx, ht.live_active _ slot hi hv]
      split_ifs <;> first | rfl | omega
  · rw [phase_of_slot_ne _ _ _ _ hs k hk, if_neg]
    rintro rfl
    exact hk rfl

theorem sound_release (t : HandleTable α) (i : UInt32) (slot : Slot α)
    (hi : t.slots[i.toNat]? = some slot) (hv : slot.value.isSome) (ht : t.Sound) :
    (t.release i.toNat).Sound := by
  have hs := t.slots_release _ slot hi
  have hf := t.free_release _ slot hi
  rw [UInt32.ofNat_toNat] at hf
  have hnotin : i ∉ t.free := fun hmem => by
    rw [(ht.free_vacant i hmem slot hi).1] at hv
    cases hv
  refine ⟨?_, ?_, ?_⟩
  · intro j hj s hsj
    obtain ⟨hji, rfl⟩ | ⟨hji, hsj⟩ := slot_cases_set hs hsj
    · rw [hf] at hj
      cases hx : slot.exhausted with
      | true =>
        rw [hx, if_pos rfl, UInt32.toNat_inj.mp hji] at hj
        exact absurd hj hnotin
      | false =>
        rw [(slot.vacate_of_not_exhausted hx).2]
        exact ⟨slot.value_vacate, ht.live_active _ slot hi hv⟩
    · refine ht.free_vacant j ?_ s hsj
      rw [hf] at hj
      split at hj
      · exact hj
      · obtain rfl | hj := List.mem_cons.mp hj
        · exact absurd rfl hji
        · exact hj
  · rw [hf]
    split
    · exact ht.free_nodup
    · exact List.nodup_cons.mpr ⟨hnotin, ht.free_nodup⟩
  · intro j s hsj hsome
    obtain ⟨-, rfl⟩ | ⟨-, hsj⟩ := slot_cases_set hs hsj
    · rw [slot.value_vacate] at hsome
      cases hsome
    · exact ht.live_active j s hsj hsome

/-- A slot that comes to hold a value issues the key of its generation, if no key of that
generation or a later one was out; nothing else moves. -/
theorem phase_filled (t t' : HandleTable α) (i : UInt32) (slot : Slot α)
    (hs : t'.slots[i.toNat]? = some slot) (hv : slot.value.isSome)
    (hsame : ∀ j ≠ i.toNat, t'.slots[j]? = t.slots[j]?)
    (hold : ∀ g, t.phase (i, g) = if g < slot.generation then .spent else .fresh) :
    t.phase (i, slot.generation) = .fresh ∧
      ∀ k, t'.phase k = if k = (i, slot.generation) then .live else t.phase k := by
  constructor
  · rw [hold, if_neg (UInt32.lt_irrefl _)]
  · rintro ⟨j, g⟩
    by_cases hj : j = i
    · subst hj
      rw [phase_of_slot t' (j, g) slot hs, hold]
      simp only [Prod.mk.injEq, true_and, hv, if_true, UInt32.lt_iff_toNat_lt, ← UInt32.toNat_inj]
      split_ifs <;> first | rfl | omega
    · have hne : (j, g) ≠ (i, slot.generation) := fun he => hj (congrArg Prod.fst he)
      rw [if_neg hne, phase, phase, hsame _ fun he => hj (UInt32.toNat_inj.mp he)]

/-- Insertion issues a fresh key and moves no other, unless it appends a slot whose index
does not fit. -/
theorem phase_insert_of (t : HandleTable α) (kind : UInt8) (v : α) (ht : t.Sound)
    (hfits : t.free = [] → t.Fits) :
    t.phase (t.insert kind v).1.key = .fresh ∧
      ∀ k, (t.insert kind v).2.phase k =
        if k = (t.insert kind v).1.key then .live else t.phase k := by
  obtain ⟨i, free, slot, hfree, hi, hh, hs, -⟩ |
    ⟨hnil, hh, ⟨s, hg, -, hv, -, hs⟩, -⟩ := t.insert_cases kind v
  · have hlt : i.toNat < t.slots.length := (List.getElem?_eq_some_iff.mp hi).1
    obtain ⟨hvac, hret⟩ := ht.free_vacant i (by simp [hfree]) slot hi
    have hkey : (t.insert kind v).1.key = (i, slot.generation) := by
      rw [hh, Handle.key, Handle.slot_new, Handle.generation_new,
        Handle.masked_of_le _ slot.gen_le]
    rw [hkey]
    refine phase_filled t _ i { slot with value := some v, kind := kind } ?_ rfl ?_ fun g => ?_
    · rw [hs, List.getElem?_set_self hlt]
    · intro j hj
      rw [hs, List.getElem?_set_ne (Ne.symm hj)]
    · rw [phase_of_slot t (i, g) slot hi]
      simp [hvac, hret]
  · have hkey : (t.insert kind v).1.key = (UInt32.ofNat t.slots.length, s.generation) := by
      rw [hh, Handle.key, Handle.slot_new, Handle.generation_new, hg]
      rfl
    have hn : (UInt32.ofNat t.slots.length).toNat = t.slots.length :=
      UInt32.toNat_ofNat_of_lt' (hfits hnil)
    rw [hkey]
    refine phase_filled t _ _ s ?_ (by rw [hv]; rfl) ?_ fun g => ?_
    · rw [hs, hn, List.getElem?_concat_length]
    · intro j hj
      rw [hn] at hj
      rw [hs, List.getElem?_append]
      split
      · rfl
      · rw [List.getElem?_eq_none (by simp; omega), List.getElem?_eq_none (by omega)]
    · rw [phase, hn, List.getElem?_eq_none (Nat.le_refl _), hg, if_neg (UInt32.not_lt_zero)]

theorem phase_insert (t : HandleTable α) (kind : UInt8) (v : α) (ht : t.Sound) (hfits : t.Fits) :
    t.phase (t.insert kind v).1.key = .fresh ∧
      ∀ k, (t.insert kind v).2.phase k =
        if k = (t.insert kind v).1.key then .live else t.phase k :=
  t.phase_insert_of kind v ht fun _ => hfits

theorem get_insert_of_get (t : HandleTable α) (kind : UInt8) (v w : α) (h : Handle) (ht : t.Sound)
    (hg : t.get h = some w) : (t.insert kind v).2.get h = some w := by
  obtain ⟨s, hl, hsw⟩ := (t.get_eq_some h w).mp hg
  obtain ⟨hi, hgen⟩ := (t.lookup_eq_some h s).mp hl
  have hsame (hi' : (t.insert kind v).2.slots[h.slot.toNat]? = some s) :
      (t.insert kind v).2.get h = some w :=
    (get_eq_some _ h w).mpr ⟨s, (lookup_eq_some _ h s).mpr ⟨hi', hgen⟩, hsw⟩
  obtain ⟨i, free, slot, hfree, hi', -, hs, -⟩ | ⟨-, -, ⟨new, -, -, -, -, hs⟩, -⟩ :=
    t.insert_cases kind v
  · refine hsame ?_
    have hne : i.toNat ≠ h.slot.toNat := fun he => by
      rw [he, hi] at hi'
      cases hi'
      have hvac := (ht.free_vacant i (by simp [hfree]) s (he ▸ hi)).1
      rw [hsw] at hvac
      cases hvac
    rw [hs, List.getElem?_set_ne hne, hi]
  · refine hsame ?_
    rw [hs, List.getElem?_append_left (List.getElem?_eq_some_iff.mp hi).1, hi]

theorem sound_insert (t : HandleTable α) (kind : UInt8) (v : α) (ht : t.Sound) :
    (t.insert kind v).2.Sound := by
  obtain ⟨i, free, slot, hfree, hi, -, hs, hf⟩ |
    ⟨-, -, ⟨s, -, -, -, hret, hs⟩, hf⟩ := t.insert_cases kind v
  · have hnd := ht.free_nodup
    rw [hfree] at hnd
    obtain ⟨hnotin, hnd⟩ := List.nodup_cons.mp hnd
    refine ⟨?_, by rw [hf]; exact hnd, ?_⟩
    · intro j hj s hsj
      rw [hf] at hj
      obtain ⟨hji, -⟩ | ⟨-, hsj⟩ := slot_cases_set hs hsj
      · exact absurd (UInt32.toNat_inj.mp hji ▸ hj) hnotin
      · exact ht.free_vacant j (by rw [hfree]; exact List.mem_cons_of_mem _ hj) s hsj
    · intro j s hsj hsome
      obtain ⟨-, rfl⟩ | ⟨-, hsj⟩ := slot_cases_set hs hsj
      · exact (ht.free_vacant i (by simp [hfree]) slot hi).2
      · exact ht.live_active j s hsj hsome
  · refine ⟨by simp [hf], by rw [hf]; exact List.nodup_nil, ?_⟩
    intro j s' hsj hsome
    obtain ⟨-, rfl⟩ | hsj := slot_cases_append hs hsj
    · exact hret
    · exact ht.live_active j s' hsj hsome

end HandleTable
end Graftx.Handles
