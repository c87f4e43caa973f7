import Graftx.Handles.Table

/-! What each table operation does to the lookups of every handle. A handle acts
through its key only, and an operation on one key leaves every other key alone. -/
namespace Graftx.Handles
open Graftx.Protocol
universe u
variable {α : Type u}

namespace HandleTable

theorem slot_cases_set {t t' : HandleTable α} {i j : Nat} {slot' s : Slot α}
    (hs : t'.slots = t.slots.set i slot') (hj : t'.slots[j]? = some s) :
    (j = i ∧ s = slot') ∨ (j ≠ i ∧ t.slots[j]? = some s) := by
  rw [hs] at hj
  by_cases hji : j = i
  · subst hji
    have hlt := (List.getElem?_eq_some_iff.mp hj).1
    rw [List.length_set] at hlt
    rw [List.getElem?_set_self hlt] at hj
    exact .inl ⟨rfl, (Option.some.inj hj).symm⟩
  · rw [List.getElem?_set_ne (Ne.symm hji)] at hj
    exact .inr ⟨hji, hj⟩

theorem slot_cases_append {t t' : HandleTable α} {j : Nat} {new s : Slot α}
    (hs : t'.slots = t.slots ++ [new]) (hj : t'.slots[j]? = some s) :
    (j = t.slots.length ∧ s = new) ∨ t.slots[j]? = some s := by
  rw [hs, List.getElem?_append] at hj
  split at hj
  · exact .inr hj
  · have hlt := (List.getElem?_eq_some_iff.mp hj).1
    rw [List.length_singleton] at hlt
    exact .inl ⟨by omega, List.mem_singleton.mp (List.mem_of_getElem? hj)⟩

theorem lookup_eq_some (t : HandleTable α) (h : Handle) (slot : Slot α) :
    t.lookup h = some slot ↔
      t.slots[h.slot.toNat]? = some slot ∧ slot.generation = h.generation := by
  rw [lookup]
  cases t.slots[h.slot.toNat]? with
  | none => simp
  | some s =>
    change (if s.generation ≠ h.generation then none else some s) = some slot ↔ _
    by_cases hg : s.generation = h.generation
    · rw [if_neg (not_not.mpr hg)]
      constructor
      · rintro ⟨rfl⟩
        exact ⟨rfl, hg⟩
      · exact fun h => h.1
    · rw [if_pos hg]
      constructor
      · intro h
        cases h
      · rintro ⟨⟨rfl⟩, h⟩
        exact absurd h hg

theorem get_eq_some (t : HandleTable α) (h : Handle) (v : α) :
    t.get h = some v ↔ ∃ slot, t.lookup h = some slot ∧ slot.value = some v := by
  rw [get]
  cases t.lookup h with
  | none => simp
  | some s => simp

theorem slot_of_get (t : HandleTable α) (h : Handle) (v : α) (hg : t.get h = some v) :
    ∃ slot, t.slots[h.slot.toNat]? = some slot ∧ slot.value = some v := by
  obtain ⟨slot, hl, hv⟩ := (t.get_eq_some h v).mp hg
  exact ⟨slot, ((t.lookup_eq_some h slot).mp hl).1, hv⟩

theorem lookup_congr (t : HandleTable α) (a b : Handle) (h : a.key = b.key) :
    t.lookup a = t.lookup b := by
  obtain ⟨hs, hg⟩ := (Handle.key_eq_iff a b).mp h
  rw [lookup, lookup, hs, hg]

theorem get_congr (t : HandleTable α) (a b : Handle) (h : a.key = b.key) : t.get a = t.get b := by
  rw [get, get, t.lookup_congr a b h]

theorem isLive_iff (t : HandleTable α) (h : Handle) : t.isLive h ↔ t.get h ≠ none := by
  rw [isLive, Option.isSome_iff_ne_none]

theorem isLive_of_not_isNone (t : HandleTable α) (h : Handle) (hn : ¬ (t.get h).isNone) :
    t.isLive h := by
  simpa [isLive, Option.isSome_iff_ne_none] using hn

theorem getMut_eq_none (t : HandleTable α) (h : Handle) : t.getMut h = none ↔ t.get h = none := by
  rw [getMut, get]
  cases t.lookup h with
  | none => exact iff_of_true rfl rfl
  | some slot => cases hv : slot.value <;> simp [hv]

theorem getMut_eq_some (t : HandleTable α) (h : Handle) (v : α) (w : α → HandleTable α) :
    t.getMut h = some (v, w) ↔ t.get h = some v ∧ w = t.store h.slot.toNat := by
  rw [getMut, get]
  cases t.lookup h with
  | none => simp
  | some slot =>
    cases hv : slot.value with
    | none => simp [hv]
    | some v' => simp [hv, eq_comm]

theorem remove_of_get_none (t : HandleTable α) (h : Handle) (hg : t.get h = none) :
    t.remove h = (none, t) := by
  rw [get] at hg
  rw [remove]
  cases hl : t.lookup h with
  | none => rfl
  | some slot =>
    rw [hl] at hg
    simp only at hg ⊢
    rw [hg]

theorem remove_of_get_some (t : HandleTable α) (h : Handle) (v : α) (hg : t.get h = some v) :
    t.remove h = (some v, t.release h.slot.toNat) := by
  obtain ⟨slot, hl, hv⟩ := (t.get_eq_some h v).mp hg
  rw [remove, hl]
  simp only
  rw [hv]

/-- A removal changes nothing, or frees the occupied slot its handle names. -/
theorem remove_cases (t : HandleTable α) (h : Handle) : t.remove h = (none, t) ∨
    ∃ v slot, t.get h = some v ∧ t.slots[h.slot.toNat]? = some slot ∧ slot.value.isSome ∧
      t.remove h = (some v, t.release h.slot.toNat) := by
  cases hg : t.get h with
  | none => exact .inl (t.remove_of_get_none h hg)
  | some v =>
    obtain ⟨slot, hi, hv⟩ := t.slot_of_get h v hg
    exact .inr ⟨v, slot, rfl, hi, by rw [hv]; rfl, t.remove_of_get_some h v hg⟩

theorem remove_fst (t : HandleTable α) (h : Handle) : (t.remove h).1 = t.get h := by
  cases hg : t.get h with
  | none => rw [t.remove_of_get_none h hg]
  | some v => rw [t.remove_of_get_some h v hg]

theorem slots_release (t : HandleTable α) (i : Nat) (slot : Slot α) (hi : t.slots[i]? = some slot) :
    (t.release i).slots = t.slots.set i slot.vacate := by
  rw [release]
  split
  · rename_i h
    rw [h] at hi
    cases hi
  · rename_i s h
    rw [h] at hi
    cases hi
    rfl

theorem free_release (t : HandleTable α) (i : Nat) (slot : Slot α) (hi : t.slots[i]? = some slot) :
    (t.release i).free = if slot.exhausted then t.free else UInt32.ofNat i :: t.free := by
  rw [release]
  split
  · rename_i h
    rw [h] at hi
    cases hi
  · rename_i s h
    rw [h] at hi
    cases hi
    rfl

theorem release_of_none (t : HandleTable α) (i : Nat) (hi : t.slots[i]? = none) :
    t.release i = t := by
  rw [release]
  split
  · rfl
  · rename_i s h
    rw [h] at hi
    cases hi

theorem slots_store (t : HandleTable α) (i : Nat) (v : α) (slot : Slot α)
    (hi : t.slots[i]? = some slot) :
    (t.store i v).slots = t.slots.set i { slot with value := some v } := by
  rw [store]
  split
  · rename_i h
    rw [h] at hi
    cases hi
  · rename_i s h
    rw [h] at hi
    cases hi
    rfl

theorem store_of_none (t : HandleTable α) (i : Nat) (v : α) (hi : t.slots[i]? = none) :
    t.store i v = t := by
  rw [store]
  split
  · rfl
  · rename_i s h
    rw [h] at hi
    cases hi

@[simp] theorem free_store (t : HandleTable α) (i : Nat) (v : α) : (t.store i v).free = t.free := by
  rw [store]
  split <;> rfl

@[simp] theorem length_release (t : HandleTable α) (i : Nat) :
    (t.release i).slots.length = t.slots.length := by
  cases hi : t.slots[i]? with
  | none => rw [t.release_of_none i hi]
  | some slot => rw [t.slots_release i slot hi, List.length_set]

@[simp] theorem length_store (t : HandleTable α) (i : Nat) (v : α) :
    (t.store i v).slots.length = t.slots.length := by
  cases hi : t.slots[i]? with
  | none => rw [t.store_of_none i v hi]
  | some slot => rw [t.slots_store i v slot hi, List.length_set]

/-- The two ways an insertion goes, with everything it produces. -/
theorem insert_cases (t : HandleTable α) (kind : UInt8) (v : α) :
    (∃ i free slot, t.free = i :: free ∧ t.slots[i.toNat]? = some slot ∧
      (t.insert kind v).1 = Handle.new kind slot.generation i ∧
      (t.insert kind v).2.slots = t.slots.set i.toNat { slot with value := some v, kind := kind } ∧
      (t.insert kind v).2.free = free) ∨
    (t.free = [] ∧ (t.insert kind v).1 = Handle.new kind 0 (UInt32.ofNat t.slots.length) ∧
      (∃ slot : Slot α, slot.generation = 0 ∧ slot.kind = kind ∧ slot.value = some v ∧
        slot.retired = false ∧ (t.insert kind v).2.slots = t.slots ++ [slot]) ∧
      (t.insert kind v).2.free = []) := by
  rw [insert]
  split
  · rename_i i free hfree
    have hlt : i.toNat < t.slots.length := t.free_lt i (by simp [hfree])
    exact .inl ⟨i, free, _, hfree, List.getElem?_eq_getElem hlt, rfl, rfl, rfl⟩
  · rename_i hfree
    exact .inr ⟨hfree, rfl, ⟨_, rfl, rfl, rfl, rfl, rfl⟩, rfl⟩

@[simp] theorem kind_insert (t : HandleTable α) (kind : UInt8) (v : α) :
    (t.insert kind v).1.kind = kind := by
  obtain ⟨i, free, slot, -, -, hh, -⟩ | ⟨-, hh, -⟩ := t.insert_cases kind v <;>
    rw [hh, Handle.kind_new]

theorem length_le_insert (t : HandleTable α) (kind : UInt8) (v : α) :
    t.slots.length ≤ (t.insert kind v).2.slots.length := by
  obtain ⟨i, free, slot, -, -, -, hs, -⟩ | ⟨-, -, ⟨s, -, -, -, -, hs⟩, -⟩ := t.insert_cases kind v
  · exact Nat.le_of_eq (by rw [hs, List.length_set])
  · rw [hs, List.length_append]
    exact Nat.le_add_right _ _

theorem length_insert_le (t : HandleTable α) (kind : UInt8) (v : α) :
    (t.insert kind v).2.slots.length ≤ t.slots.length + 1 := by
  obtain ⟨i, free, slot, -, -, -, hs, -⟩ | ⟨-, -, ⟨s, -, -, -, -, hs⟩, -⟩ := t.insert_cases kind v
  · rw [hs, List.length_set]
    exact Nat.le_add_right _ _
  · rw [hs, List.length_append]
    exact Nat.le_refl _

/-- Lookup in a table where only slot `i` differs, and there only in ways that do not
make another generation resolve. -/
theorem get_of_slots_set (t t' : HandleTable α) (i : Nat) (slot slot' : Slot α)
    (hi : t.slots[i]? = some slot) (hs : t'.slots = t.slots.set i slot') (h : Handle)
    (hkey : h.slot.toNat = i → h.generation ≠ slot.generation)
    (hslot' : slot'.generation = slot.generation ∨ slot'.value = none) :
    t'.get h = t.get h := by
  by_cases hh : h.slot.toNat = i
  · have hne := hkey hh
    have hlt : i < t.slots.length := (List.getElem?_eq_some_iff.mp hi).1
    have hnow : t'.slots[h.slot.toNat]? = some slot' := by
      rw [hs, hh, List.getElem?_set_self hlt]
    have hold : t.get h = none := by
      rw [get, lookup, hh, hi]
      simp only
      rw [if_pos (Ne.symm hne)]
    rw [hold, get, lookup, hnow]
    simp only
    obtain hg | hv := hslot'
    · rw [if_pos (by rw [hg]; exact Ne.symm hne)]
    · by_cases hg : slot'.generation ≠ h.generation
      · rw [if_pos hg]
      · rw [if_neg hg]
        exact hv
  · rw [get, get, lookup, lookup, hs, List.getElem?_set_ne (Ne.symm hh)]

theorem get_insert_of_key_ne (t : HandleTable α) (kind : UInt8) (v : α) (h : Handle)
    (hne : h.key ≠ (t.insert kind v).1.key) : (t.insert kind v).2.get h = t.get h := by
  obtain ⟨i, free, slot, -, hi, hh, hs, -⟩ |
    ⟨-, hh, ⟨s, hg, -, -, -, hs⟩, -⟩ := t.insert_cases kind v
  · refine get_of_slots_set t _ i.toNat slot _ hi hs h (fun hslot hgen => hne ?_) (.inl rfl)
    rw [hh, Handle.key_eq_iff, Handle.slot_new, Handle.generation_new,
      Handle.masked_of_le _ slot.gen_le]
    exact ⟨UInt32.toNat_inj.mp hslot, hgen⟩
  · rw [get, get, lookup, lookup, hs]
    by_cases hlt : h.slot.toNat < t.slots.length
    · rw [List.getElem?_append_left hlt]
    · have hold : t.slots[h.slot.toNat]? = none := List.getElem?_eq_none (by omega)
      rw [hold]
      by_cases heq : h.slot.toNat = t.slots.length
      · rw [heq, List.getElem?_concat_length]
        have hgen : s.generation ≠ h.generation := by
          intro hgen
          apply hne
          rw [hh, Handle.key_eq_iff, Handle.slot_new, Handle.generation_new, ← hgen, hg]
          refine ⟨?_, by decide⟩
          rw [← heq, UInt32.ofNat_toNat]
        simp only
        rw [if_pos hgen]
      · rw [List.getElem?_eq_none (by simp; omega)]

theorem get_insert_self_of (t : HandleTable α) (kind : UInt8) (v : α)
    (hfits : t.free = [] → t.slots.length < 2 ^ 32) :
    (t.insert kind v).2.get (t.insert kind v).1 = some v := by
  rw [get_eq_some]
  obtain ⟨i, free, slot, -, hi, hh, hs, -⟩ |
    ⟨hfree, hh, ⟨s, hg, -, hv, -, hs⟩, -⟩ := t.insert_cases kind v
  · have hlt : i.toNat < t.slots.length := (List.getElem?_eq_some_iff.mp hi).1
    refine ⟨{ slot with value := some v, kind := kind }, (lookup_eq_some _ _ _).mpr ⟨?_, ?_⟩, rfl⟩
    · rw [hs, hh, Handle.slot_new, List.getElem?_set_self hlt]
    · rw [hh, Handle.generation_new, Handle.masked_of_le _ slot.gen_le]
  · refine ⟨s, (lookup_eq_some _ _ _).mpr ⟨?_, ?_⟩, hv⟩
    · rw [hs, hh, Handle.slot_new, UInt32.toNat_ofNat_of_lt' (hfits hfree),
        List.getElem?_concat_length]
    · rw [hg, hh, Handle.generation_new]
      decide

theorem get_insert_self (t : HandleTable α) (kind : UInt8) (v : α)
    (hfits : t.slots.length < 2 ^ 32) : (t.insert kind v).2.get (t.insert kind v).1 = some v :=
  t.get_insert_self_of kind v fun _ => hfits

theorem get_of_get_insert (t : HandleTable α) (kind : UInt8) (v w : α) (h : Handle)
    (hg : (t.insert kind v).2.get h = some w) : t.get h = some w ∨ w = v := by
  obtain ⟨s, hl, hw⟩ := (get_eq_some _ h w).mp hg
  obtain ⟨hs, hgen⟩ := (lookup_eq_some _ h s).mp hl
  have hold (hi : t.slots[h.slot.toNat]? = some s) : t.get h = some w :=
    (t.get_eq_some h w).mpr ⟨s, (t.lookup_eq_some h s).mpr ⟨hi, hgen⟩, hw⟩
  obtain ⟨i, free, slot, -, hi, -, hslots, -⟩ |
    ⟨-, -, ⟨new, -, -, hv, -, hslots⟩, -⟩ := t.insert_cases kind v
  · rw [hslots, List.getElem?_set] at hs
    split at hs
    · split at hs
      · cases hs
        exact .inr (Option.some.inj hw).symm
      · cases hs
    · exact .inl (hold hs)
  · rw [hslots] at hs
    rw [List.getElem?_append] at hs
    split at hs
    · exact .inl (hold hs)
    · rw [List.getElem?_singleton] at hs
      split at hs
      · cases hs
        rw [hv] at hw
        exact .inr (Option.some.inj hw).symm
      · cases hs

theorem isLive_insert (t : HandleTable α) (kind : UInt8) (v : α) (h : Handle) (hl : t.isLive h) :
    (t.insert kind v).2.isLive h := by
  obtain ⟨w, hw⟩ := Option.isSome_iff_exists.mp hl
  obtain ⟨s, hs, hsw⟩ := (t.get_eq_some h w).mp hw
  obtain ⟨hi, hgen⟩ := (t.lookup_eq_some h s).mp hs
  have hlt : h.slot.toNat < t.slots.length := (List.getElem?_eq_some_iff.mp hi).1
  have hnow (s' : Slot α) (x : α) (hi' : (t.insert kind v).2.slots[h.slot.toNat]? = some s')
      (hgen' : s'.generation = h.generation) (hx : s'.value = some x) :
      (t.insert kind v).2.isLive h := by
    rw [isLive, (get_eq_some _ h x).mpr ⟨s', (lookup_eq_some _ h s').mpr ⟨hi', hgen'⟩, hx⟩]
    rfl
  obtain ⟨i, free, slot, -, hi', -, hslots, -⟩ |
    ⟨-, -, ⟨new, -, -, -, -, hslots⟩, -⟩ := t.insert_cases kind v
  · by_cases hslot : i.toNat = h.slot.toNat
    · rw [hslot, hi] at hi'
      cases hi'
      exact hnow { s with value := some v, kind := kind } v
        (by rw [hslots, hslot, List.getElem?_set_self hlt]) hgen rfl
    · exact hnow s w (by rw [hslots, List.getElem?_set_ne hslot, hi]) hgen hsw
  · exact hnow s w (by rw [hslots, List.getElem?_append_left hlt, hi]) hgen hsw

theorem get_release (t : HandleTable α) (h h' : Handle) (v : α) (hg : t.get h = some v) :
    (t.release h.slot.toNat).get h' = if h'.key = h.key then none else t.get h' := by
  obtain ⟨slot, hl, -⟩ := (t.get_eq_some h v).mp hg
  obtain ⟨hi, hgen⟩ := (t.lookup_eq_some h slot).mp hl
  have hs := t.slots_release _ slot hi
  have hlt : h.slot.toNat < t.slots.length := (List.getElem?_eq_some_iff.mp hi).1
  by_cases hk : h'.key = h.key
  · rw [if_pos hk]
    obtain ⟨hks, -⟩ := (Handle.key_eq_iff _ _).mp hk
    rw [get, lookup, hs, hks, List.getElem?_set_self hlt]
    simp only
    by_cases hne : slot.vacate.generation ≠ h'.generation
    · rw [if_pos hne]
    · rw [if_neg hne]
      exact slot.value_vacate
  · rw [if_neg hk]
    refine get_of_slots_set t _ _ slot _ hi hs h' (fun hslot hgen' => hk ?_)
      (.inr slot.value_vacate)
    rw [Handle.key_eq_iff]
    exact ⟨UInt32.toNat_inj.mp hslot, hgen'.trans hgen⟩

theorem get_remove (t : HandleTable α) (h h' : Handle) :
    (t.remove h).2.get h' = if h'.key = h.key then none else t.get h' := by
  cases hg : t.get h with
  | none =>
    rw [t.remove_of_get_none h hg]
    by_cases hk : h'.key = h.key
    · rw [if_pos hk, t.get_congr h' h hk, hg]
    · rw [if_neg hk]
  | some v => rw [t.remove_of_get_some h v hg, t.get_release h h' v hg]

theorem get_store (t : HandleTable α) (h h' : Handle) (v w : α) (hg : t.get h = some v) :
    (t.store h.slot.toNat w).get h' = if h'.key = h.key then some w else t.get h' := by
  obtain ⟨slot, hl, -⟩ := (t.get_eq_some h v).mp hg
  obtain ⟨hi, hgen⟩ := (t.lookup_eq_some h slot).mp hl
  have hs := t.slots_store _ w slot hi
  have hlt : h.slot.toNat < t.slots.length := (List.getElem?_eq_some_iff.mp hi).1
  by_cases hk : h'.key = h.key
  · rw [if_pos hk, t.store _ w |>.get_congr h' h hk, get_eq_some]
    refine ⟨{ slot with value := some w }, (lookup_eq_some _ _ _).mpr ⟨?_, hgen⟩, rfl⟩
    rw [hs, List.getElem?_set_self hlt]
  · rw [if_neg hk]
    refine get_of_slots_set t _ _ slot _ hi hs h' (fun hslot hgen' => hk ?_) (.inl rfl)
    rw [Handle.key_eq_iff]
    exact ⟨UInt32.toNat_inj.mp hslot, hgen'.trans hgen⟩

theorem get_store_eq_none (t : HandleTable α) (h h' : Handle) (v w : α) (hg : t.get h = some v) :
    (t.store h.slot.toNat w).get h' = none ↔ t.get h' = none := by
  rw [t.get_store h h' v w hg]
  by_cases hk : h'.key = h.key
  · rw [if_pos hk, t.get_congr h' h hk, hg]
    exact iff_of_false (Option.some_ne_none w) (Option.some_ne_none v)
  · rw [if_neg hk]

theorem isLive_store (t : HandleTable α) (h h' : Handle) (v w : α) (hg : t.get h = some v) :
    (t.store h.slot.toNat w).isLive h' ↔ t.isLive h' := by
  rw [isLive_iff, isLive_iff]
  exact not_congr (t.get_store_eq_none h h' v w hg)

end HandleTable
end Graftx.Handles
