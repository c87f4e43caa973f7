import Graftx.Handles.Introspection

/-! Life times with no bound on the number of slots, for a table whose entries are inserted,
written through a handle that resolves and freed through one, but never all at once. A key
is then live once at most, and an entry whose index no handle can carry stays as it was
inserted. -/
namespace Graftx.Handles
open Graftx.Protocol Lib.Ledger
universe u
variable {α : Type u}

namespace HandleTable

/-- One such change. `init` holds of what is inserted, `put` relates what is written through
a handle to what it replaces; the handle written through is the index. -/
inductive Change (init : α → Prop) (put : α → α → Prop) (t : HandleTable α) :
    Option Handle → HandleTable α → Prop where
  | same : Change init put t none t
  | inserted (kind : UInt8) (v : α) (hv : init v) : Change init put t none (t.insert kind v).2
  | wrote (h : Handle) (old new : α) (hg : t.get h = some old) (hp : put old new) :
      Change init put t (some h) (t.store h.slot.toNat new)
  | freed (h : Handle) (old : α) (hg : t.get h = some old) :
      Change init put t none (t.release h.slot.toNat)

/-- Entries beyond the index range, which no handle reaches, are as they were inserted. -/
def Unreached (init : α → Prop) (t : HandleTable α) : Prop :=
  ∀ (i : Nat) slot v, t.slots[i]? = some slot → slot.value = some v → 2 ^ 32 ≤ i → init v

theorem Unreached.resolves {init : α → Prop} {t : HandleTable α} (ht : t.Unreached init)
    (e : Handle × α) (he : e ∈ t.iter) : t.get e.1 = some e.2 ∨ init e.2 := by
  obtain ⟨h, v⟩ := e
  obtain ⟨i, slot, hi, hv, rfl⟩ := (t.mem_iter h v).mp he
  by_cases hlow : i < 2 ^ 32
  · refine .inl ((t.get_eq_some _ v).mpr ⟨slot, (t.lookup_eq_some _ slot).mpr ⟨?_, ?_⟩, hv⟩)
    · rw [Handle.slot_new, UInt32.toNat_ofNat_of_lt' hlow, hi]
    · rw [Handle.generation_new, Handle.masked_of_le _ slot.gen_le]
  · exact .inr (ht i slot v hi hv (Nat.not_lt.mp hlow))

/-- A key moves forward through an insertion even when the fresh index does not fit. -/
theorem rank_phase_insert (t : HandleTable α) (kind : UInt8) (v : α) (ht : t.Sound)
    (k : UInt32 × UInt32) : (t.phase k).rank ≤ ((t.insert kind v).2.phase k).rank := by
  by_cases hfits : t.free = [] → t.Fits
  · obtain ⟨hfresh, hk⟩ := t.phase_insert_of kind v ht hfits
    rw [hk]
    split
    · rename_i he
      rw [he, hfresh]
      exact Nat.zero_le _
    · exact Nat.le_refl _
  · obtain ⟨hnil, hbig⟩ := Classical.not_imp.mp hfits
    have hlt : k.1.toNat < t.slots.length := Nat.lt_of_lt_of_le k.1.toNat_lt (Nat.not_lt.mp hbig)
    obtain ⟨i, free, slot, hfree, -⟩ | ⟨-, -, ⟨new, -, -, -, -, hs⟩, -⟩ := t.insert_cases kind v
    · rw [hnil] at hfree
      cases hfree
    · rw [phase, phase, hs, List.getElem?_append_left hlt]

theorem insert_reused (t : HandleTable α) (kind : UInt8) (v : α) (i : UInt32) (free : List UInt32)
    (ht : t.Sound) (hfree : t.free = i :: free) :
    (t.insert kind v).1.slot = i ∧ t.get (t.insert kind v).1 = none ∧
      (t.insert kind v).2.get (t.insert kind v).1 = some v := by
  have hfits : t.free = [] → t.Fits := fun hnil => by
    rw [hnil] at hfree
    cases hfree
  refine ⟨?_, ?_, t.get_insert_self_of kind v hfits⟩
  · obtain ⟨j, rest, slot, hfree', -, hh, -⟩ | ⟨hnil, -⟩ := t.insert_cases kind v
    · rw [hfree] at hfree'
      cases hfree'
      rw [hh, Handle.slot_new]
    · rw [hnil] at hfree
      cases hfree
  · have hfresh := (t.phase_insert_of kind v ht hfits).1
    cases hg : t.get (t.insert kind v).1 with
    | none => rfl
    | some w =>
      rw [(t.phase_eq_live _).mpr (by rw [hg]; rfl)] at hfresh
      cases hfresh

namespace Change
variable {init : α → Prop} {put : α → α → Prop} {t t' : HandleTable α}
  {w : Option Handle}

theorem sound (hc : Change init put t w t') (ht : t.Sound) : t'.Sound := by
  cases hc with
  | same => exact ht
  | inserted kind v hv => exact t.sound_insert kind v ht
  | wrote h old new hg hp =>
    obtain ⟨slot, hi, hv⟩ := t.slot_of_get h old hg
    exact t.sound_store _ slot new hi (by rw [hv]; rfl) ht
  | freed h old hg =>
    obtain ⟨slot, hi, hv⟩ := t.slot_of_get h old hg
    exact t.sound_release h.slot slot hi (by rw [hv]; rfl) ht

theorem rank_le (hc : Change init put t w t') (ht : t.Sound) (k : UInt32 × UInt32) :
    (t.phase k).rank ≤ (t'.phase k).rank := by
  cases hc with
  | same => exact Nat.le_refl _
  | inserted kind v hv => exact t.rank_phase_insert kind v ht k
  | wrote h old new hg hp =>
    obtain ⟨slot, hi, hv⟩ := t.slot_of_get h old hg
    rw [t.phase_store _ slot new hi (by rw [hv]; rfl)]
  | freed h old hg =>
    obtain ⟨slot, hi, hv⟩ := t.slot_of_get h old hg
    rw [t.phase_release h.slot slot hi (by rw [hv]; rfl) ht]
    split
    · exact Phase.rank_le _
    · exact Nat.le_refl _

theorem unreached (hc : Change init put t w t') (ht : t.Unreached init) : t'.Unreached init := by
  -- a change at an index a handle carries is not seen beyond the range
  have hset (i : UInt32) (slot' : Slot α) (hs : t'.slots = t.slots.set i.toNat slot') :
      t'.Unreached init := fun j slot v hj hv hhigh => by
    have hne : i.toNat ≠ j := Nat.ne_of_lt (Nat.lt_of_lt_of_le i.toNat_lt hhigh)
    rw [hs, List.getElem?_set_ne hne] at hj
    exact ht j slot v hj hv hhigh
  cases hc with
  | same => exact ht
  | inserted kind v hv =>
    obtain ⟨i, free, slot, -, -, -, hs, -⟩ | ⟨-, -, ⟨new, -, -, hnew, -, hs⟩, -⟩ :=
      t.insert_cases kind v
    · exact hset i _ hs
    · intro j slot w hj hw hhigh
      rw [hs, List.getElem?_append] at hj
      split at hj
      · exact ht j slot w hj hw hhigh
      · cases List.mem_singleton.mp (List.mem_of_getElem? hj)
        cases hnew.symm.trans hw
        exact hv
  | wrote h old new hg hp =>
    obtain ⟨slot, hi, -⟩ := t.slot_of_get h old hg
    exact hset h.slot _ (t.slots_store _ new slot hi)
  | freed h old hg =>
    obtain ⟨slot, hi, -⟩ := t.slot_of_get h old hg
    exact hset h.slot _ (t.slots_release _ slot hi)

theorem get_origin (hc : Change init put t w t') (h : Handle) (v : α) (hg : t'.get h = some v) :
    t.get h = some v ∨ init v ∨ ∃ old, t.get h = some old ∧ put old v := by
  cases hc with
  | same => exact .inl hg
  | inserted kind state hv =>
    obtain hold | rfl := t.get_of_get_insert kind state v h hg
    · exact .inl hold
    · exact .inr (.inl hv)
  | wrote h' old new hold hp =>
    rw [t.get_store h' h old new hold] at hg
    split at hg
    · rename_i hk
      cases hg
      exact .inr (.inr ⟨old, (t.get_congr h h' hk).trans hold, hp⟩)
    · exact .inl hg
  | freed h' old hold =>
    rw [t.get_release h' h old hold] at hg
    split at hg
    · cases hg
    · exact .inl hg

/-- What resolves after a change was just inserted, is what it was, or was just written. -/
theorem get_cases (hc : Change init put t w t') (ht : t.Sound) (h : Handle) (v : α)
    (hg : t'.get h = some v) :
    (t.get h = none ∧ init v ∧ w = none) ∨
      (t.get h = some v ∧ ∀ h', w = some h' → h'.key ≠ h.key) ∨
      ∃ h' old, w = some h' ∧ h'.key = h.key ∧ t.get h = some old ∧ put old v := by
  cases hc with
  | same => exact .inr (.inl ⟨hg, fun h' he => by cases he⟩)
  | inserted kind state hv =>
    cases hold : t.get h with
    | none =>
      obtain hsome | rfl := t.get_of_get_insert kind state v h hg
      · rw [hold] at hsome
        cases hsome
      · exact .inl ⟨rfl, hv, rfl⟩
    | some old =>
      rw [t.get_insert_of_get kind state old h ht hold] at hg
      exact .inr (.inl ⟨hg, fun h' he => by cases he⟩)
  | wrote h' old new hold hp =>
    rw [t.get_store h' h old new hold] at hg
    split at hg
    · rename_i hk
      cases hg
      exact .inr (.inr ⟨h', old, rfl, hk.symm, (t.get_congr h h' hk).trans hold, hp⟩)
    · rename_i hk
      refine .inr (.inl ⟨hg, fun h'' he => ?_⟩)
      cases he
      exact Ne.symm hk
  | freed h' old hold =>
    rw [t.get_release h' h old hold] at hg
    split at hg
    · cases hg
    · exact .inr (.inl ⟨hg, fun h'' he => by cases he⟩)

end Change
end HandleTable
end Graftx.Handles
