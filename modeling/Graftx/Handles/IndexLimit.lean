import Graftx.Handles.Loops

/-! The slot index past 32 bits. An appended slot then gets the index of another one, and
freeing it lists that other slot. Nothing in this module assumes that indices fit. -/
namespace Graftx.Handles
open Graftx.Protocol Lib.Machine
universe u
variable {α : Type u}

namespace HandleTable

/-- The fresh handle resolves to the value, and no other live entry answers to it. -/
def InsertsApart (t : HandleTable α) (kind : UInt8) (v : α) : Prop :=
  (t.insert kind v).2.get (t.insert kind v).1 = some v ∧
    ∀ e ∈ t.iter, e.1.key ≠ (t.insert kind v).1.key

/-- The slot an insertion takes: appended under an index that fits, or reused while empty. -/
def PicksVacant (t : HandleTable α) : Prop :=
  (t.free = [] → t.slots.length < 2 ^ 32) ∧
    ∀ i rest slot, t.free = i :: rest → t.slots[i.toNat]? = some slot → slot.value = none

/-- What generations tell, whatever the indices: an empty slot has been used, and a slot
beyond the index range has not been used twice. -/
structure Dated (t : HandleTable α) : Prop where
  vacant_used : ∀ (i : Nat) slot, t.slots[i]? = some slot → slot.value = none →
    slot.generation ≠ 0
  high_fresh : ∀ (i : Nat) slot, t.slots[i]? = some slot → slot.value.isSome → 2 ^ 32 ≤ i →
    slot.generation = 0

theorem generation_vacate_ne (s : Slot α) : s.vacate.generation ≠ 0 := by
  cases hx : s.exhausted with
  | true =>
    rw [(s.vacate_of_exhausted hx).1]
    have hle : generationMax ≤ s.generation := of_decide_eq_true hx
    intro h0
    rw [h0] at hle
    exact absurd hle (by decide)
  | false =>
    rw [(s.vacate_of_not_exhausted hx).1]
    intro h0
    have hn := congrArg UInt32.toNat h0
    rw [s.toNat_succ_generation hx] at hn
    simp at hn

theorem dated_new : (new : HandleTable α).Dated where
  vacant_used i slot hi := by simp [new] at hi
  high_fresh i slot hi := by simp [new] at hi

theorem Dated.of_inherits {t t' : HandleTable α} (ht : t.Dated) (h : Inherits t t') : t'.Dated where
  vacant_used i slot' hi hv := by
    obtain ⟨slot, hi₀, hf⟩ := h i slot' hi
    cases hf with
    | freed hv₀ hs => exact hs ▸ generation_vacate_ne slot
    | same hv₀ hk hg hr =>
      rw [hv] at hv₀
      exact hg ▸ ht.vacant_used i slot hi₀
        (Option.isNone_iff_eq_none.mp (Option.isSome_eq_false_iff.mp hv₀.symm))
  high_fresh i slot' hi hv hhigh := by
    obtain ⟨slot, hi₀, hv₀, -, hg⟩ := h.live i slot' hi hv
    rw [hg]
    exact ht.high_fresh i slot hi₀ hv₀ hhigh

theorem dated_insert (t : HandleTable α) (kind : UInt8) (v : α) (ht : t.Dated) :
    (t.insert kind v).2.Dated := by
  obtain ⟨i, free, slot, hfree, hi, hh, hs, -⟩ |
    ⟨-, hh, ⟨new, hg, hk, hv, -, hs⟩, -⟩ := t.insert_cases kind v
  · refine ⟨fun j s hj hv => ?_, fun j s hj hv hhigh => ?_⟩
    · obtain ⟨-, rfl⟩ | ⟨-, hj⟩ := slot_cases_set hs hj
      · cases hv
      · exact ht.vacant_used j s hj hv
    · obtain ⟨rfl, -⟩ | ⟨-, hj⟩ := slot_cases_set hs hj
      · exact absurd i.toNat_lt (Nat.not_lt.mpr hhigh)
      · exact ht.high_fresh j s hj hv hhigh
  · refine ⟨fun j s hj hnone => ?_, fun j s hj hsome hhigh => ?_⟩
    · obtain ⟨-, rfl⟩ | hj := slot_cases_append hs hj
      · rw [hv] at hnone
        cases hnone
      · exact ht.vacant_used j s hj hnone
    · obtain ⟨-, rfl⟩ | hj := slot_cases_append hs hj
      · exact hg
      · exact ht.high_fresh j s hj hsome hhigh

theorem dated_final (ops : List (Op α)) : (final step new ops).Dated := by
  induction ops using List.reverseRecOn with
  | nil => exact dated_new
  | append_singleton ops op ih =>
    rw [final_snoc]
    obtain ⟨kind, v, hs⟩ | ⟨-, hinh⟩ := inherits_step (final step new ops) op
    · rw [hs]
      exact dated_insert _ kind v ih
    · exact ih.of_inherits hinh

theorem insertsApart_of_picksVacant (t : HandleTable α) (kind : UInt8) (v : α) (ht : t.Dated)
    (h : t.PicksVacant) : t.InsertsApart kind v := by
  refine ⟨t.get_insert_self_of kind v h.1, fun e he hkey => ?_⟩
  obtain ⟨h', w⟩ := e
  obtain ⟨j, s, hj, hw, rfl⟩ := (t.mem_iter h' w).mp he
  have hlt := (List.getElem?_eq_some_iff.mp hj).1
  obtain ⟨hslot, hgen⟩ := (Handle.key_eq_iff _ _).mp hkey
  rw [Handle.slot_new] at hslot
  rw [Handle.generation_new, Handle.masked_of_le _ s.gen_le] at hgen
  obtain ⟨i, free, slot, hfree, hi, hh, -⟩ | ⟨hfree, hh, -⟩ := t.insert_cases kind v
  · have hvac := h.2 i free slot hfree hi
    rw [hh, Handle.slot_new] at hslot
    rw [hh, Handle.generation_new, Handle.masked_of_le _ slot.gen_le] at hgen
    by_cases hlow : j < 2 ^ 32
    · rw [← hslot, UInt32.toNat_ofNat_of_lt' hlow, hj] at hi
      cases hi
      rw [hvac] at hw
      cases hw
    · have h0 := ht.high_fresh j s hj (by rw [hw]; rfl) (Nat.not_lt.mp hlow)
      exact ht.vacant_used _ slot hi hvac (hgen.symm.trans h0)
  · have hfits := h.1 hfree
    rw [hh, Handle.slot_new] at hslot
    have hn := congrArg UInt32.toNat hslot
    rw [UInt32.toNat_ofNat_of_lt' (Nat.lt_trans hlt hfits), UInt32.toNat_ofNat_of_lt' hfits] at hn
    exact absurd hn (Nat.ne_of_lt hlt)

theorem picksVacant_of_insertsApart (t : HandleTable α) (kind : UInt8) (v : α)
    (h : t.InsertsApart kind v) : t.PicksVacant := by
  obtain ⟨hget, hapart⟩ := h
  -- an entry under the fresh key is one too many
  have hclash (j : UInt32) (s : Slot α) (w : α) (hj : t.slots[j.toNat]? = some s)
      (hw : s.value = some w) (hh : (t.insert kind v).1 = Handle.new kind s.generation j) :
      False := by
    refine hapart (Handle.new s.kind s.generation j, w) ?_ ?_
    · exact (t.mem_iter _ w).mpr ⟨j.toNat, s, hj, hw, by rw [UInt32.ofNat_toNat]⟩
    · rw [hh, Handle.key_eq_iff, Handle.slot_new, Handle.slot_new, Handle.generation_new,
        Handle.generation_new]
      exact ⟨rfl, rfl⟩
  obtain ⟨i, free, slot, hfree, hi, hh, -⟩ |
    ⟨hfree, hh, ⟨new, hg, -, -, -, hs⟩, -⟩ := t.insert_cases kind v
  · refine ⟨fun hnil => (by rw [hfree] at hnil; cases hnil), fun i' rest slot' hfree' hi' => ?_⟩
    rw [hfree] at hfree'
    cases hfree'
    rw [hi] at hi'
    cases hi'
    cases hw : slot.value with
    | none => rfl
    | some w => exact (hclash i slot w hi hw hh).elim
  · refine ⟨fun _ => ?_, fun i' rest slot' hfree' => (by rw [hfree] at hfree'; cases hfree')⟩
    by_contra hhigh
    obtain ⟨s, hl, hv⟩ := (get_eq_some _ _ v).mp hget
    obtain ⟨hj, hgen⟩ := (lookup_eq_some _ _ s).mp hl
    rw [hh, Handle.slot_new, hs] at hj
    rw [hh, Handle.generation_new] at hgen
    have hlt : (UInt32.ofNat t.slots.length).toNat < t.slots.length :=
      Nat.lt_of_lt_of_le (UInt32.toNat_lt _) (Nat.not_lt.mp hhigh)
    rw [List.getElem?_append_left hlt] at hj
    have h0 : s.generation = 0 := hgen.trans (by decide)
    exact hclash _ s v hj hv (by rw [hh, h0])

structure Filled (n : Nat) (t : HandleTable α) : Prop where
  free_nil : t.free = []
  length_eq : t.slots.length = n
  live_eq : t.live = n
  occupied : ∀ slot ∈ t.slots, slot.value.isSome ∧ slot.generation = 0

theorem filled_new : Filled 0 (new : HandleTable α) := ⟨rfl, rfl, rfl, fun _ h => by cases h⟩

theorem filled_insert (n : Nat) (t : HandleTable α) (kind : UInt8) (v : α) (h : Filled n t) :
    Filled (n + 1) (t.insert kind v).2 := by
  obtain ⟨i, free, slot, hfree, -⟩ | ⟨-, -, ⟨new, hg, -, hv, -, hs⟩, hf⟩ := t.insert_cases kind v
  · rw [h.free_nil] at hfree
    cases hfree
  · refine ⟨hf, ?_, ?_, ?_⟩
    · rw [hs, List.length_append, h.length_eq]
      rfl
    · rw [t.live_insert kind v, h.live_eq]
    · intro slot hmem
      rw [hs, List.mem_append, List.mem_singleton] at hmem
      obtain hmem | rfl := hmem
      · exact h.occupied slot hmem
      · exact ⟨by rw [hv]; rfl, hg⟩

theorem filled_inserts (n : Nat) (kind : UInt8) (v : α) :
    Filled n (final step new (List.replicate n (.insert kind v))) := by
  induction n with
  | zero => exact filled_new
  | succ n ih =>
    rw [List.replicate_succ', final_snoc]
    exact filled_insert n _ kind v ih

/-- In every state a run reaches, an insertion stays apart from the live entries if and only
if it takes an appended slot whose index fits or a reused one that is empty. -/
theorem insert_apart_iff (ops : List (Op α)) (kind : UInt8) (v : α) :
    (final step new ops).InsertsApart kind v ↔ (final step new ops).PicksVacant :=
  ⟨picksVacant_of_insertsApart _ kind v,
    insertsApart_of_picksVacant _ kind v (dated_final ops)⟩

/-- The insertion after `2 ^ 32` others returns the handle of the first one. -/
theorem insert_aliases_past_the_limit :
    ¬ ∀ (ops : List (Op Unit)) (kind : UInt8) (v : Unit),
      (final step new ops).InsertsApart kind v := by
  intro h
  have hfilled := filled_inserts (2 ^ 32) 1 ()
  have hpicks := picksVacant_of_insertsApart _ 1 ()
    (h (List.replicate (2 ^ 32) (.insert 1 ())) 1 ())
  have hlt := hpicks.1 hfilled.free_nil
  rw [hfilled.length_eq] at hlt
  exact Nat.lt_irrefl _ hlt

end HandleTable
end Graftx.Handles
