import Graftx.Handles.Introspection
import Graftx.Lib.Saturation
import Mathlib.Order.Bounds.Basic

/-! What a handle table costs over a whole run. It never has more slots than some moment of the
run asked for, and the slots tell how many handles the run gave out. -/
namespace Graftx.Handles
open Graftx.Protocol Lib.Machine Lib.Ledger Lib.Saturation
universe u
variable {α : Type u}

/-- How often a slot was given out: once for every generation before its own, and once more if
it has gone out under its own as well. -/
def Slot.uses (s : Slot α) : Nat :=
  s.generation.toNat + if s.value.isSome || s.retired then 1 else 0

theorem Slot.uses_vacate (s : Slot α) (hv : s.value.isSome) (hr : s.retired = false) :
    s.vacate.uses = s.uses := by
  rw [uses, uses, s.value_vacate, hv, hr]
  cases hx : s.exhausted with
  | true =>
    obtain ⟨hg, hret⟩ := s.vacate_of_exhausted hx
    rw [hg, hret]
    rfl
  | false =>
    obtain ⟨hg, hret⟩ := s.vacate_of_not_exhausted hx
    rw [hg, hret, hr, s.toNat_succ_generation hx]
    rfl

theorem toNat_generationMax : generationMax.toNat = 2 ^ 24 - 1 := by decide

theorem Slot.uses_le (s : Slot α) : s.uses ≤ 2 ^ 24 := by
  have hle := UInt32.le_iff_toNat_le.mp s.gen_le
  rw [toNat_generationMax] at hle
  rw [uses]
  split <;> omega

namespace HandleTable

/-- The slots that hold an entry or never will again. -/
def claimed (t : HandleTable α) : Nat := t.len + t.retired

def worn (t : HandleTable α) : Nat := weight Slot.uses t.slots

theorem claimed_le (t : HandleTable α) (ht : t.Accounted) : t.claimed ≤ t.slots.length := by
  have hsum := t.len_add_free_add_retired ht
  rw [capacity] at hsum
  rw [claimed]
  omega

theorem claimed_of_free_nil (t : HandleTable α) (ht : t.Accounted) (hfree : t.free = []) :
    t.claimed = t.slots.length := by
  have hsum := t.len_add_free_add_retired ht
  rw [capacity, hfree, List.length_nil] at hsum
  rw [claimed]
  omega

theorem worn_release (t : HandleTable α) (i : Nat) (slot : Slot α) (hi : t.slots[i]? = some slot)
    (hv : slot.value.isSome) (ht : t.Sound) : (t.release i).worn = t.worn := by
  have hset := weight_set Slot.uses slot.vacate hi
  rw [slot.uses_vacate hv (ht.live_active i slot hi hv)] at hset
  rw [worn, t.slots_release i slot hi, worn]
  omega

theorem worn_store (t : HandleTable α) (i : Nat) (slot : Slot α) (v : α)
    (hi : t.slots[i]? = some slot) (hv : slot.value.isSome) : (t.store i v).worn = t.worn := by
  have hset := weight_set Slot.uses { slot with value := some v } hi
  have huses : Slot.uses { slot with value := some v } = slot.uses := by
    rw [Slot.uses, Slot.uses, hv]
    rfl
  rw [worn, t.slots_store i v slot hi, worn]
  omega

theorem worn_insert (t : HandleTable α) (kind : UInt8) (v : α) (ht : t.Sound) :
    (t.insert kind v).2.worn = t.worn + 1 := by
  obtain ⟨i, free, slot, hfree, hi, -, hs, -⟩ |
    ⟨-, -, ⟨new, hg, -, hv, hret, hs⟩, -⟩ := t.insert_cases kind v
  · obtain ⟨hvac, hret⟩ := ht.free_vacant i (by simp [hfree]) slot hi
    have hset := weight_set Slot.uses { slot with value := some v, kind := kind } hi
    have hold : slot.uses = slot.generation.toNat := by
      rw [Slot.uses, hvac, hret]
      rfl
    have hnew : Slot.uses { slot with value := some v, kind := kind } =
        slot.generation.toNat + 1 := rfl
    rw [worn, hs, worn]
    omega
  · have hnew : new.uses = 1 := by
      rw [Slot.uses, hg, hv]
      rfl
    rw [worn, hs, weight_append, weight_cons, weight_nil, hnew, worn]

theorem worn_retain {ω : Type} (t : HandleTable α) (keep : ω → Handle → α → Bool × ω) (st : ω)
    (ht : t.Accounted) (hfits : t.Fits) : (t.retain keep st).1.worn = t.worn := by
  rw [retain]
  refine (List.foldlRecOn (motive := fun p => p.1.Accounted ∧ p.1.worn = t.worn)
    (b := (t, st, 0)) _ (visit keep) ⟨ht, rfl⟩ ?_).2
  intro p hp i hi
  have hlt : i < 2 ^ 32 := Nat.lt_trans (List.mem_range.mp hi) hfits
  have hn : (UInt32.ofNat i).toNat = i := UInt32.toNat_ofNat_of_lt' hlt
  obtain h | ⟨slot, hslot, hv, h⟩ := visit_cases keep p i
  · rw [h]
    exact hp
  · rw [h]
    have hfreed := (p.1.accounted_release (UInt32.ofNat i) slot (by rw [hn, hslot]) hv hp.1).1
    rw [hn] at hfreed
    exact ⟨hfreed, (p.1.worn_release i slot hslot hv hp.1.sound).trans hp.2⟩

theorem worn_step (t : HandleTable α) (op : Op α) (ht : t.Accounted) (hfits : t.Fits) :
    (t.step op).2.worn = t.worn + if (t.step op).1.isSome then 1 else 0 := by
  cases op with
  | insert kind v => exact t.worn_insert kind v ht.sound
  | tryInsert kind v maxLive =>
    simp only [step, tryInsert]
    split
    · exact t.worn_insert kind v ht.sound
    · rfl
  | getMut h write =>
    obtain hs | ⟨v, slot, -, hi, hv, hs⟩ := t.step_getMut_cases h write
    · rw [hs]
      rfl
    · rw [hs]
      exact t.worn_store _ slot _ hi hv
  | remove h =>
    simp only [step]
    obtain hr | ⟨v, slot, -, hi, hv, hr⟩ := t.remove_cases h
    · rw [hr]
      rfl
    · rw [hr]
      exact t.worn_release _ slot hi hv ht.sound
  | clear => exact t.worn_retain (fun st _ _ => (false, st)) () ht hfits
  | retain ω keep st => exact t.worn_retain keep st ht hfits

theorem length_step (t : HandleTable α) (op : Op α) (ht : t.Accounted) (hfits : t.Fits) :
    (t.step op).2.slots.length = t.slots.length ∨
      t.slots.length ≤ (t.step op).2.slots.length ∧
        (t.step op).2.claimed = (t.step op).2.slots.length := by
  have hacc := t.accounted_step op ht hfits
  obtain ⟨kind, v, hs⟩ | ⟨-, hl, -⟩ := t.step_cases op
  · rw [hs] at hacc ⊢
    obtain ⟨i, free, slot, -, -, -, hslots, -⟩ | ⟨-, -, -, hfree⟩ := t.insert_cases kind v
    · left
      simp only [hslots, List.length_set]
    · exact .inr ⟨t.length_le_insert kind v, claimed_of_free_nil _ hacc hfree⟩
  · exact .inl hl

theorem length_handles_snoc (ops : List (Op α)) (op : Op α) : (handles (ops ++ [op])).length =
    (handles ops).length + if ((final step new ops).step op).1.isSome then 1 else 0 := by
  rw [handles, log_snoc, List.filterMap_append, List.length_append, ← handles]
  cases ((final step new ops).step op).1 <;> rfl

theorem fits_init (ops : List (Op α)) (op : Op α) (h : (final step new (ops ++ [op])).Fits) :
    (final step new ops).Fits := keepsLedger.fits_prefix new ops [op] h

theorem accounted_run (ops : List (Op α)) (h : (final step new ops).Fits) :
    (final step new ops).Accounted := accountedLedger.inv_final new ops accounted_new h

/-- While its slots are fewer than `2 ^ 32`, a table has as many as were claimed at one time at
most: by live entries and by slots that are worn out. -/
theorem slots_high_water (ops : List (Op α))
    (hfits : (final step new ops).slots.length < 2 ^ 32) :
    IsGreatest { n | ∃ before after, ops = before ++ after ∧ n = (final step new before).claimed }
      (final step new ops).slots.length := by
  induction ops using List.reverseRecOn with
  | nil =>
    refine ⟨⟨[], [], rfl, rfl⟩, ?_⟩
    rintro n ⟨before, after, he, rfl⟩
    obtain ⟨rfl, -⟩ := List.append_eq_nil_iff.mp he.symm
    exact Nat.le_refl 0
  | append_singleton ops op ih =>
    have hback : (final step new ops).Fits := fits_init ops op hfits
    obtain ⟨⟨peak, rest, hpeak, hlen⟩, hmost⟩ := ih hback
    have hend := accounted_run (ops ++ [op]) hfits
    have hstep := (final step new ops).length_step op (accounted_run ops hback) hback
    rw [← final_snoc] at hstep
    constructor
    · obtain hsame | ⟨-, hall⟩ := hstep
      · refine ⟨peak, rest ++ [op], ?_, hsame.trans hlen⟩
        rw [hpeak, List.append_assoc]
      · exact ⟨ops ++ [op], [], (List.append_nil _).symm, hall.symm⟩
    · rintro n ⟨before, after, he, rfl⟩
      cases after using List.reverseRecOn with
      | nil =>
        rw [← (he.trans (List.append_nil before))]
        exact claimed_le _ hend
      | append_singleton after last =>
        rw [← List.append_assoc] at he
        have hle := hmost ⟨before, after, (List.append_inj' he rfl).1, rfl⟩
        obtain hsame | ⟨hgrown, -⟩ := hstep <;> omega

/-- Three entries, of which two are freed before a fourth comes. -/
theorem slots_high_water_three :
    IsGreatest { n | ∃ before after, [.insert 1 'a', .insert 1 'b', .insert 1 'c',
        .remove (Handle.new 1 0 0), .remove (Handle.new 1 0 1), .insert 2 'd'] =
          before ++ after ∧ n = (final step new before).claimed }
      (final step new [.insert 1 'a', .insert 1 'b', .insert 1 'c',
        .remove (Handle.new 1 0 0), .remove (Handle.new 1 0 1), .insert 2 'd']).slots.length :=
  slots_high_water [.insert 1 'a', .insert 1 'b', .insert 1 'c', .remove (Handle.new 1 0 0),
    .remove (Handle.new 1 0 1), .insert 2 'd'] (by decide)

theorem worn_run (ops : List (Op α)) (hfits : (final step new ops).Fits) :
    (handles ops).length = (final step new ops).worn := by
  induction ops using List.reverseRecOn with
  | nil => rfl
  | append_singleton ops op ih =>
    have hback : (final step new ops).Fits := fits_init ops op hfits
    rw [length_handles_snoc, ih hback, final_snoc,
      worn_step _ op (accounted_run ops hback) hback]

theorem weight_le {w : Slot α → Nat} {top : Nat} (h : ∀ s, w s ≤ top) (l : List (Slot α)) :
    weight w l ≤ top * l.length := by
  induction l with
  | nil => exact Nat.zero_le _
  | cons s l ih =>
    have hs := h s
    rw [weight_cons, List.length_cons, Nat.mul_succ]
    omega

theorem retired_worn (t : HandleTable α) (ht : t.Accounted) : 2 ^ 24 * t.retired ≤ t.worn := by
  have hmax : ∀ s ∈ t.slots, s.retired → s.uses = 2 ^ 24 := by
    intro s hs hr
    obtain ⟨i, hi⟩ := List.mem_iff_getElem?.mp hs
    rw [Slot.uses, ht.retired_max i s hi hr, hr, toNat_generationMax, Bool.or_true]
    rfl
  rw [retired, worn]
  generalize t.slots = l at hmax
  induction l with
  | nil => exact Nat.zero_le _
  | cons s l ih =>
    have hrest := ih fun x hx => hmax x (List.mem_cons_of_mem s hx)
    rw [List.filter_cons, weight_cons]
    split
    · rename_i hr
      have huses := hmax s List.mem_cons_self hr
      rw [List.length_cons]
      omega
    · omega

/-- While the slots are fewer than `2 ^ 32`, the handles given out are as many as they say: each
slot once for every generation it has been through, so `2 ^ 24` times at most, and a retired one
as often as that. -/
theorem handles_by_slots (ops : List (Op α))
    (hfits : (final step new ops).slots.length < 2 ^ 32) :
    (handles ops).length = (final step new ops).worn ∧
      2 ^ 24 * (final step new ops).retired ≤ (handles ops).length ∧
      (handles ops).length ≤ 2 ^ 24 * (final step new ops).slots.length := by
  have hworn := worn_run ops hfits
  refine ⟨hworn, ?_, ?_⟩
  · rw [hworn]
    exact retired_worn _ (accounted_run ops hfits)
  · rw [hworn]
    exact weight_le Slot.uses_le _

/-- A slot given out twice and one given out once. -/
theorem handles_by_slots_reuse :
    (handles [.insert 1 'a', .insert 1 'b', .remove (Handle.new 1 0 0), .insert 2 'c']).length =
      (final step new [.insert 1 'a', .insert 1 'b', .remove (Handle.new 1 0 0),
        .insert 2 'c']).worn :=
  (handles_by_slots [.insert 1 'a', .insert 1 'b', .remove (Handle.new 1 0 0), .insert 2 'c']
    (by decide)).1

end HandleTable
end Graftx.Handles
