import Graftx.Handles.Quota

/-! Freeing in bulk against freeing one by one. Removal goes by handle, the loops go by slot,
and the two part where a live slot lies beyond the indices a handle can carry. -/
namespace Graftx.Handles
open Graftx.Protocol Lib.Machine Lib.Sift
variable {α : Type}

namespace HandleTable

def removeAll (t : HandleTable α) (hs : List Handle) : HandleTable α :=
  hs.foldl (fun t h => (t.remove h).2) t

def LiveFits (t : HandleTable α) : Prop :=
  ∀ (i : Nat) slot, t.slots[i]? = some slot → slot.value.isSome → i < 2 ^ 32

theorem LiveFits.of_inherits {t t' : HandleTable α} (ht : t.LiveFits) (h : Inherits t t') :
    t'.LiveFits := by
  intro i slot' hi hv
  obtain ⟨slot, hi₀, hv₀, -⟩ := h.live i slot' hi hv
  exact ht i slot hi₀ hv₀

theorem get_entry (t : HandleTable α) (i : Nat) (slot : Slot α) (v : α)
    (hi : t.slots[i]? = some slot) (hv : slot.value = some v) (hlt : i < 2 ^ 32) :
    t.get (Handle.new slot.kind slot.generation (UInt32.ofNat i)) = some v := by
  refine (t.get_eq_some _ v).mpr ⟨slot, (t.lookup_eq_some _ slot).mpr ⟨?_, ?_⟩, hv⟩
  · rw [Handle.slot_new, UInt32.toNat_ofNat_of_lt' hlt, hi]
  · rw [Handle.generation_new, Handle.masked_of_le _ slot.gen_le]

theorem remove_entry (t : HandleTable α) (i : Nat) (slot : Slot α) (v : α)
    (hi : t.slots[i]? = some slot) (hv : slot.value = some v) (hlt : i < 2 ^ 32) :
    (t.remove (Handle.new slot.kind slot.generation (UInt32.ofNat i))).2 = t.release i := by
  rw [t.remove_of_get_some _ v (t.get_entry i slot v hi hv hlt), Handle.slot_new,
    UInt32.toNat_ofNat_of_lt' hlt]

/-- The loop over the slots ahead removes the rejected handles, in slot order. -/
theorem foldl_visit_eq_removeAll {ω : Type} (keep : ω → Handle → α → Bool × ω)
    (t : HandleTable α) (pre post : List (Slot α)) (st : ω) (n : Nat)
    (hs : t.slots = pre ++ post) (hfit : t.LiveFits) :
    ((List.range' pre.length post.length).foldl (visit keep) (t, st, n)).1 =
      t.removeAll ((sift (paired keep) st (entries post pre.length)).rejected.map Prod.fst) := by
  induction post generalizing t pre st n with
  | nil => rfl
  | cons slot post ih =>
    have hi : t.slots[pre.length]? = some slot := hs ▸ getElem?_at pre post slot
    have hlen (s : Slot α) : (pre ++ [s]).length = pre.length + 1 := by simp
    rw [List.length_cons, List.range'_succ, List.foldl_cons]
    cases hv : slot.value with
    | none =>
      have hrest := ih t (pre ++ [slot]) st n (by rw [hs]; simp) hfit
      rw [visit_vacant keep t st n _ slot hi hv, entries_cons_none slot post _ hv]
      rwa [hlen] at hrest
    | some v =>
      let h := Handle.new slot.kind slot.generation (UInt32.ofNat pre.length)
      rw [entries_cons_some slot post _ v hv]
      cases hk : (keep st h v).1 with
      | true =>
        have hrest := ih t (pre ++ [slot]) (keep st h v).2 n (by rw [hs]; simp) hfit
        rw [visit_kept keep t st n _ slot hi v hv hk, sift_cons_kept (paired keep) st (h, v) _ hk]
        rwa [hlen] at hrest
      | false =>
        have hfree := t.inherits_release _ slot hi (by rw [hv]; rfl)
        have hrest := ih (t.release pre.length) (pre ++ [slot.vacate]) (keep st h v).2 (n + 1)
          (t.slots_release_at pre post slot hs) (hfit.of_inherits hfree)
        rw [visit_rejected keep t st n _ slot hi v hv hk,
          sift_cons_rejected (paired keep) st (h, v) _ hk, List.map_cons, removeAll,
          List.foldl_cons, t.remove_entry _ slot v hi hv (hfit _ slot hi (by rw [hv]; rfl))]
        rwa [hlen] at hrest

theorem retain_eq_removeAll {ω : Type} (t : HandleTable α) (keep : ω → Handle → α → Bool × ω)
    (st : ω) (hfit : t.LiveFits) : (t.retain keep st).1 =
      t.removeAll ((sift (paired keep) st t.iter).rejected.map Prod.fst) := by
  have h := t.foldl_visit_eq_removeAll keep [] t.slots st 0 (List.nil_append _).symm hfit
  rwa [List.length_nil, ← List.range_eq_range'] at h

theorem slots_removeAll_high (t : HandleTable α) (hs : List Handle) (i : Nat) (hi : 2 ^ 32 ≤ i) :
    (t.removeAll hs).slots[i]? = t.slots[i]? := by
  induction hs generalizing t with
  | nil => rfl
  | cons h hs ih =>
    have hone : (t.remove h).2.slots[i]? = t.slots[i]? := by
      cases hg : t.get h with
      | none => rw [t.remove_of_get_none h hg]
      | some v =>
        rw [t.remove_of_get_some h v hg]
        obtain ⟨slot, hslot, -⟩ := t.slot_of_get h v hg
        rw [t.slots_release _ slot hslot]
        exact List.getElem?_set_ne (Nat.ne_of_lt (Nat.lt_of_lt_of_le h.slot.toNat_lt hi))
    exact (ih _).trans hone

def keepNone : Unit → Handle → α → Bool × Unit := fun _ _ _ => (false, ())

def notingPairs {ω : Type} (keep : ω → Handle → α → Bool × ω) (p : List (Handle × α) × ω)
    (h : Handle) (v : α) : Bool × (List (Handle × α) × ω) :=
  noting (paired keep) p (h, v)

/-- Freeing in bulk does what freeing one by one does. -/
structure BulkAgrees (t : HandleTable α) (issued : List Handle) : Prop where
  clear_remove : t.clearInPlace = t.removeAll (t.iter.map Prod.fst)
  clear_retain : ∀ (ω : Type) (keep : ω → Handle → α → Bool × ω) (st : ω),
    (∀ st h v, (keep st h v).1 = false) → t.clearInPlace = (t.retainInPlace keep st).1
  asks : ∀ (ω : Type) (keep : ω → Handle → α → Bool × ω) (st : ω),
    (∀ e ∈ t.iter, e.1 ∈ issued ∧ t.get e.1 = some e.2) ∧
      (t.retainInPlace (notingPairs keep) ([], st)).2.1 =
        (t.iter, (t.retainInPlace keep st).2.1) ∧
      (t.retainInPlace (notingPairs keep) ([], st)).1 = (t.retainInPlace keep st).1
  keeps : ∀ (ω : Type) (keep : ω → Handle → α → Bool × ω) (st : ω),
    (t.retainInPlace keep st).1.iter = (sift (paired keep) st t.iter).kept ∧
      ∀ e ∈ (sift (paired keep) st t.iter).kept, (t.retainInPlace keep st).1.get e.1 = some e.2
  frees : ∀ (ω : Type) (keep : ω → Handle → α → Bool × ω) (st : ω),
    (t.retainInPlace keep st).1 =
        t.removeAll ((sift (paired keep) st t.iter).rejected.map Prod.fst) ∧
      (t.retainInPlace keep st).2.2 = (sift (paired keep) st t.iter).rejected.length

theorem retain_keepNone (t : HandleTable α) : (t.retain keepNone ()).1.slots = t.clear.slots ∧
    (t.retain keepNone ()).1.free = t.clear.free ∧
    (t.retain keepNone ()).1.live = t.live - t.occupancy := by
  refine ⟨rfl, rfl, ?_⟩
  obtain ⟨-, -, hlive, hsnd⟩ := t.retain_swept keepNone ()
  obtain ⟨-, hrest⟩ := t.retain_sift keepNone ()
  have hrem : (retainLoop keepNone 0 t.slots t.free () 0).removed =
      (sift (paired keepNone) () t.iter).rejected.length :=
    congrArg Prod.snd (hsnd.symm.trans hrest)
  rw [hlive, hrem, (sift_of_false _ (fun _ _ => rfl) () t.iter).2, t.length_iter]

theorem bulkAgrees_of_liveFits (t : HandleTable α) (issued : List Handle)
    (hissued : ∀ e ∈ t.iter, e.1 ∈ issued) (hlive : t.live = t.occupancy) (hfit : t.LiveFits) :
    t.BulkAgrees issued := by
  have hnone : t.clear = (t.retain keepNone ()).1 := by
    obtain ⟨hslots, hfree, hcount⟩ := t.retain_keepNone
    refine ext_of_fields _ _ hslots.symm hfree.symm ?_
    rw [hcount, hlive, Nat.sub_self]
    rfl
  have hclear : t.clear = t.removeAll (t.iter.map Prod.fst) := by
    rw [hnone, t.retain_eq_removeAll keepNone () hfit,
      (sift_of_false _ (fun _ _ => rfl) () t.iter).2]
  have hresolve (e : Handle × α) (he : e ∈ t.iter) : t.get e.1 = some e.2 := by
    obtain ⟨i, slot, hi, hv, hh⟩ := (t.mem_iter e.1 e.2).mp he
    exact hh ▸ t.get_entry i slot e.2 hi hv (hfit i slot hi (by rw [hv]; rfl))
  refine ⟨(t.clearInPlace_eq).trans hclear, fun ω keep st hkeep => ?_,
    fun ω keep st => ⟨fun e he => ⟨hissued e he, hresolve e he⟩, ?_, ?_⟩,
    fun ω keep st => ⟨?_, ?_⟩, fun ω keep st => ⟨?_, ?_⟩⟩
  · rw [clearInPlace_eq, retainInPlace_eq, hclear, t.retain_eq_removeAll keep st hfit,
      (sift_of_false (paired keep) (fun st e => hkeep st e.1 e.2) st t.iter).2]
  · rw [retainInPlace_eq, retainInPlace_eq, (t.retain_sift keep st).2,
      (t.retain_sift (notingPairs keep) ([], st)).2]
    exact congrArg Sifted.memory (sift_noting (paired keep) st [] t.iter)
  · rw [retainInPlace_eq, retainInPlace_eq, t.retain_eq_removeAll _ _ hfit,
      t.retain_eq_removeAll _ _ hfit]
    exact congrArg (fun o => t.removeAll (o.rejected.map Prod.fst))
      (sift_noting (paired keep) st [] t.iter)
  · rw [retainInPlace_eq, (t.retain_sift keep st).1]
  · intro e he
    rw [retainInPlace_eq]
    rw [← (t.retain_sift keep st).1] at he
    obtain ⟨i, slot, hi, hv, hh⟩ := (mem_iter _ e.1 e.2).mp he
    have hlt := (hfit.of_inherits (t.inherits_retain keep st)) i slot hi (by rw [hv]; rfl)
    exact hh ▸ get_entry _ i slot e.2 hi hv hlt
  · rw [retainInPlace_eq, t.retain_eq_removeAll keep st hfit]
  · rw [retainInPlace_eq, (t.retain_sift keep st).2]

theorem liveFits_of_clear_remove (t : HandleTable α)
    (h : t.clear = t.removeAll (t.iter.map Prod.fst)) : t.LiveFits := by
  intro i slot hi hv
  by_contra hhigh
  have hsame := t.slots_removeAll_high (t.iter.map Prod.fst) i (Nat.not_lt.mp hhigh)
  rw [← h, hi] at hsame
  obtain ⟨v, hv⟩ := Option.isSome_iff_exists.mp hv
  have hmem := (t.clear.mem_iter _ v).mpr ⟨i, slot, hsame, hv, rfl⟩
  rw [t.iter_clear] at hmem
  cases hmem

/-- In every state a run reaches the bulk operations agree with `remove` if and only if every
live entry is at an index that fits and the counter is exact. -/
theorem bulk_agrees_iff (ops : List (Op α)) :
    (final step new ops).BulkAgrees (handles ops) ↔
      (final step new ops).LiveFits ∧
        (final step new ops).live = (final step new ops).occupancy := by
  have hle := occupancy_le_live ops
  constructor
  · intro h
    have hremove := h.clear_remove
    have hretain := h.clear_retain Unit keepNone () fun _ _ _ => rfl
    rw [clearInPlace_eq] at hremove hretain
    rw [retainInPlace_eq] at hretain
    refine ⟨liveFits_of_clear_remove _ hremove, ?_⟩
    have hzero := (congrArg HandleTable.live hretain).symm
    rw [(retain_keepNone _).2.2] at hzero
    exact Nat.le_antisymm (Nat.sub_eq_zero_iff_le.mp hzero) hle
  · rintro ⟨hfit, hlive⟩
    exact bulkAgrees_of_liveFits _ _ (issued_of_mem_iter ops) hlive hfit

/-- With one entry more than there are slot indices, removing every live handle leaves one
that `clear` frees. -/
theorem bulk_frees_more_past_the_limit :
    ¬ ∀ ops : List (Op Unit), (final step new ops).BulkAgrees (handles ops) := by
  intro h
  have hfilled := filled_inserts (2 ^ 32 + 1) 1 ()
  have hremove := (h (List.replicate (2 ^ 32 + 1) (.insert 1 ()))).clear_remove
  rw [clearInPlace_eq] at hremove
  have hlt : 2 ^ 32 <
      (final step new (List.replicate (2 ^ 32 + 1) (.insert 1 ()))).slots.length := by
    rw [hfilled.length_eq]
    exact Nat.lt_succ_self _
  have hlast := List.getElem?_eq_getElem hlt
  have hv := (hfilled.occupied _ (List.mem_of_getElem? hlast)).1
  exact Nat.lt_irrefl _ (liveFits_of_clear_remove _ hremove _ _ hlast hv)

end HandleTable
end Graftx.Handles
