import Graftx.Handles.WellFormed
import Mathlib.Algebra.BigOperators.Group.Finset.Piecewise

/-! What a table tells about itself: its entries under the handles they were issued as, the
kinds among them, and the counts. Handles are rebuilt here from what the slots record. -/
namespace Graftx.Handles
open Graftx.Protocol Lib.Machine
universe u
variable {α : Type u}

structure HandleStats where
  live : Nat
  retired : Nat
  capacity : Nat
  kinds : List UInt8
  deriving DecidableEq, Repr

def dedup : List UInt8 → List UInt8
  | [] => []
  | [a] => [a]
  | a :: b :: l => if a = b then dedup (b :: l) else a :: dedup (b :: l)

namespace HandleTable

def len (t : HandleTable α) : Nat := t.live

def isEmpty (t : HandleTable α) : Bool := t.live == 0

def iter (t : HandleTable α) : List (Handle × α) :=
  t.slots.zipIdx.filterMap fun p =>
    p.1.value.map fun value => (Handle.new p.1.kind p.1.generation (UInt32.ofNat p.2), value)

def iterKind (t : HandleTable α) (kind : UInt8) : List (Handle × α) :=
  t.slots.zipIdx.filterMap fun p =>
    if p.1.kind ≠ kind then none
    else p.1.value.map fun value =>
      (Handle.new p.1.kind p.1.generation (UInt32.ofNat p.2), value)

def countByKind (t : HandleTable α) (kind : UInt8) : Nat :=
  (t.slots.filter fun slot => slot.value.isSome && slot.kind == kind).length

def contains (t : HandleTable α) (h : Handle) : Bool := t.isLive h

def kinds (t : HandleTable α) : List UInt8 :=
  dedup (((t.slots.filter fun slot => slot.value.isSome).map Slot.kind).mergeSort
    fun a b => decide (a ≤ b))

def capacity (t : HandleTable α) : Nat := t.slots.length

def retired (t : HandleTable α) : Nat := (t.slots.filter fun slot => slot.retired).length

def stats (t : HandleTable α) : HandleStats where
  live := t.len
  retired := t.retired
  capacity := t.capacity
  kinds := t.kinds

theorem mem_iter (t : HandleTable α) (h : Handle) (v : α) :
    (h, v) ∈ t.iter ↔ ∃ (i : Nat) (slot : Slot α), t.slots[i]? = some slot ∧
      slot.value = some v ∧ Handle.new slot.kind slot.generation (UInt32.ofNat i) = h := by
  simp only [iter, List.mem_filterMap, Prod.exists, List.mk_mem_zipIdx_iff_getElem?,
    Option.map_eq_some_iff, Prod.mk.injEq]
  constructor
  · rintro ⟨slot, i, hi, w, hw, hh, rfl⟩
    exact ⟨i, slot, hi, hw, hh⟩
  · rintro ⟨i, slot, hi, hw, hh⟩
    exact ⟨slot, i, hi, v, hw, hh, rfl⟩

theorem mem_iter_of_fits (t : HandleTable α) (h : Handle) (v : α) (hfits : t.Fits) :
    (h, v) ∈ t.iter ↔ ∃ slot, t.lookup h = some slot ∧ slot.kind = h.kind ∧
      slot.value = some v := by
  rw [mem_iter]
  constructor
  · rintro ⟨i, slot, hi, hv, rfl⟩
    have hlt : i < 2 ^ 32 := Nat.lt_trans (List.getElem?_eq_some_iff.mp hi).1 hfits
    refine ⟨slot, (t.lookup_eq_some _ slot).mpr ⟨?_, ?_⟩, (Handle.kind_new _ _ _).symm, hv⟩
    · rw [Handle.slot_new, UInt32.toNat_ofNat_of_lt' hlt, hi]
    · rw [Handle.generation_new, Handle.masked_of_le _ slot.gen_le]
  · rintro ⟨slot, hl, hk, hv⟩
    obtain ⟨hi, hg⟩ := (t.lookup_eq_some h slot).mp hl
    refine ⟨h.slot.toNat, slot, hi, hv, ?_⟩
    rw [UInt32.ofNat_toNat, hk, hg, Handle.new_fields]

theorem get_of_mem_iter (t : HandleTable α) (h : Handle) (v : α) (hfits : t.Fits)
    (hmem : (h, v) ∈ t.iter) : t.get h = some v := by
  obtain ⟨slot, hl, -, hv⟩ := (t.mem_iter_of_fits h v hfits).mp hmem
  exact (t.get_eq_some h v).mpr ⟨slot, hl, hv⟩

theorem mem_iter_of_get (t : HandleTable α) (h : Handle) (v : α) (hg : t.get h = some v) :
    ∃ h', h'.key = h.key ∧ (h', v) ∈ t.iter := by
  obtain ⟨slot, hl, hv⟩ := (t.get_eq_some h v).mp hg
  obtain ⟨hi, hgen⟩ := (t.lookup_eq_some h slot).mp hl
  refine ⟨Handle.new slot.kind slot.generation h.slot, ?_, ?_⟩
  · rw [Handle.key_eq_iff, Handle.slot_new, Handle.generation_new,
      Handle.masked_of_le _ slot.gen_le]
    exact ⟨rfl, hgen⟩
  · exact (t.mem_iter _ v).mpr ⟨h.slot.toNat, slot, hi, hv, by rw [UInt32.ofNat_toNat]⟩

theorem iter_slots_lt (t : HandleTable α) (hfits : t.Fits) :
    t.iter.Pairwise fun a b => a.1.slot.toNat < b.1.slot.toNat := by
  have hidx : t.slots.zipIdx.Pairwise fun p q => p.2 < q.2 := by
    refine List.pairwise_map.mp ?_
    rw [List.zipIdx_map_snd]
    exact List.pairwise_lt_range'
  refine (List.pairwise_filterMap.mpr ?_)
  refine hidx.imp_of_mem ?_
  intro p q hp hq hlt a ha b hb
  obtain ⟨v, -, rfl⟩ := Option.map_eq_some_iff.mp ha
  obtain ⟨w, -, rfl⟩ := Option.map_eq_some_iff.mp hb
  have hple := List.snd_lt_of_mem_zipIdx hp
  have hqle := List.snd_lt_of_mem_zipIdx hq
  rw [Fits] at hfits
  rw [Handle.slot_new, Handle.slot_new, UInt32.toNat_ofNat_of_lt' (by rw [UInt32.size]; omega),
    UInt32.toNat_ofNat_of_lt' (by rw [UInt32.size]; omega)]
  exact hlt

theorem length_iter (t : HandleTable α) : t.iter.length = t.occupancy := by
  have hfst : t.occupancy = t.slots.zipIdx.countP fun p => p.1.value.isSome := by
    rw [occupancy, ← List.zipIdx_map_fst 0 t.slots, List.countP_map, List.zipIdx_map_fst]
    rfl
  rw [iter, List.length_filterMap_eq_countP, hfst]
  refine List.countP_congr fun p _ => ?_
  rw [Option.isSome_map]

theorem iterKind_eq_filter (t : HandleTable α) (kind : UInt8) :
    t.iterKind kind = t.iter.filter fun e => e.1.kind == kind := by
  rw [iterKind, iter, List.filter_filterMap]
  refine List.filterMap_congr fun p _ => ?_
  cases hv : p.1.value with
  | none => simp
  | some v =>
    by_cases hk : p.1.kind = kind
    · simp [hk, Option.filter]
    · simp [hk, Option.filter]

theorem countByKind_eq_length (t : HandleTable α) (kind : UInt8) :
    t.countByKind kind = (t.iterKind kind).length := by
  have hfst : t.countByKind kind =
      t.slots.zipIdx.countP fun p => p.1.value.isSome && p.1.kind == kind := by
    rw [countByKind, ← List.countP_eq_length_filter, ← List.zipIdx_map_fst 0 t.slots,
      List.countP_map, List.zipIdx_map_fst]
    rfl
  rw [iterKind, List.length_filterMap_eq_countP, hfst]
  refine List.countP_congr fun p _ => ?_
  by_cases hk : p.1.kind = kind
  · simp [hk]
  · simp [hk]

theorem sum_countByKind (t : HandleTable α) :
    ∑ n ∈ Finset.range 256, t.countByKind (UInt8.ofNat n) = t.occupancy := by
  simp only [countByKind, occupancy, ← List.countP_eq_length_filter]
  induction t.slots with
  | nil => simp
  | cons slot slots ih =>
    have hone : ∑ n ∈ Finset.range 256,
        (if (slot.value.isSome && slot.kind == UInt8.ofNat n) = true then 1 else 0) =
          if occupied slot then 1 else 0 := by
      have hpoint (n : Nat) (hn : n ∈ Finset.range 256) :
          (if (slot.value.isSome && slot.kind == UInt8.ofNat n) = true then 1 else 0) =
            if n = slot.kind.toNat then (if occupied slot then 1 else 0) else 0 := by
        have hiff : slot.kind = UInt8.ofNat n ↔ n = slot.kind.toNat := by
          rw [← UInt8.toNat_inj, UInt8.toNat_ofNat_of_lt' (Finset.mem_range.mp hn)]
          exact eq_comm
        by_cases hk : n = slot.kind.toNat
        · cases hv : slot.value.isSome <;> simp [hk, hv, occupied]
        · simp [hk, hiff]
      rw [Finset.sum_congr rfl hpoint, Finset.sum_ite_eq']
      exact if_pos (Finset.mem_range.mpr slot.kind.toNat_lt)
    simp only [List.countP_cons]
    rw [Finset.sum_add_distrib, ih, hone]

end HandleTable

theorem mem_dedup (l : List UInt8) (k : UInt8) : k ∈ dedup l ↔ k ∈ l := by
  fun_induction dedup l with
  | case1 => rfl
  | case2 a => rfl
  | case3 a l ih => rw [ih, List.mem_cons (b := a) (l := a :: l), List.mem_cons, or_self_left]
  | case4 a b l hne ih => rw [List.mem_cons, ih, List.mem_cons (a := k) (b := a)]

theorem dedup_lt (l : List UInt8) (h : l.Pairwise (· ≤ ·)) : (dedup l).Pairwise (· < ·) := by
  fun_induction dedup l with
  | case1 => exact List.Pairwise.nil
  | case2 a => exact List.pairwise_singleton _ a
  | case3 a l ih => exact ih (List.pairwise_cons.mp h).2
  | case4 a b l hne ih =>
    obtain ⟨hle, hrest⟩ := List.pairwise_cons.mp h
    refine List.pairwise_cons.mpr ⟨fun k hk => ?_, ih hrest⟩
    have hab : a < b := UInt8.lt_of_le_of_ne (hle b List.mem_cons_self) hne
    obtain rfl | hk := List.mem_cons.mp ((mem_dedup _ k).mp hk)
    · exact hab
    · exact UInt8.lt_of_lt_of_le hab ((List.pairwise_cons.mp hrest).1 k hk)

namespace HandleTable

theorem kinds_lt (t : HandleTable α) : t.kinds.Pairwise (· < ·) := by
  refine dedup_lt _ ?_
  refine (List.pairwise_mergeSort ?_ ?_ _).imp fun h => of_decide_eq_true h
  · intro a b c hab hbc
    simp only [decide_eq_true_eq] at hab hbc ⊢
    exact UInt8.le_trans hab hbc
  · intro a b
    simp only [Bool.or_eq_true, decide_eq_true_eq]
    exact UInt8.le_total a b

theorem mem_kinds (t : HandleTable α) (kind : UInt8) :
    kind ∈ t.kinds ↔ ∃ e ∈ t.iter, e.1.kind = kind := by
  rw [kinds, mem_dedup, List.mem_mergeSort]
  simp only [List.mem_map, List.mem_filter, Prod.exists, mem_iter]
  constructor
  · rintro ⟨slot, ⟨hmem, hv⟩, rfl⟩
    obtain ⟨v, hv⟩ := Option.isSome_iff_exists.mp hv
    obtain ⟨i, hi⟩ := List.mem_iff_getElem?.mp hmem
    exact ⟨_, v, ⟨i, slot, hi, hv, rfl⟩, Handle.kind_new _ _ _⟩
  · rintro ⟨h, v, ⟨i, slot, hi, hv, rfl⟩, rfl⟩
    refine ⟨slot, ⟨List.mem_of_getElem? hi, by rw [hv]; rfl⟩, (Handle.kind_new _ _ _).symm⟩

theorem length_free (t : HandleTable α) (ht : t.Accounted) :
    t.free.length = t.slots.countP fun slot => slot.value.isNone && !slot.retired := by
  let vacant : Slot α × Nat → Bool := fun p => p.1.value.isNone && !p.1.retired
  have hperm : (t.free.map UInt32.toNat).Perm ((t.slots.zipIdx.filter vacant).map Prod.snd) := by
    refine (List.perm_ext_iff_of_nodup ?_ ?_).mpr fun i => ?_
    · exact ht.sound.free_nodup.map fun a b => UInt32.toNat_inj.mp
    · have hsub := (List.filter_sublist (p := vacant) (l := t.slots.zipIdx)).map Prod.snd
      rw [List.zipIdx_map_snd] at hsub
      exact hsub.nodup List.nodup_range'
    · simp only [List.mem_map, List.mem_filter, Prod.exists, List.mk_mem_zipIdx_iff_getElem?]
      constructor
      · rintro ⟨j, hj, rfl⟩
        obtain ⟨slot, hi, hv, hr⟩ := ht.wellFormed.free_vacant j hj
        exact ⟨slot, j.toNat, ⟨hi, by simp [vacant, hv, hr]⟩, rfl⟩
      · rintro ⟨slot, j, ⟨hj, hvac⟩, rfl⟩
        simp only [vacant, Bool.and_eq_true, Option.isNone_iff_eq_none, Bool.not_eq_true'] at hvac
        exact ht.covered j slot hj hvac.1 hvac.2
  have hlen := hperm.length_eq
  rw [List.length_map, List.length_map, ← List.countP_eq_length_filter] at hlen
  rw [hlen, ← List.zipIdx_map_fst 0 t.slots, List.countP_map, List.zipIdx_map_fst]
  rfl

theorem len_add_free_add_retired (t : HandleTable α) (ht : t.Accounted) :
    t.len + t.free.length + t.retired = t.capacity := by
  rw [len, ht.live_eq, t.length_free ht, occupancy, retired, capacity,
    ← List.countP_eq_length_filter]
  have hone : ∀ slot ∈ t.slots, slot.retired → slot.value = none :=
    fun slot hmem hr => (ht.wellFormed.retired_spent slot hmem hr).1
  generalize t.slots = slots at hone
  induction slots with
  | nil => rfl
  | cons slot slots ih =>
    have hrest := ih fun s hs => hone s (List.mem_cons_of_mem slot hs)
    have hslot := hone slot List.mem_cons_self
    have hcount : (if occupied slot then 1 else 0) +
        (if slot.value.isNone && !slot.retired then 1 else 0) +
        (if slot.retired then 1 else 0) = 1 := by
      cases hr : slot.retired with
      | true => simp [occupied, hslot hr]
      | false => cases hv : slot.value <;> simp [occupied, hv]
    simp only [List.countP_cons, List.length_cons]
    omega

/-- How a slot goes on when nothing is inserted: it is freed, or at most its value changes. -/
inductive Follows (s s' : Slot α) : Prop where
  | freed (hv : s.value.isSome) (h : s' = s.vacate)
  | same (hv : s'.value.isSome = s.value.isSome) (hk : s'.kind = s.kind)
      (hg : s'.generation = s.generation) (hr : s'.retired = s.retired)

theorem vacate_congr (s s' : Slot α) (hk : s'.kind = s.kind) (hg : s'.generation = s.generation)
    (hr : s'.retired = s.retired) : s'.vacate = s.vacate := by
  obtain ⟨g, k, v, r, hle⟩ := s
  obtain ⟨g', k', v', r', hle'⟩ := s'
  cases hk
  cases hg
  cases hr
  rfl

theorem Follows.trans {s₁ s₂ s₃ : Slot α} (h₁ : Follows s₁ s₂) (h₂ : Follows s₂ s₃) :
    Follows s₁ s₃ := by
  cases h₂ with
  | freed hv₂ h₂ =>
    cases h₁ with
    | freed hv₁ h₁ =>
      rw [h₁, s₁.value_vacate] at hv₂
      cases hv₂
    | same hv₁ hk₁ hg₁ hr₁ => exact .freed (hv₁ ▸ hv₂) (h₂.trans (vacate_congr s₁ s₂ hk₁ hg₁ hr₁))
  | same hv₂ hk₂ hg₂ hr₂ =>
    cases h₁ with
    | freed hv₁ h₁ =>
      refine .freed hv₁ ?_
      subst h₁
      obtain ⟨g₃, k₃, v₃, r₃, hle₃⟩ := s₃
      rw [s₁.value_vacate] at hv₂
      obtain rfl : v₃ = none := Option.isNone_iff_eq_none.mp (Option.isSome_eq_false_iff.mp hv₂)
      have hnone := s₁.value_vacate
      generalize s₁.vacate = s₂ at hk₂ hg₂ hr₂ hnone
      cases s₂
      cases hk₂
      cases hg₂
      cases hr₂
      cases hnone
      rfl
    | same hv₁ hk₁ hg₁ hr₁ =>
      exact .same (hv₂.trans hv₁) (hk₂.trans hk₁) (hg₂.trans hg₁) (hr₂.trans hr₁)

/-- The later table has no other slots, and none of them has been filled. -/
def Inherits (t t' : HandleTable α) : Prop :=
  ∀ (i : Nat) slot', t'.slots[i]? = some slot' →
    ∃ slot, t.slots[i]? = some slot ∧ Follows slot slot'

theorem Inherits.refl (t : HandleTable α) : Inherits t t :=
  fun _ slot hi => ⟨slot, hi, .same rfl rfl rfl rfl⟩

theorem Inherits.trans {t₁ t₂ t₃ : HandleTable α} (h₁ : Inherits t₁ t₂) (h₂ : Inherits t₂ t₃) :
    Inherits t₁ t₃ := by
  intro i slot₃ hi₃
  obtain ⟨slot₂, hi₂, hf₂⟩ := h₂ i slot₃ hi₃
  obtain ⟨slot₁, hi₁, hf₁⟩ := h₁ i slot₂ hi₂
  exact ⟨slot₁, hi₁, hf₁.trans hf₂⟩

theorem Inherits.live {t t' : HandleTable α} (h : Inherits t t') (i : Nat) (slot' : Slot α)
    (hi : t'.slots[i]? = some slot') (hv : slot'.value.isSome) :
    ∃ slot, t.slots[i]? = some slot ∧ slot.value.isSome ∧ slot'.kind = slot.kind ∧
      slot'.generation = slot.generation := by
  obtain ⟨slot, hi₀, hf⟩ := h i slot' hi
  cases hf with
  | freed hv₀ hs =>
    rw [hs, slot.value_vacate] at hv
    cases hv
  | same hv₀ hk hg hr => exact ⟨slot, hi₀, hv₀ ▸ hv, hk, hg⟩

theorem inherits_of_set (t t' : HandleTable α) (i : Nat) (slot slot' : Slot α)
    (hi : t.slots[i]? = some slot) (hs : t'.slots = t.slots.set i slot')
    (hf : Follows slot slot') : Inherits t t' := by
  intro j s hj
  obtain ⟨rfl, rfl⟩ | ⟨-, hj⟩ := slot_cases_set hs hj
  · exact ⟨slot, hi, hf⟩
  · exact ⟨s, hj, .same rfl rfl rfl rfl⟩

theorem inherits_release (t : HandleTable α) (i : Nat) (slot : Slot α)
    (hi : t.slots[i]? = some slot) (hv : slot.value.isSome) : Inherits t (t.release i) :=
  inherits_of_set t _ i slot _ hi (t.slots_release i slot hi) (.freed hv rfl)

theorem inherits_store (t : HandleTable α) (i : Nat) (slot : Slot α) (v : α)
    (hi : t.slots[i]? = some slot) (hv : slot.value.isSome) : Inherits t (t.store i v) :=
  inherits_of_set t _ i slot _ hi (t.slots_store i v slot hi) (.same hv.symm rfl rfl rfl)

theorem inherits_retain {ω : Type} (t : HandleTable α) (keep : ω → Handle → α → Bool × ω)
    (st : ω) : Inherits t (t.retain keep st).1 := by
  rw [retain]
  refine List.foldlRecOn (motive := fun p => Inherits t p.1) (b := (t, st, 0)) _ (visit keep)
    (.refl t) ?_
  intro p hp i _
  obtain h | ⟨slot, hi, hv, h⟩ := visit_cases keep p i
  · rw [h]
    exact hp
  · rw [h]
    exact hp.trans (p.1.inherits_release i slot hi hv)

theorem inherits_step (t : HandleTable α) (op : Op α) :
    (∃ kind v, t.step op = (some (t.insert kind v).1, (t.insert kind v).2)) ∨
      (t.step op).1 = none ∧ Inherits t (t.step op).2 := by
  cases op with
  | insert kind v => exact .inl ⟨kind, v, rfl⟩
  | tryInsert kind v maxLive =>
    simp only [step, tryInsert]
    split
    · exact .inl ⟨kind, v, rfl⟩
    · exact .inr ⟨rfl, .refl t⟩
  | getMut h write =>
    obtain hs | ⟨v, slot, -, hi, hv, hs⟩ := t.step_getMut_cases h write
    · rw [hs]
      exact .inr ⟨rfl, .refl t⟩
    · rw [hs]
      exact .inr ⟨rfl, t.inherits_store _ slot _ hi hv⟩
  | remove h =>
    refine .inr ⟨rfl, ?_⟩
    simp only [step]
    obtain hr | ⟨v, slot, -, hi, hv, hr⟩ := t.remove_cases h
    · rw [hr]
      exact .refl t
    · rw [hr]
      exact t.inherits_release _ slot hi hv
  | clear => exact .inr ⟨rfl, t.inherits_retain _ _⟩
  | retain ω keep st => exact .inr ⟨rfl, t.inherits_retain keep st⟩

theorem mem_iter_insert (t : HandleTable α) (kind : UInt8) (v : α) (e : Handle × α)
    (he : e ∈ (t.insert kind v).2.iter) : e = ((t.insert kind v).1, v) ∨ e ∈ t.iter := by
  obtain ⟨h, w⟩ := e
  obtain ⟨j, s, hj, hw, rfl⟩ := (mem_iter _ _ _).mp he
  have hold (hj : t.slots[j]? = some s) :
      (Handle.new s.kind s.generation (UInt32.ofNat j), w) ∈ t.iter :=
    (t.mem_iter _ _).mpr ⟨j, s, hj, hw, rfl⟩
  obtain ⟨i, free, slot, -, hi, hh, hs, -⟩ |
    ⟨-, hh, ⟨new, hg, hk, hv, -, hs⟩, -⟩ := t.insert_cases kind v
  · obtain ⟨rfl, rfl⟩ | ⟨-, hj⟩ := slot_cases_set hs hj
    · cases hw
      rw [UInt32.ofNat_toNat, hh]
      exact .inl rfl
    · exact .inr (hold hj)
  · obtain ⟨rfl, rfl⟩ | hj := slot_cases_append hs hj
    · obtain rfl : v = w := Option.some.inj (hv.symm.trans hw)
      rw [hg, hk, hh]
      exact .inl rfl
    · exact .inr (hold hj)

theorem mem_iter_store (t : HandleTable α) (i : Nat) (v : α) (e : Handle × α)
    (he : e ∈ (t.store i v).iter) : e.2 = v ∨ e ∈ t.iter := by
  obtain ⟨h, w⟩ := e
  obtain ⟨j, s, hj, hw, rfl⟩ := (mem_iter _ _ _).mp he
  cases hi : t.slots[i]? with
  | none =>
    rw [t.store_of_none i v hi] at hj
    exact .inr ((t.mem_iter _ _).mpr ⟨j, s, hj, hw, rfl⟩)
  | some slot =>
    obtain ⟨-, rfl⟩ | ⟨-, hj⟩ := slot_cases_set (t.slots_store i v slot hi) hj
    · exact .inl (Option.some.inj hw).symm
    · exact .inr ((t.mem_iter _ _).mpr ⟨j, s, hj, hw, rfl⟩)

theorem mem_iter_release (t : HandleTable α) (i : Nat) (e : Handle × α)
    (he : e ∈ (t.release i).iter) : e ∈ t.iter := by
  obtain ⟨h, w⟩ := e
  obtain ⟨j, s, hj, hw, rfl⟩ := (mem_iter _ _ _).mp he
  cases hi : t.slots[i]? with
  | none =>
    rw [t.release_of_none i hi] at hj
    exact (t.mem_iter _ _).mpr ⟨j, s, hj, hw, rfl⟩
  | some slot =>
    obtain ⟨-, rfl⟩ | ⟨-, hj⟩ := slot_cases_set (t.slots_release i slot hi) hj
    · rw [slot.value_vacate] at hw
      cases hw
    · exact (t.mem_iter _ _).mpr ⟨j, s, hj, hw, rfl⟩

theorem issued_of_mem_iter (ops : List (Op α)) (e : Handle × α)
    (he : e ∈ (final step new ops).iter) : e.1 ∈ handles ops := by
  have hlog : handles ops = (log step new ops).filterMap Prod.snd := rfl
  revert e
  rw [hlog]
  refine run_induction (P := fun l t => ∀ e ∈ t.iter, e.1 ∈ l.filterMap Prod.snd) new ?_ ?_ ops
  · intro e he
    cases he
  · intro l t op ih e he
    rw [List.filterMap_append, List.mem_append]
    obtain ⟨kind, v, hs⟩ | ⟨-, hinh⟩ := t.inherits_step op
    · rw [hs] at he ⊢
      obtain rfl | hmem := t.mem_iter_insert kind v e he
      · exact .inr (by simp)
      · exact .inl (ih e hmem)
    · obtain ⟨h, v⟩ := e
      obtain ⟨i, slot', hi, hv, rfl⟩ := (mem_iter _ _ _).mp he
      obtain ⟨slot, hi₀, hv₀, hk, hg⟩ := hinh.live i slot' hi (by rw [hv]; rfl)
      obtain ⟨w, hw⟩ := Option.isSome_iff_exists.mp hv₀
      exact .inl (ih (_, w) ((t.mem_iter _ w).mpr ⟨i, slot, hi₀, hw, by rw [hk, hg]⟩))

theorem mem_iter_iff_issued (ops : List (Op α)) (hfits : (final step new ops).Fits) (h : Handle)
    (v : α) : (h, v) ∈ (final step new ops).iter ↔
      h ∈ handles ops ∧ (final step new ops).get h = some v := by
  constructor
  · exact fun hmem => ⟨issued_of_mem_iter ops _ hmem, get_of_mem_iter _ h v hfits hmem⟩
  · rintro ⟨hissued, hg⟩
    obtain ⟨h', hkey, hmem⟩ := mem_iter_of_get _ h v hg
    have hnodup : ((handles ops).map Handle.key).Nodup := by
      rw [keys_handles]
      exact keepsLedger.issued_nodup new ops sound_new hfits
    have hsame := List.inj_on_of_nodup_map hnodup (issued_of_mem_iter ops _ hmem) hissued hkey
    exact hsame ▸ hmem

/-- In every state a run reaches the accessors agree with each other and with what was
issued. -/
theorem introspection_agrees (ops : List (Op α))
    (hfits : (final step new ops).slots.length < 2 ^ 32) :
    let t := final step new ops
    (∀ h v, (h, v) ∈ t.iter ↔ h ∈ handles ops ∧ t.get h = some v) ∧
      (t.iter.map Prod.fst).Nodup ∧
      (∀ e ∈ t.iter, t.get e.1 = some e.2) ∧
      (∀ kind, t.iterKind kind = t.iter.filter fun e => e.1.kind == kind) ∧
      (∀ kind, t.countByKind kind = (t.iterKind kind).length) ∧
      ∑ n ∈ Finset.range 256, t.countByKind (UInt8.ofNat n) = t.len ∧
      t.kinds.Pairwise (· < ·) ∧
      (∀ kind, kind ∈ t.kinds ↔ ∃ e ∈ t.iter, e.1.kind = kind) ∧
      t.stats = ⟨t.len, t.retired, t.capacity, t.kinds⟩ ∧
      t.len + t.free.length + t.retired = t.capacity := by
  intro t
  have ht : t.Accounted := accountedLedger.inv_final new ops accounted_new hfits
  refine ⟨mem_iter_iff_issued ops hfits, ?_, fun e he => t.get_of_mem_iter e.1 e.2 hfits he,
    t.iterKind_eq_filter, t.countByKind_eq_length, ?_, t.kinds_lt, t.mem_kinds, rfl,
    t.len_add_free_add_retired ht⟩
  · refine List.pairwise_map.mpr ((t.iter_slots_lt hfits).imp fun hlt heq => ?_)
    rw [heq] at hlt
    exact Nat.lt_irrefl _ hlt
  · rw [t.sum_countByKind, len, ht.live_eq]

/-- A slot reused under another kind, and a free one with a stale kind byte. -/
theorem introspection_agrees_reuse :
    (final step new [.insert 1 'a', .insert 1 'b', .remove (Handle.new 1 0 0), .insert 2 'c',
      .remove (Handle.new 1 0 1)]).len + 1 + 0 = 2 :=
  (introspection_agrees [.insert 1 'a', .insert 1 'b', .remove (Handle.new 1 0 0), .insert 2 'c',
    .remove (Handle.new 1 0 1)] (by decide)).2.2.2.2.2.2.2.2.2

end HandleTable
end Graftx.Handles
