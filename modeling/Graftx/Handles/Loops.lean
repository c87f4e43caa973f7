import Graftx.Handles.Introspection
import Graftx.Lib.Sift

/-! The bulk operations as the source writes them, each with a loop of its own over the slots
and its own copy of what freeing a slot takes. They come to freeing slots one by one. -/
namespace Graftx.Handles
open Graftx.Protocol Lib.Machine Lib.Sift
universe u
variable {α : Type u}

theorem Slot.succ_generation_le (s : Slot α) (h : ¬ generationMax ≤ s.generation) :
    s.generation + 1 ≤ generationMax := by
  have hlt := UInt32.lt_iff_toNat_lt.mp (UInt32.not_le.mp h)
  rw [UInt32.le_iff_toNat_le, s.toNat_succ_generation (by simpa [Slot.exhausted] using h)]
  omega

theorem Slot.vacate_of_max (s : Slot α) (h : generationMax ≤ s.generation) :
    s.vacate = { s with value := none, retired := true } := by
  rw [vacate, dif_pos (by simpa [exhausted] using h)]

theorem Slot.vacate_of_lt (s : Slot α) (h : ¬ generationMax ≤ s.generation) :
    s.vacate = { s with
      value := none, generation := s.generation + 1, gen_le := s.succ_generation_le h } := by
  rw [vacate, dif_neg (by simpa [exhausted] using h)]

/-- What a loop over the slots leaves: slots, free list, the predicate's state, and how many
entries it freed. -/
structure Swept (α : Type u) (ω : Type) where
  slots : List (Slot α)
  free : List UInt32
  memory : ω
  removed : Nat

def clearLoop : Nat → List (Slot α) → List UInt32 → List (Slot α) × List UInt32
  | _, [], free => ([], free)
  | slotIdx, slot :: slots, free =>
    match slot.value with
    | none =>
      let rest := clearLoop (slotIdx + 1) slots free
      (slot :: rest.1, rest.2)
    | some _ =>
      if hmax : generationMax ≤ slot.generation then
        let rest := clearLoop (slotIdx + 1) slots free
        ({ slot with value := none, retired := true } :: rest.1, rest.2)
      else
        let rest := clearLoop (slotIdx + 1) slots (UInt32.ofNat slotIdx :: free)
        ({ slot with
            value := none
            generation := slot.generation + 1
            gen_le := slot.succ_generation_le hmax } :: rest.1, rest.2)

def retainLoop {ω : Type} (keep : ω → Handle → α → Bool × ω) :
    Nat → List (Slot α) → List UInt32 → ω → Nat → Swept α ω
  | _, [], free, st, removed => ⟨[], free, st, removed⟩
  | slotIdx, slot :: slots, free, st, removed =>
    match slot.value with
    | none =>
      let rest := retainLoop keep (slotIdx + 1) slots free st removed
      { rest with slots := slot :: rest.slots }
    | some value =>
      let handle := Handle.new slot.kind slot.generation (UInt32.ofNat slotIdx)
      let (kept, st') := keep st handle value
      if kept then
        let rest := retainLoop keep (slotIdx + 1) slots free st' removed
        { rest with slots := slot :: rest.slots }
      else if hmax : generationMax ≤ slot.generation then
        let rest := retainLoop keep (slotIdx + 1) slots free st' (removed + 1)
        { rest with slots := { slot with value := none, retired := true } :: rest.slots }
      else
        let rest :=
          retainLoop keep (slotIdx + 1) slots (UInt32.ofNat slotIdx :: free) st' (removed + 1)
        { rest with
          slots := { slot with
            value := none
            generation := slot.generation + 1
            gen_le := slot.succ_generation_le hmax } :: rest.slots }

namespace HandleTable

theorem ext_of_fields (t t' : HandleTable α) (hs : t.slots = t'.slots) (hf : t.free = t'.free)
    (hl : t.live = t'.live) : t = t' := by
  cases t
  cases t'
  cases hs
  cases hf
  cases hl
  rfl

def paired {ω : Type} (keep : ω → Handle → α → Bool × ω) (st : ω) (e : Handle × α) : Bool × ω :=
  keep st e.1 e.2

def entries (slots : List (Slot α)) (i : Nat) : List (Handle × α) :=
  (slots.zipIdx i).filterMap fun p =>
    p.1.value.map fun value => (Handle.new p.1.kind p.1.generation (UInt32.ofNat p.2), value)

theorem iter_eq_entries (t : HandleTable α) : t.iter = entries t.slots 0 := rfl

theorem entries_cons_none (slot : Slot α) (slots : List (Slot α)) (i : Nat)
    (hv : slot.value = none) : entries (slot :: slots) i = entries slots (i + 1) := by
  simp [entries, hv]

theorem entries_cons_some (slot : Slot α) (slots : List (Slot α)) (i : Nat) (v : α)
    (hv : slot.value = some v) : entries (slot :: slots) i =
      (Handle.new slot.kind slot.generation (UInt32.ofNat i), v) :: entries slots (i + 1) := by
  simp [entries, hv]

theorem getElem?_at (pre post : List (Slot α)) (slot : Slot α) :
    (pre ++ slot :: post)[pre.length]? = some slot := by
  rw [List.getElem?_append_right (Nat.le_refl _), Nat.sub_self]
  rfl

section
variable {ω : Type} (keep : ω → Handle → α → Bool × ω) (t : HandleTable α) (st : ω) (n i : Nat)
  (slot : Slot α) (hi : t.slots[i]? = some slot)
include hi

theorem visit_vacant (hv : slot.value = none) : visit keep (t, st, n) i = (t, st, n) := by
  simp only [visit, hi]
  rw [hv]

theorem visit_kept (v : α) (hv : slot.value = some v)
    (hk : (keep st (Handle.new slot.kind slot.generation (UInt32.ofNat i)) v).1 = true) :
    visit keep (t, st, n) i =
      (t, (keep st (Handle.new slot.kind slot.generation (UInt32.ofNat i)) v).2, n) := by
  simp only [visit, hi]
  rw [hv]
  simp only [hk, if_true]

theorem visit_rejected (v : α) (hv : slot.value = some v)
    (hk : (keep st (Handle.new slot.kind slot.generation (UInt32.ofNat i)) v).1 = false) :
    visit keep (t, st, n) i = (t.release i,
      (keep st (Handle.new slot.kind slot.generation (UInt32.ofNat i)) v).2, n + 1) := by
  simp only [visit, hi]
  rw [hv]
  simp only [hk, Bool.false_eq_true, if_false]

theorem live_release : (t.release i).live = t.live - 1 := by
  rw [release]
  split
  · rename_i hnone
    rw [hnone] at hi
    cases hi
  · rfl

end

theorem slots_release_at (t : HandleTable α) (pre post : List (Slot α)) (slot : Slot α)
    (hs : t.slots = pre ++ slot :: post) :
    (t.release pre.length).slots = (pre ++ [slot.vacate]) ++ post := by
  rw [t.slots_release _ slot (hs ▸ getElem?_at pre post slot), hs,
    List.set_append_right _ _ (Nat.le_refl _), Nat.sub_self]
  simp

theorem foldl_visit {ω : Type} (keep : ω → Handle → α → Bool × ω) (t : HandleTable α)
    (pre post : List (Slot α)) (st : ω) (n : Nat) (hs : t.slots = pre ++ post) :
    let r := retainLoop keep pre.length post t.free st n
    let p := (List.range' pre.length post.length).foldl (visit keep) (t, st, n)
    p.1.slots = pre ++ r.slots ∧ p.1.free = r.free ∧ p.1.live = t.live - (r.removed - n) ∧
      p.2.1 = r.memory ∧ p.2.2 = r.removed ∧ n ≤ r.removed := by
  -- the slots before the cursor are done: the fold over indices changes none of them again
  induction post generalizing t pre st n with
  | nil => simp [retainLoop, hs]
  | cons slot post ih =>
    have hi : t.slots[pre.length]? = some slot := hs ▸ getElem?_at pre post slot
    have hlen : (pre ++ [slot]).length = pre.length + 1 := by simp
    rw [List.length_cons, List.range'_succ, List.foldl_cons]
    cases hv : slot.value with
    | none =>
      have hrest := ih t (pre ++ [slot]) st n (by rw [hs]; simp)
      rw [hlen] at hrest
      rw [visit_vacant keep t st n _ slot hi hv]
      simpa [retainLoop, hv] using hrest
    | some v =>
      cases hk : (keep st (Handle.new slot.kind slot.generation (UInt32.ofNat pre.length)) v).1 with
      | true =>
        have hrest := ih t (pre ++ [slot])
          (keep st (Handle.new slot.kind slot.generation (UInt32.ofNat pre.length)) v).2 n
          (by rw [hs]; simp)
        rw [hlen] at hrest
        rw [visit_kept keep t st n _ slot hi v hv hk]
        simpa [retainLoop, hv, hk] using hrest
      | false =>
        have hrest := ih (t.release pre.length) (pre ++ [slot.vacate])
          (keep st (Handle.new slot.kind slot.generation (UInt32.ofNat pre.length)) v).2 (n + 1)
          (t.slots_release_at pre post slot hs)
        rw [t.free_release _ slot hi, t.live_release _ slot hi,
          show (pre ++ [slot.vacate]).length = pre.length + 1 by simp] at hrest
        rw [visit_rejected keep t st n _ slot hi v hv hk]
        obtain ⟨hslots, hfree, hlive, hmem, hrem, hle⟩ := hrest
        by_cases hmax : generationMax ≤ slot.generation
        · rw [slot.vacate_of_max hmax] at hslots
          simp only [Slot.exhausted, hmax, decide_true, if_true] at hslots hfree hlive hmem hrem hle
          simp only [retainLoop, hv, hk, hmax, Bool.false_eq_true, if_false, dif_pos]
          refine ⟨by simpa using hslots, hfree, ?_, hmem, hrem, by omega⟩
          rw [hlive]
          omega
        · rw [slot.vacate_of_lt hmax] at hslots
          simp only [Slot.exhausted, hmax, decide_false, Bool.false_eq_true, if_false]
            at hslots hfree hlive hmem hrem hle
          simp only [retainLoop, hv, hk, hmax, Bool.false_eq_true, if_false, dif_neg, not_false_iff]
          refine ⟨by simpa using hslots, hfree, ?_, hmem, hrem, by omega⟩
          rw [hlive]
          omega

theorem retain_swept {ω : Type} (t : HandleTable α) (keep : ω → Handle → α → Bool × ω) (st : ω) :
    let r := retainLoop keep 0 t.slots t.free st 0
    (t.retain keep st).1.slots = r.slots ∧ (t.retain keep st).1.free = r.free ∧
      (t.retain keep st).1.live = t.live - r.removed ∧
        (t.retain keep st).2 = (r.memory, r.removed) := by
  intro r
  have h := t.foldl_visit keep [] t.slots st 0 (List.nil_append _).symm
  rw [List.length_nil, ← List.range_eq_range'] at h
  obtain ⟨hslots, hfree, hlive, hmem, hrem, -⟩ := h
  exact ⟨hslots, hfree, hlive, Prod.ext hmem hrem⟩

/-- `retain` with its own loop: one pass over the slots, the count taken off at the end. -/
def retainInPlace {ω : Type} (t : HandleTable α) (keep : ω → Handle → α → Bool × ω) (st : ω) :
    HandleTable α × ω × Nat :=
  let r := retainLoop keep 0 t.slots t.free st 0
  ({ slots := r.slots
     free := r.free
     live := t.live - r.removed
     free_lt := by
      obtain ⟨hslots, hfree, -, -⟩ := t.retain_swept keep st
      rw [← hslots, ← hfree]
      exact (t.retain keep st).1.free_lt }, r.memory, r.removed)

theorem retainInPlace_eq {ω : Type} (t : HandleTable α) (keep : ω → Handle → α → Bool × ω)
    (st : ω) : t.retainInPlace keep st = t.retain keep st := by
  obtain ⟨hslots, hfree, hlive, hrest⟩ := t.retain_swept keep st
  exact Prod.ext (ext_of_fields _ _ hslots.symm hfree.symm hlive.symm) hrest.symm

theorem clearLoop_eq {ω : Type} (keep : ω → Handle → α → Bool × ω)
    (hkeep : ∀ st h v, (keep st h v).1 = false) (i : Nat) (slots : List (Slot α))
    (free : List UInt32) (st : ω) (n : Nat) :
    clearLoop i slots free =
      ((retainLoop keep i slots free st n).slots, (retainLoop keep i slots free st n).free) := by
  induction slots generalizing i free st n with
  | nil => rfl
  | cons slot slots ih =>
    cases hv : slot.value with
    | none =>
      have hrest := ih (i + 1) free st n
      simp [clearLoop, retainLoop, hv, hrest]
    | some v =>
      have hk := hkeep st (Handle.new slot.kind slot.generation (UInt32.ofNat i)) v
      by_cases hmax : generationMax ≤ slot.generation
      · have hrest := ih (i + 1) free
          (keep st (Handle.new slot.kind slot.generation (UInt32.ofNat i)) v).2 (n + 1)
        simp [clearLoop, retainLoop, hv, hk, hmax, hrest]
      · have hrest := ih (i + 1) (UInt32.ofNat i :: free)
          (keep st (Handle.new slot.kind slot.generation (UInt32.ofNat i)) v).2 (n + 1)
        simp [clearLoop, retainLoop, hv, hk, hmax, hrest]

theorem clear_swept (t : HandleTable α) : t.clear.slots = (clearLoop 0 t.slots t.free).1 ∧
    t.clear.free = (clearLoop 0 t.slots t.free).2 := by
  obtain ⟨hslots, hfree, -, -⟩ := t.retain_swept (fun st _ _ => (false, st)) ()
  rw [clearLoop_eq (fun st _ _ => (false, st)) (fun _ _ _ => rfl) 0 t.slots t.free () 0]
  exact ⟨hslots, hfree⟩

/-- `clear` with its own loop: one pass over the slots, then the counter set to zero. -/
def clearInPlace (t : HandleTable α) : HandleTable α where
  slots := (clearLoop 0 t.slots t.free).1
  free := (clearLoop 0 t.slots t.free).2
  live := 0
  free_lt := by
    rw [← t.clear_swept.1, ← t.clear_swept.2]
    exact t.clear.free_lt

theorem clearInPlace_eq (t : HandleTable α) : t.clearInPlace = t.clear :=
  ext_of_fields _ _ t.clear_swept.1.symm t.clear_swept.2.symm rfl

/-- The loop of `retain` puts the entries ahead to the predicate, each once and in order, and
leaves the accepted ones. -/
theorem retainLoop_sift {ω : Type} (keep : ω → Handle → α → Bool × ω) (i : Nat)
    (slots : List (Slot α)) (free : List UInt32) (st : ω) (n : Nat) :
    let r := retainLoop keep i slots free st n
    let o := sift (paired keep) st (entries slots i)
    entries r.slots i = o.kept ∧ r.memory = o.memory ∧ r.removed = n + o.rejected.length := by
  induction slots generalizing i free st n with
  | nil => exact ⟨rfl, rfl, rfl⟩
  | cons slot slots ih =>
    cases hv : slot.value with
    | none =>
      obtain ⟨hkept, hmem, hrem⟩ := ih (i + 1) free st n
      simp only [retainLoop, hv, entries_cons_none slot _ i hv]
      exact ⟨hkept, hmem, hrem⟩
    | some v =>
      let h := Handle.new slot.kind slot.generation (UInt32.ofNat i)
      simp only [entries_cons_some slot _ i v hv]
      cases hk : (keep st h v).1 with
      | true =>
        obtain ⟨hkept, hmem, hrem⟩ := ih (i + 1) free (keep st h v).2 n
        rw [sift_cons_kept (paired keep) st (h, v) _ hk]
        simp only [retainLoop, hv, show (keep st (Handle.new slot.kind slot.generation
          (UInt32.ofNat i)) v).1 = true from hk, if_true, entries_cons_some slot _ i v hv]
        exact ⟨congrArg _ hkept, hmem, hrem⟩
      | false =>
        have hcount (free' : List UInt32) := ih (i + 1) free' (keep st h v).2 (n + 1)
        rw [sift_cons_rejected (paired keep) st (h, v) _ hk]
        simp only [retainLoop, hv, show (keep st (Handle.new slot.kind slot.generation
          (UInt32.ofNat i)) v).1 = false from hk, Bool.false_eq_true, if_false, List.length_cons]
        split
        · obtain ⟨hkept, hmem, hrem⟩ := hcount free
          rw [entries_cons_none _ _ i rfl]
          exact ⟨hkept, hmem, by rw [hrem]; simp only [paired, h]; omega⟩
        · obtain ⟨hkept, hmem, hrem⟩ := hcount (UInt32.ofNat i :: free)
          rw [entries_cons_none _ _ i rfl]
          exact ⟨hkept, hmem, by rw [hrem]; simp only [paired, h]; omega⟩

theorem retain_sift {ω : Type} (t : HandleTable α) (keep : ω → Handle → α → Bool × ω) (st : ω) :
    let o := sift (paired keep) st t.iter
    (t.retain keep st).1.iter = o.kept ∧ (t.retain keep st).2 = (o.memory, o.rejected.length) := by
  obtain ⟨hslots, -, -, hrest⟩ := t.retain_swept keep st
  obtain ⟨hkept, hmem, hrem⟩ := retainLoop_sift keep 0 t.slots t.free st 0
  refine ⟨?_, ?_⟩
  · rw [iter_eq_entries, hslots]
    exact hkept
  · rw [hrest, hmem, hrem, Nat.zero_add]
    rfl

theorem iter_clear (t : HandleTable α) : t.clear.iter = [] := by
  have h := (t.retain_sift (fun st _ _ => (false, st)) ()).1
  rw [(sift_of_false _ (fun _ _ => rfl) () t.iter).1] at h
  exact h

end HandleTable
end Graftx.Handles
