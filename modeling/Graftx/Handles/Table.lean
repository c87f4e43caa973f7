import Graftx.Protocol.Handle
import Mathlib.Data.List.Basic

/-! The generational handle table. A slot index is a 32-bit number, so the table is
only as good as its claims while it has fewer than `2 ^ 32` slots; nothing here
assumes that bound. -/
namespace Graftx.Handles
open Graftx.Protocol
universe u
variable {α : Type u}

/-- One storage slot. Its generation always fits the 24 bits of a handle. -/
structure Slot (α : Type u) where
  generation : UInt32
  kind : UInt8
  value : Option α
  retired : Bool
  gen_le : generation ≤ generationMax

namespace Slot

/-- The last generation is in use; freeing this slot retires it. -/
def exhausted (s : Slot α) : Bool := decide (generationMax ≤ s.generation)

theorem toNat_succ_generation (s : Slot α) (h : s.exhausted = false) :
    (s.generation + 1).toNat = s.generation.toNat + 1 := by
  have hlt : s.generation.toNat < generationMax.toNat := by
    have h' : ¬ generationMax ≤ s.generation := by simpa [exhausted] using h
    exact UInt32.lt_iff_toNat_lt.mp (UInt32.not_le.mp h')
  have hmax : generationMax.toNat = 2 ^ 24 - 1 := by decide
  rw [UInt32.toNat_add]
  simp only [UInt32.toNat_one]
  omega

/-- Free an occupied slot: retire it or move it to its next generation. -/
def vacate (s : Slot α) : Slot α :=
  if h : s.exhausted then { s with value := none, retired := true }
  else
    { s with
      value := none
      generation := s.generation + 1
      gen_le := by
        have h' : ¬ generationMax ≤ s.generation := by simpa [exhausted] using h
        have hlt := UInt32.lt_iff_toNat_lt.mp (UInt32.not_le.mp h')
        rw [UInt32.le_iff_toNat_le, s.toNat_succ_generation (by simpa using h)]
        omega }

@[simp] theorem value_vacate (s : Slot α) : s.vacate.value = none := by
  rw [vacate]
  split <;> rfl

theorem vacate_of_exhausted (s : Slot α) (h : s.exhausted = true) :
    s.vacate.generation = s.generation ∧ s.vacate.retired = true := by
  rw [vacate, dif_pos h]
  exact ⟨rfl, rfl⟩

theorem vacate_of_not_exhausted (s : Slot α) (h : s.exhausted = false) :
    s.vacate.generation = s.generation + 1 ∧ s.vacate.retired = s.retired := by
  rw [vacate, dif_neg (by simp [h])]
  exact ⟨rfl, rfl⟩

end Slot

/-- `free` is the stack of reusable slots, top first; every entry names a slot. -/
structure HandleTable (α : Type u) where
  slots : List (Slot α)
  free : List UInt32
  live : Nat
  free_lt : ∀ i ∈ free, i.toNat < slots.length

namespace HandleTable

def new : HandleTable α := ⟨[], [], 0, by simp⟩

/-- A free slot is reused, otherwise a slot is appended. The index of an appended
slot is truncated to 32 bits. -/
def insert (t : HandleTable α) (kind : UInt8) (value : α) : Handle × HandleTable α :=
  match hfree : t.free with
  | slotIdx :: free =>
    have hlt : slotIdx.toNat < t.slots.length := t.free_lt slotIdx (by simp [hfree])
    let slot := t.slots[slotIdx.toNat]
    (Handle.new kind slot.generation slotIdx,
      { slots := t.slots.set slotIdx.toNat { slot with value := some value, kind := kind }
        free := free
        live := t.live + 1
        free_lt := fun i hi => by
          rw [List.length_set]
          exact t.free_lt i (by simp [hfree, hi]) })
  -- the slot count is cast to the 32 bits of an index
  | [] =>
    (Handle.new kind 0 (UInt32.ofNat t.slots.length),
      { slots := t.slots ++
          [{ generation := 0, kind := kind, value := some value, retired := false,
             gen_le := by decide }]
        free := []
        live := t.live + 1
        free_lt := by simp })

def tryInsert (t : HandleTable α) (kind : UInt8) (value : α) (maxLive : Nat) :
    Option Handle × HandleTable α :=
  if t.live < maxLive then
    let (h, t') := t.insert kind value
    (some h, t')
  else (none, t)

/-- The slot a handle names: in range and at the handle's generation. The kind byte
of the handle is not looked at. -/
def lookup (t : HandleTable α) (h : Handle) : Option (Slot α) :=
  match t.slots[h.slot.toNat]? with
  | none => none
  | some slot => if slot.generation ≠ h.generation then none else some slot

def get (t : HandleTable α) (h : Handle) : Option α :=
  match t.lookup h with
  | none => none
  | some slot => slot.value

def store (t : HandleTable α) (i : Nat) (value : α) : HandleTable α :=
  match t.slots[i]? with
  | none => t
  | some slot =>
    { t with
      slots := t.slots.set i { slot with value := some value }
      free_lt := fun j hj => by
        rw [List.length_set]
        exact t.free_lt j hj }

/-- A mutable reference: the value, and the table once another value is written. -/
def getMut (t : HandleTable α) (h : Handle) : Option (α × (α → HandleTable α)) :=
  match t.lookup h with
  | none => none
  | some slot => slot.value.map fun value => (value, t.store h.slot.toNat)

def release (t : HandleTable α) (i : Nat) : HandleTable α :=
  match hi : t.slots[i]? with
  | none => t
  | some slot =>
    { slots := t.slots.set i slot.vacate
      free := if slot.exhausted then t.free else UInt32.ofNat i :: t.free
      live := t.live - 1
      free_lt := fun j hj => by
        have hlt : i < t.slots.length := (List.getElem?_eq_some_iff.mp hi).1
        rw [List.length_set]
        split at hj
        · exact t.free_lt j hj
        · obtain rfl | hj := List.mem_cons.mp hj
          · exact Nat.lt_of_le_of_lt (by simpa using Nat.mod_le i _) hlt
          · exact t.free_lt j hj }

def remove (t : HandleTable α) (h : Handle) : Option α × HandleTable α :=
  match t.lookup h with
  | none => (none, t)
  | some slot =>
    match slot.value with
    | none => (none, t)
    | some value => (some value, t.release h.slot.toNat)

def isLive (t : HandleTable α) (h : Handle) : Bool := (t.get h).isSome

/-- One turn of the loops over all slots: an occupied slot that `keep` rejects is
freed. `keep` carries a state from call to call. -/
def visit {ω : Type} (keep : ω → Handle → α → Bool × ω) (p : HandleTable α × ω × Nat) (i : Nat) :
    HandleTable α × ω × Nat :=
  let (t, st, removed) := p
  match t.slots[i]? with
  | none => p
  | some slot =>
    match slot.value with
    | none => p
    | some value =>
      let (kept, st') := keep st (Handle.new slot.kind slot.generation (UInt32.ofNat i)) value
      if kept then (t, st', removed) else (t.release i, st', removed + 1)

def retain {ω : Type} (t : HandleTable α) (keep : ω → Handle → α → Bool × ω) (st : ω) :
    HandleTable α × ω × Nat :=
  (List.range t.slots.length).foldl (visit keep) (t, st, 0)

def clear (t : HandleTable α) : HandleTable α :=
  { (t.retain (fun st _ _ => (false, st)) ()).1 with live := 0 }

end HandleTable
end Graftx.Handles
