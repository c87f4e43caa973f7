import Graftx.Handles.Null
import Graftx.Server.History
import Graftx.Server.Vulkan

/-! The null handle on the wire. A handle field of all zeros names the first object of
whatever family it is looked up in, until that object is destroyed. -/
namespace Graftx.Server
open Graftx.Protocol Graftx.Protocol.Vk Graftx.Handles Lib.Machine

section
variable {B : Type} [Backend B] [Described B]

def HandedOut {F : Type} (l : List (Input × Event F)) (f : F) : Prop := ∃ h, Issued l f h

/-- An object that had the key of the null handle has been destroyed. -/
def FirstDestroyed {F : Type} (l : List (Input × Event F)) (f : F) : Prop :=
  ∃ e ∈ l, ∃ h, e.2.destroyed = some (f, h) ∧ h.key = nullHandle.key

theorem handedOut_snoc {F : Type} (l : List (Input × Event F)) (e : Input × Event F) (f : F) :
    HandedOut (l ++ [e]) f ↔ HandedOut l f ∨ ∃ h, (f, h) ∈ e.2.returned := by
  simp only [HandedOut, Issued.snoc_iff, exists_or]

theorem firstDestroyed_snoc {F : Type} (l : List (Input × Event F)) (e : Input × Event F) (f : F) :
    FirstDestroyed (l ++ [e]) f ↔
      FirstDestroyed l f ∨ ∃ h, e.2.destroyed = some (f, h) ∧ h.key = nullHandle.key := by
  simp [FirstDestroyed, or_and_right, exists_or]

/-- The log accounts for the first slot of a table. -/
structure FirstSlot {F : Type} {α : Type} (l : List (Input × Event F)) (f : F)
    (t : HandleTable α) : Prop where
  dated : t.Dated
  filled : t.slots ≠ [] ↔ HandedOut l f
  destroyed : FirstDestroyed l f → HandedOut l f
  null : t.get nullHandle = none ↔ ¬ HandedOut l f ∨ FirstDestroyed l f

theorem FirstSlot.quiet {F : Type} {α : Type} {l : List (Input × Event F)} {f : F}
    {t t' : HandleTable α} (h : FirstSlot l f t) (e : Input × Event F)
    (hr : ∀ h, (f, h) ∉ e.2.returned) (hd : ∀ h, e.2.destroyed ≠ some (f, h))
    (hdated : t'.Dated) (hlen : t'.slots.length = t.slots.length)
    (hget : t'.get nullHandle = none ↔ t.get nullHandle = none) : FirstSlot (l ++ [e]) f t' := by
  have hout : HandedOut (l ++ [e]) f ↔ HandedOut l f := by simp [handedOut_snoc, hr]
  have hfirst : FirstDestroyed (l ++ [e]) f ↔ FirstDestroyed l f := by
    simp [firstDestroyed_snoc, hd]
  refine ⟨hdated, ?_, by rw [hout, hfirst]; exact h.destroyed, by rw [hget, hout, hfirst, h.null]⟩
  rw [hout, ← h.filled, ← List.length_pos_iff, ← List.length_pos_iff, hlen]

omit [Described B] in
theorem FirstSlot.step {f : Family B} {l : List (Input × Event (Family B))}
    {t t' : HandleTable (Object f)} {e : Event (Family B)} (h : FirstSlot l f t) (i : Input)
    (hs : TableStep f t e t') : FirstSlot (l ++ [(i, e)]) f t' := by
  have ⟨hdated, hfilled, hdes, hnull⟩ := h
  cases hs with
  | same e hr hd => exact h.quiet (i, e) hr hd hdated rfl Iff.rfl
  | created state =>
    have hout : HandedOut (l ++ [(i, ⟨[(f, (t.insert (kind f) state).1)], none⟩)]) f := by
      simp [handedOut_snoc]
    have hfirst : FirstDestroyed (l ++ [(i, ⟨[(f, (t.insert (kind f) state).1)], none⟩)]) f ↔
        FirstDestroyed l f := by simp [firstDestroyed_snoc]
    refine ⟨HandleTable.dated_insert t (kind f) state hdated,
      iff_of_true (t.slots_insert_ne_nil (kind f) state) hout, fun _ => hout, ?_⟩
    by_cases hs : t.slots = []
    · have hnone : ¬ HandedOut l f := fun h => hfilled.mpr h hs
      rw [t.get_null_first (kind f) state hs, hfirst]
      refine iff_of_false (fun h => by cases h) ?_
      rintro (h | h)
      · exact h hout
      · exact hnone (hdes h)
    · rw [t.get_null_insert (kind f) state hdated hs, hnull, hfirst]
      simp [hout, hfilled.mp hs]
  | wrote h₀ old new hg =>
    obtain ⟨slot, hi, hv⟩ := t.slot_of_get h₀ old hg
    exact h.quiet (i, ⟨[], none⟩) (fun h => by simp) (fun h => by simp)
      (hdated.of_inherits (t.inherits_store _ slot new hi (by rw [hv]; rfl)))
      (t.length_store _ new) (t.get_store_eq_none h₀ nullHandle old new hg)
  | destroyed h old hg =>
    obtain ⟨slot, hi, hv⟩ := t.slot_of_get h old hg
    have hslots : t.slots ≠ [] := by
      intro hnil
      rw [hnil] at hi
      cases hi
    have hout : HandedOut (l ++ [(i, ⟨[], some (f, h)⟩)]) f :=
      (handedOut_snoc _ _ _).mpr (.inl (hfilled.mp hslots))
    have hfirst : FirstDestroyed (l ++ [(i, ⟨[], some (f, h)⟩)]) f ↔
        FirstDestroyed l f ∨ h.key = nullHandle.key := by simp [firstDestroyed_snoc]
    refine ⟨hdated.of_inherits (t.inherits_release _ slot hi (by rw [hv]; rfl)),
      iff_of_true ?_ hout, fun _ => hout, ?_⟩
    · rwa [← List.length_pos_iff, t.length_release, List.length_pos_iff]
    · rw [hfirst, t.get_release h nullHandle old hg]
      by_cases hk : nullHandle.key = h.key
      · rw [if_pos hk]
        exact iff_of_true rfl (.inr (.inr hk.symm))
      · rw [if_neg hk, hnull]
        simp [hout, hfilled.mp hslots, Ne.symm hk]

theorem firstSlot (is : List Input) (f : Family B) :
    FirstSlot (logOf B is) f (table (stateAfter B is) f) := by
  induction is using List.reverseRecOn with
  | nil =>
    rw [table_stateAfter_nil]
    have hout : ¬ HandedOut (logOf B []) f := fun ⟨h, e, he, _⟩ => absurd he List.not_mem_nil
    have hfirst : ¬ FirstDestroyed (logOf B []) f := fun ⟨e, he, _⟩ => absurd he List.not_mem_nil
    exact ⟨HandleTable.dated_new, iff_of_false (fun h => h rfl) hout, fun h => absurd h hfirst,
      iff_of_true rfl (.inl hout)⟩
  | append_singleton is i ih =>
    rw [stateAfter_snoc, logOf_snoc]
    exact ih.step i (tableStep _ i f)

end

/-- The null handle is ignored by a table if and only if nothing has been inserted yet or the
first slot has been freed, and by a family of a backend if and only if no object has been
handed out yet or the first one has been destroyed. Kinds do not matter. -/
theorem null_handle_ignored_iff {α : Type} (ops : List (Op α)) {B : Type} [Backend B]
    [Described B] (is : List Input) (f : Family B) :
    ((HandleTable.IgnoresNull (final HandleTable.step HandleTable.new ops)) ↔
      HandleTable.handles ops = [] ∨ ¬ HandleTable.FirstStands ops) ∧
    (HandleTable.IgnoresNull (table (stateAfter B is) f) ↔
      ¬ HandedOut (logOf B is) f ∨ FirstDestroyed (logOf B is) f) := by
  rw [HandleTable.ignoresNull_iff, HandleTable.ignoresNull_iff]
  exact ⟨HandleTable.get_null_final ops, (firstSlot is f).null⟩

def nullEnumeration : Input :=
  (VkOp.enumeratePhysicalDevices, (EnumeratePhysicalDevicesRequest.mk nullHandle).encode)

/-- The first object of a table answers to the null handle whatever its kind, and a backend
takes the null handle for its first object. -/
theorem null_handle_resolves :
    (¬ ∀ ops : List (Op Unit), (∀ op ∈ ops, ¬ HandleTable.InsertsKind 0 op) →
      (final HandleTable.step HandleTable.new ops).IgnoresNull) ∧
    (step (stateAfter VulkanBackend [(VkOp.createInstance, (CreateInstanceRequest.mk 0).encode)])
      nullEnumeration).1.toOption.isSome := by
  refine ⟨fun h => ?_, by decide +kernel⟩
  have hget := (h [.insert 1 ()] fun op hop hkind => by
    cases List.mem_singleton.mp hop
    cases hkind).get
  exact absurd hget (by decide)

end Graftx.Server
