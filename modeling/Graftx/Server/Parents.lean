import Graftx.Handles.Introspection
import Graftx.Server.References
import Graftx.Server.Vulkan
import Graftx.Server.Compute
import Graftx.Server.Media

/-! Parents that stay. Instances, devices, contexts and queues are never destroyed, and a
child is only made under a parent that resolves; so its parent always does. -/
namespace Graftx.Server
open Graftx.Protocol Graftx.Handles Lib.Machine

section
variable {B : Type} [Backend B] [Described B]

/-- A field in which the objects of one family name their parent in another, for good. -/
structure Parentage (B : Type) [Backend B] [Described B] where
  child : Family B
  parent : Family B
  ref : Object child → Handle
  kept : ∀ (b : B) (r : Request B) (h : Handle), effect b r ≠ .destroy parent h
  created : ∀ (b : B) (opcode : UInt32) (r : Request B), effect b r = .create child →
    exec b opcode r = refuse b opcode ∨ ∃ state response,
      exec b opcode r = create b child state response ∧ (table b parent).isLive (ref state)
  wrote : ∀ (b : B) (opcode : UInt32) (r : Request B) (h : Handle),
    effect b r = .write child h → ∃ change,
      (∀ old new reply, change old = some (new, reply) → ref new = ref old) ∧
      (exec b opcode r = refuse b opcode ∨ exec b opcode r = update b opcode child h change)

namespace Parentage
variable (P : Parentage B)

/-- The parent of every live child resolves, also of a child that no handle reaches. -/
def Holds (b : B) : Prop :=
  ∀ e ∈ (table b P.child).iter, (table b P.parent).isLive (P.ref e.2)

theorem isLive_step (b : B) (i : Input) (q : Handle) (hq : (table b P.parent).isLive q) :
    (table (step b i).2 P.parent).isLive q := by
  by_contra hgone
  obtain ⟨q', hdes, -⟩ := destroyed_of_lost b i P.parent q hq hgone
  obtain ⟨r, -, -, -, heff⟩ := effect_of_destroyed b i P.parent q' hdes
  exact P.kept b r q' heff

theorem child_of_exec (b : B) (opcode : UInt32) (r : Request B) (e : Handle × Object P.child)
    (he : e ∈ (table (exec b opcode r).2 P.child).iter) :
    (table b P.parent).isLive (P.ref e.2) ∨
      ∃ e₀ ∈ (table b P.child).iter, P.ref e.2 = P.ref e₀.2 := by
  have hd := Described.did b opcode r
  -- only a create or a write of the child's own family can bring a reference in
  by_cases hfam : (effect b r).family = some P.child
  · cases heff : effect b r with
    | keep =>
      rw [heff] at hfam
      cases hfam
    | create f =>
      rw [heff] at hfam
      cases hfam
      obtain hex | ⟨state, response, hex, hlive⟩ := P.created b opcode r heff
      · rw [hex] at he
        exact .inr ⟨e, he, rfl⟩
      · rw [hex] at he
        simp only [create, Tables.table_set_self] at he
        obtain rfl | hold := (table b P.child).mem_iter_insert _ state e he
        · exact .inl hlive
        · exact .inr ⟨e, hold, rfl⟩
    | write f h =>
      rw [heff] at hfam
      cases hfam
      obtain ⟨change, hsame, hex⟩ := P.wrote b opcode r h heff
      have hcases : exec b opcode r = refuse b opcode ∨ ∃ old new reply,
          (table b P.child).get h = some old ∧ change old = some (new, reply) ∧
            exec b opcode r =
              (.ok reply, setTable b P.child ((table b P.child).store h.slot.toNat new)) := by
        obtain hex | hex := hex
        · exact .inl hex
        · rw [hex]
          exact update_cases b opcode P.child h change
      obtain hex | ⟨old, new, reply, hold, hc, hex⟩ := hcases
      · rw [hex] at he
        exact .inr ⟨e, he, rfl⟩
      · rw [hex] at he
        simp only [Tables.table_set_self] at he
        obtain hnew | hold' := (table b P.child).mem_iter_store _ new e he
        · obtain ⟨h₀, -, hmem⟩ := (table b P.child).mem_iter_of_get h old hold
          exact .inr ⟨(h₀, old), hmem, hnew ▸ hsame old new reply hc⟩
        · exact .inr ⟨e, hold', rfl⟩
    | destroy f h =>
      rw [heff] at hfam hd
      cases hfam
      generalize exec b opcode r = a at hd he
      cases hd with
      | refused => exact .inr ⟨e, he, rfl⟩
      | destroyed _ _ old hg hret =>
        simp only [Tables.table_set_self] at he
        exact .inr ⟨e, (table b P.child).mem_iter_release _ e he, rfl⟩
  · rw [hd.table_ne P.child hfam] at he
    exact .inr ⟨e, he, rfl⟩

theorem holds_step (b : B) (i : Input) (h : P.Holds b) : P.Holds (step b i).2 := by
  intro e he
  refine P.isLive_step b i _ ?_
  cases hr : request B i.1 i.2 with
  | error e' =>
    rw [step, handle_of_request_error b _ _ e' hr] at he
    exact h e he
  | ok r =>
    rw [step, handle_of_request_ok b _ _ r hr] at he
    obtain hlive | ⟨e₀, he₀, hsame⟩ := P.child_of_exec b i.1 r e he
    · exact hlive
    · exact hsame ▸ h e₀ he₀

theorem holds_stateAfter (is : List Input) : P.Holds (stateAfter B is) := by
  induction is using List.reverseRecOn with
  | nil =>
    intro e he
    rw [table_stateAfter_nil] at he
    cases he
  | append_singleton is i ih =>
    rw [stateAfter_snoc]
    exact P.holds_step _ i ih

end Parentage
end

theorem isLive_of_any {α : Type} (t : HandleTable α) (q : Handle) (p : α → Bool)
    (h : ¬ ¬ (t.get q).any p) : t.isLive q := by
  rw [HandleTable.isLive]
  cases hg : t.get q with
  | none =>
    rw [hg] at h
    exact absurd Bool.false_ne_true h
  | some v => rfl

theorem guarded_create {B : Type} [Tables B] (child parent : Family B)
    (ref : Object child → Handle) (b : B) (opcode : UInt32) (c : Prop) {_ : Decidable c}
    (state : Object child) (response : Handle → Bytes)
    (hc : ¬ c → (table b parent).isLive (ref state)) :
    (if c then refuse b opcode else create b child state response) = refuse b opcode ∨
      ∃ state' response', (if c then refuse b opcode else create b child state response) =
        create b child state' response' ∧ (table b parent).isLive (ref state') := by
  by_cases h : c
  · exact .inl (if_pos h)
  · exact .inr ⟨state, response, if_neg h, hc h⟩

namespace VulkanBackend

def instanceOfPhysicalDevice : Parentage VulkanBackend where
  child := VkFamily.physicalDevice
  parent := VkFamily.inst
  ref := PhysDevState.parent
  kept b r h he := by cases r <;> cases he
  created b opcode r he := by
    cases r with
    | enumeratePhysicalDevices req =>
      refine guarded_create VkFamily.physicalDevice VkFamily.inst PhysDevState.parent
        b opcode _ _ _ ?_
      exact isLive_of_any b.instances _ _
    | _ => cases he
  wrote b opcode r h he := by cases r <;> cases he

def physicalDeviceOfDevice : Parentage VulkanBackend where
  child := VkFamily.device
  parent := VkFamily.physicalDevice
  ref := DeviceState.physicalDevice
  kept b r h he := by cases r <;> cases he
  created b opcode r he := by
    cases r with
    | createDevice req =>
      refine guarded_create VkFamily.device VkFamily.physicalDevice DeviceState.physicalDevice
        b opcode _ _ _ ?_
      exact b.physicalDevices.isLive_of_not_isNone _
    | _ => cases he
  wrote b opcode r h he := by cases r <;> cases he

def deviceOfQueue : Parentage VulkanBackend where
  child := VkFamily.queue
  parent := VkFamily.device
  ref := QueueState.device
  kept b r h he := by cases r <;> cases he
  created b opcode r he := by
    cases r with
    | getDeviceQueue req =>
      refine guarded_create VkFamily.queue VkFamily.device QueueState.device
        b opcode _ _ _ ?_
      exact b.devices.isLive_of_not_isNone _
    | _ => cases he
  wrote b opcode r h he := by cases r <;> cases he

def deviceOfMemory : Parentage VulkanBackend where
  child := VkFamily.deviceMemory
  parent := VkFamily.device
  ref := MemoryState.device
  kept b r h he := by cases r <;> cases he
  created b opcode r he := by
    cases r with
    | allocateMemory req =>
      refine guarded_create VkFamily.deviceMemory VkFamily.device MemoryState.device
        b opcode _ _ _ ?_
      exact b.devices.isLive_of_not_isNone _
    | _ => cases he
  wrote b opcode r h he := by cases r <;> cases he

def deviceOfBuffer : Parentage VulkanBackend where
  child := VkFamily.buffer
  parent := VkFamily.device
  ref := BufferState.device
  kept b r h he := by cases r <;> cases he
  created b opcode r he := by
    cases r with
    | createBuffer req =>
      refine guarded_create VkFamily.buffer VkFamily.device BufferState.device
        b opcode _ _ _ ?_
      exact b.devices.isLive_of_not_isNone _
    | _ => cases he
  wrote b opcode r h he := by
    cases r with
    | bindBufferMemory req =>
      cases he
      refine ⟨fun state => state.bind req.memory req.offset, fun old new reply hc => ?_, ?_⟩
      · simp only [BufferState.bind] at hc
        split at hc
        · cases hc
          rfl
        · cases hc
      · exact ite_eq_or_eq _ _ _
    | _ => cases he

def deviceOfCommandPool : Parentage VulkanBackend where
  child := VkFamily.commandPool
  parent := VkFamily.device
  ref := CommandPoolState.device
  kept b r h he := by cases r <;> cases he
  created b opcode r he := by
    cases r with
    | createCommandPool req =>
      refine guarded_create VkFamily.commandPool VkFamily.device CommandPoolState.device
        b opcode _ _ _ ?_
      exact b.devices.isLive_of_not_isNone _
    | _ => cases he
  wrote b opcode r h he := by cases r <;> cases he

end VulkanBackend

def GlBackend.contextOfBuffer : Parentage GlBackend where
  child := GlFamily.buffer
  parent := GlFamily.context
  ref := BufState.context
  kept b r h he := by cases r <;> cases he
  created b opcode r he := by
    cases r with
    | genBuffer req =>
      refine guarded_create GlFamily.buffer GlFamily.context BufState.context
        b opcode _ _ _ ?_
      exact isLive_of_any b.contexts _ _
    | _ => cases he
  wrote b opcode r h he := by cases r <;> cases he

def CudaBackend.contextOfAllocation : Parentage CudaBackend where
  child := CudaFamily.devicePtr
  parent := CudaFamily.context
  ref := CudaMemState.context
  kept b r h he := by cases r <;> cases he
  created b opcode r he := by
    cases r with
    | memAlloc req =>
      refine guarded_create CudaFamily.devicePtr CudaFamily.context CudaMemState.context
        b opcode _ _ _ ?_
      exact b.contexts.isLive_of_not_isNone _
    | _ => cases he
  wrote b opcode r h he := by cases r <;> cases he

def ClBackend.contextOfBuffer : Parentage ClBackend where
  child := ClFamily.mem
  parent := ClFamily.context
  ref := ClBufState.context
  kept b r h he := by cases r <;> cases he
  created b opcode r he := by
    cases r with
    | createBuffer req =>
      refine guarded_create ClFamily.mem ClFamily.context ClBufState.context
        b opcode _ _ _ ?_
      exact b.contexts.isLive_of_not_isNone _
    | _ => cases he
  wrote b opcode r h he := by cases r <;> cases he

def L0Backend.contextOfAllocation : Parentage L0Backend where
  child := L0Family.deviceMem
  parent := L0Family.context
  ref := L0MemState.context
  kept b r h he := by cases r <;> cases he
  created b opcode r he := by
    cases r with
    | memAllocDevice req =>
      refine guarded_create L0Family.deviceMem L0Family.context L0MemState.context
        b opcode _ _ _ ?_
      exact b.contexts.isLive_of_not_isNone _
    | _ => cases he
  wrote b opcode r h he := by cases r <;> cases he

def SyclBackend.queueOfAllocation : Parentage SyclBackend where
  child := SyclFamily.devicePtr
  parent := SyclFamily.queue
  ref := SyclPtrState.queue
  kept b r h he := by cases r <;> cases he
  created b opcode r he := by
    cases r with
    | mallocDevice req =>
      refine guarded_create SyclFamily.devicePtr SyclFamily.queue SyclPtrState.queue
        b opcode _ _ _ ?_
      exact b.queues.isLive_of_not_isNone _
    | _ => cases he
  wrote b opcode r h he := by cases r <;> cases he

def WebGpuBackend.deviceOfBuffer : Parentage WebGpuBackend where
  child := WgpuFamily.buffer
  parent := WgpuFamily.device
  ref := WgpuBufState.device
  kept b r h he := by cases r <;> cases he
  created b opcode r he := by
    cases r with
    | createBuffer req =>
      refine guarded_create WgpuFamily.buffer WgpuFamily.device WgpuBufState.device
        b opcode _ _ _ ?_
      exact b.devices.isLive_of_not_isNone _
    | _ => cases he
  wrote b opcode r h he := by cases r <;> cases he

/-- In every state that requests can bring a backend to, hostile ones included, the recorded
parent of every live child resolves. -/
theorem parents_resolve :
    (∀ is, let b := stateAfter VulkanBackend is
      (∀ e ∈ b.physicalDevices.iter, b.instances.isLive e.2.parent) ∧
      (∀ e ∈ b.devices.iter, b.physicalDevices.isLive e.2.physicalDevice) ∧
      (∀ e ∈ b.queues.iter, b.devices.isLive e.2.device) ∧
      (∀ e ∈ b.memories.iter, b.devices.isLive e.2.device) ∧
      (∀ e ∈ b.buffers.iter, b.devices.isLive e.2.device) ∧
      (∀ e ∈ b.commandPools.iter, b.devices.isLive e.2.device)) ∧
    (∀ is, let b := stateAfter GlBackend is
      ∀ e ∈ b.buffers.iter, b.contexts.isLive e.2.context) ∧
    (∀ is, let b := stateAfter CudaBackend is
      ∀ e ∈ b.allocations.iter, b.contexts.isLive e.2.context) ∧
    (∀ is, let b := stateAfter ClBackend is
      ∀ e ∈ b.buffers.iter, b.contexts.isLive e.2.context) ∧
    (∀ is, let b := stateAfter L0Backend is
      ∀ e ∈ b.mems.iter, b.contexts.isLive e.2.context) ∧
    (∀ is, let b := stateAfter SyclBackend is
      ∀ e ∈ b.ptrs.iter, b.queues.isLive e.2.queue) ∧
    (∀ is, let b := stateAfter WebGpuBackend is
      ∀ e ∈ b.buffers.iter, b.devices.isLive e.2.device) := by
  refine ⟨fun is => ⟨?_, ?_, ?_, ?_, ?_, ?_⟩, ?_, ?_, ?_, ?_, ?_, ?_⟩
  · exact VulkanBackend.instanceOfPhysicalDevice.holds_stateAfter is
  · exact VulkanBackend.physicalDeviceOfDevice.holds_stateAfter is
  · exact VulkanBackend.deviceOfQueue.holds_stateAfter is
  · exact VulkanBackend.deviceOfMemory.holds_stateAfter is
  · exact VulkanBackend.deviceOfBuffer.holds_stateAfter is
  · exact VulkanBackend.deviceOfCommandPool.holds_stateAfter is
  · exact GlBackend.contextOfBuffer.holds_stateAfter
  · exact CudaBackend.contextOfAllocation.holds_stateAfter
  · exact ClBackend.contextOfBuffer.holds_stateAfter
  · exact L0Backend.contextOfAllocation.holds_stateAfter
  · exact SyclBackend.queueOfAllocation.holds_stateAfter
  · exact WebGpuBackend.deviceOfBuffer.holds_stateAfter

end Graftx.Server
