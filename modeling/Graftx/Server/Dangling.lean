import Graftx.Server.Lifetimes
import Graftx.Server.Vulkan
import Graftx.Server.Optix

/-! Pools, bound memories and contexts may be destroyed while something still refers to
them; no backend counts references. What holds instead is that nothing else can leave a
reference dangling. -/
namespace Graftx.Server
open Graftx.Protocol Graftx.Protocol.Vk Graftx.Handles

section
variable (opcode : UInt32) (h q : Handle)

theorem pool_recorded (b : VulkanBackend) (r : VkRequest) (v : CommandBufferState)
    (hv : ((b.exec opcode r).2.table .commandBuffer).get h = some v) (hq : some v.pool = some q) :
    (∃ v₀ : CommandBufferState, (b.table .commandBuffer).get h = some v₀ ∧ some v₀.pool = some q) ∨
      ((b.exec opcode r).2.table .commandPool).isLive q := by
  have hd := VkRequest.exec_did b opcode r
  have hr : Records (B := VulkanBackend) VkFamily.commandBuffer VkFamily.commandPool
      (fun v : CommandBufferState => some v.pool) b (b.exec opcode r) := by
    cases r with
    | allocateCommandBuffer req =>
      have hpools := hd.table_ne VkFamily.commandPool fun h => by cases h
      refine ⟨none, .guard fun hlive => .create _ _ fun q hq => ?_⟩
      cases hq
      rw [hpools]
      exact b.commandPools.isLive_of_not_isNone _ hlive
    | cmdCopyBuffer req =>
      refine ⟨_, .guard fun _ => .update req.commandBuffer _ fun old new reply hc q hq => ?_⟩
      cases hc
      exact .inl hq
    | cmdDraw req =>
      refine ⟨_, .update (B := VulkanBackend) (f := VkFamily.commandBuffer) req.commandBuffer _
        fun old new reply hc q hq => ?_⟩
      cases hc
      exact .inl hq
    | _ => exact ⟨none, .other (hd.table_ne _ fun h => by cases h)⟩
  exact hr.recorded h q v hv hq

theorem memory_recorded (b : VulkanBackend) (r : VkRequest) (v : BufferState)
    (hv : ((b.exec opcode r).2.table .buffer).get h = some v)
    (hq : v.bound.map Prod.fst = some q) :
    (∃ v₀ : BufferState, (b.table .buffer).get h = some v₀ ∧ v₀.bound.map Prod.fst = some q) ∨
      ((b.exec opcode r).2.table .deviceMemory).isLive q := by
  have hd := VkRequest.exec_did b opcode r
  have hr : Records (B := VulkanBackend) VkFamily.buffer VkFamily.deviceMemory
      (fun v : BufferState => v.bound.map Prod.fst) b (b.exec opcode r) := by
    cases r with
    | createBuffer req =>
      refine ⟨none, .guard fun _ => .create _ _ fun q hq => ?_⟩
      cases hq
    | bindBufferMemory req =>
      have hmemories := hd.table_ne VkFamily.deviceMemory fun h => by cases h
      refine ⟨_, .guard fun hlive => .update req.buffer _ fun old new reply hc q hq => ?_⟩
      rw [BufferState.bind] at hc
      split at hc
      · cases hc
        cases hq
        rw [hmemories]
        exact .inr (b.memories.isLive_of_not_isNone _ hlive)
      · cases hc
    | destroyBuffer req =>
      exact ⟨none, Changes.destroy (B := VulkanBackend) VkFamily.buffer req.buffer⟩
    | _ => exact ⟨none, .other (hd.table_ne _ fun h => by cases h)⟩
  exact hr.recorded h q v hv hq

theorem context_recorded (b : OptixBackend) (r : OptixRequest) (v : OptixPipelineState)
    (hv : ((b.exec opcode r).2.table .pipeline).get h = some v) (hq : some v.context = some q) :
    (∃ v₀ : OptixPipelineState, (b.table .pipeline).get h = some v₀ ∧ some v₀.context = some q) ∨
      ((b.exec opcode r).2.table .context).isLive q := by
  have hd := OptixRequest.exec_did b opcode r
  have hr : Records (B := OptixBackend) OptixFamily.pipeline OptixFamily.context
      (fun v : OptixPipelineState => some v.context) b (b.exec opcode r) := by
    cases r with
    | contextCreate => exact ⟨none, .other (hd.table_ne _ fun h => by cases h)⟩
    | pipelineCreate req =>
      have hcontexts := hd.table_ne OptixFamily.context fun h => by cases h
      refine ⟨none, .guard fun hlive => .create _ _ fun q hq => ?_⟩
      cases hq
      rw [hcontexts]
      exact b.contexts.isLive_of_not_isNone _ hlive
    | destroy req =>
      rw [b.exec_destroy]
      exact ⟨none, .destroy _ _⟩
  exact hr.recorded h q v hv hq

end

def poolOf : Reference VulkanBackend :=
  .ofExec VkFamily.commandBuffer VkFamily.commandPool (fun v : CommandBufferState => some v.pool)
    fun b opcode r h q v => pool_recorded opcode h q b r v

def memoryOf : Reference VulkanBackend :=
  .ofExec VkFamily.buffer VkFamily.deviceMemory (fun v : BufferState => v.bound.map Prod.fst)
    fun b opcode r h q v => memory_recorded opcode h q b r v

def contextOf : Reference OptixBackend :=
  .ofExec OptixFamily.pipeline OptixFamily.context (fun v : OptixPipelineState => some v.context)
    fun b opcode r h q v => context_recorded opcode h q b r v

/-- In every state reached every live child's parent resolves. -/
def NoDangling {B : Type} [Backend B] [Described B] (R : Reference B) : Prop :=
  ∀ is h q, R.Refers (stateAfter B is) h q → (table (stateAfter B is) R.parent).isLive q

/-- In every state reached the parent of a live child resolves unless an accepted destroy took
it away after the reference was made; so a request is accepted on a child without a parent
only after such a destroy. -/
structure DanglesByDestroy {B : Type} [Backend B] [Described B] (R : Reference B) : Prop where
  references : ∀ is h q, R.Refers (stateAfter B is) h q →
    (table (stateAfter B is) R.parent).isLive q ∨ R.Orphaned is h q
  requests : ∀ is (i : Input) r h, request B i.1 i.2 = .ok r →
    (R.child, h) ∈ uses (stateAfter B is) r → (∃ reply, (step (stateAfter B is) i).1 = .ok reply) →
    ∃ v, (table (stateAfter B is) R.child).get h = some v ∧ ∀ q, R.ref v = some q →
      (table (stateAfter B is) R.parent).isLive q ∨ R.Orphaned is h q

theorem Reference.danglesByDestroy {B : Type} [Backend B] [Described B] (R : Reference B) :
    DanglesByDestroy R where
  references := R.resolves_or_orphaned
  requests is i r h hr hu hok := by
    have hl := live_of_admits _ r ((answered_iff _ i r hr).mp hok) (R.child, h) hu
    obtain ⟨v, hv⟩ := Option.isSome_iff_exists.mp hl
    exact ⟨v, hv, fun q hq => R.resolves_or_orphaned is h q ⟨v, hv, hq⟩⟩

theorem references_dangle_by_destroy_only :
    DanglesByDestroy poolOf ∧ DanglesByDestroy memoryOf ∧ DanglesByDestroy contextOf :=
  ⟨poolOf.danglesByDestroy, memoryOf.danglesByDestroy, contextOf.danglesByDestroy⟩

def poolDestroyed : List Input :=
  [(VkOp.createInstance, (CreateInstanceRequest.mk 0).encode),
    (VkOp.enumeratePhysicalDevices, (EnumeratePhysicalDevicesRequest.mk (Handle.new 1 0 0)).encode),
    (VkOp.createDevice, (CreateDeviceRequest.mk (Handle.new 2 0 0)).encode),
    (VkOp.getDeviceQueue, (GetDeviceQueueRequest.mk (Handle.new 3 0 0) 0 0).encode),
    (VkOp.createCommandPool, (CreateCommandPoolRequest.mk (Handle.new 3 0 0) 0).encode),
    (VkOp.allocateCommandBuffer, (AllocateCommandBufferRequest.mk (Handle.new 7 0 0)).encode),
    (VkOp.destroyCommandPool, (DestroyCommandPoolRequest.mk (Handle.new 7 0 0)).encode)]

def memoryFreed : List Input :=
  [(VkOp.createInstance, (CreateInstanceRequest.mk 0).encode),
    (VkOp.enumeratePhysicalDevices, (EnumeratePhysicalDevicesRequest.mk (Handle.new 1 0 0)).encode),
    (VkOp.createDevice, (CreateDeviceRequest.mk (Handle.new 2 0 0)).encode),
    (VkOp.allocateMemory, (AllocateMemoryRequest.mk (Handle.new 3 0 0) 64).encode),
    (VkOp.createBuffer, (CreateBufferRequest.mk (Handle.new 3 0 0) 64 0).encode),
    (VkOp.bindBufferMemory,
      (BindBufferMemoryRequest.mk (Handle.new 6 0 0) (Handle.new 5 0 0) 0).encode),
    (VkOp.freeMemory, (FreeMemoryRequest.mk (Handle.new 5 0 0)).encode)]

/-- The first pipeline of the first context is destroyed, a second one is made of that context,
and then the context goes, whose handle reaches no pipeline any more. -/
def contextDestroyed : List Input :=
  [(OptixOp.contextCreate, []),
    (OptixOp.pipelineCreate, (Optix.PipelineCreateRequest.mk (Handle.new 80 0 0)).encode),
    (OptixOp.destroy, (Optix.DestroyRequest.mk (Handle.new 81 0 0)).encode),
    (OptixOp.pipelineCreate, (Optix.PipelineCreateRequest.mk (Handle.new 80 0 0)).encode),
    (OptixOp.destroy, (Optix.DestroyRequest.mk (Handle.new 80 0 0)).encode)]

theorem Reference.dangles {B : Type} [Backend B] [Described B] (R : Reference B)
    (is : List Input) (h q : Handle) (hrefers : R.Refers (stateAfter B is) h q)
    (hgone : (table (stateAfter B is) R.parent).isLive q = false) : ¬ NoDangling R := by
  intro hall
  have hlive := hall is h q hrefers
  rw [hgone] at hlive
  cases hlive

/-- A command buffer outlives its pool, a buffer its memory and a pipeline its context; the queue
still takes the command buffer. -/
theorem children_outlive_parents :
    ¬ NoDangling poolOf ∧ ¬ NoDangling memoryOf ∧ ¬ NoDangling contextOf ∧
      (step (stateAfter VulkanBackend poolDestroyed) (VkOp.queueSubmit,
        (QueueSubmitRequest.mk (Handle.new 4 0 0) (Handle.new 8 0 0)).encode)).1 = .ok [] := by
  refine ⟨?_, ?_, ?_, by decide +kernel⟩
  · have hpool : ((stateAfter VulkanBackend poolDestroyed).commandBuffers.get
        (Handle.new 8 0 0)).map (·.pool) = some (Handle.new 7 0 0) := by decide +kernel
    have hgone : (stateAfter VulkanBackend poolDestroyed).commandPools.isLive (Handle.new 7 0 0) =
        false := by decide +kernel
    obtain ⟨v, hv, hp⟩ := Option.map_eq_some_iff.mp hpool
    exact poolOf.dangles poolDestroyed _ _ ⟨v, hv, congrArg some hp⟩ hgone
  · have hmemory : ((stateAfter VulkanBackend memoryFreed).buffers.get (Handle.new 6 0 0)).map
        (·.bound.map Prod.fst) = some (some (Handle.new 5 0 0)) := by decide +kernel
    have hgone : (stateAfter VulkanBackend memoryFreed).memories.isLive (Handle.new 5 0 0) =
        false := by decide +kernel
    obtain ⟨v, hv, hm⟩ := Option.map_eq_some_iff.mp hmemory
    exact memoryOf.dangles memoryFreed _ _ ⟨v, hv, hm⟩ hgone
  · have hcontext : ((stateAfter OptixBackend contextDestroyed).pipelines.get
        (Handle.new 81 1 0)).map (·.context) = some (Handle.new 80 0 0) := by decide +kernel
    have hgone : (stateAfter OptixBackend contextDestroyed).contexts.isLive (Handle.new 80 0 0) =
        false := by decide +kernel
    obtain ⟨v, hv, hc⟩ := Option.map_eq_some_iff.mp hcontext
    exact contextOf.dangles contextDestroyed _ _ ⟨v, hv, congrArg some hc⟩ hgone

end Graftx.Server
