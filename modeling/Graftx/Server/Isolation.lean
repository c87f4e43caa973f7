import Graftx.Server.Vulkan
import Graftx.Server.Compute
import Graftx.Server.Media
import Graftx.Server.Optix
import Graftx.Server.History

/-! How far the backends keep object families apart. Tables resolve a handle by slot and
generation only, and every table counts its slots from zero, so a request respects handles
exactly when the kind bytes it carries happen to be the right ones. -/
namespace Graftx.Server
open Graftx.Protocol Graftx.Handles

/-- After the run `is` of the backend, the next request `i` respects handles exactly when its
kind bytes are right. -/
def Isolated (B : Type) [Backend B] [Described B] (is : List Input) (i : Input) : Prop :=
  Respects (logOf B is) (stateAfter B is) i ↔ KindsMatch (stateAfter B is) i

theorem handles_respected_iff_kinds_match (is : List Input) (i : Input) :
    Isolated VulkanBackend is i ∧ Isolated GlBackend is i ∧ Isolated CudaBackend is i ∧
      Isolated ClBackend is i ∧ Isolated HipBackend is i ∧ Isolated L0Backend is i ∧
      Isolated VideoBackend is i ∧ Isolated WebGpuBackend is i ∧ Isolated OptixBackend is i ∧
      Isolated SyclBackend is i ∧ Isolated AmfBackend is i :=
  ⟨respects_iff is i, respects_iff is i, respects_iff is i, respects_iff is i, respects_iff is i,
    respects_iff is i, respects_iff is i, respects_iff is i, respects_iff is i, respects_iff is i,
    respects_iff is i⟩

def memoryAndBuffer : List Input :=
  [(VkOp.createInstance, (Vk.CreateInstanceRequest.mk 0).encode),
    (VkOp.enumeratePhysicalDevices,
      (Vk.EnumeratePhysicalDevicesRequest.mk (Handle.new 1 0 0)).encode),
    (VkOp.createDevice, (Vk.CreateDeviceRequest.mk (Handle.new 2 0 0)).encode),
    (VkOp.allocateMemory, (Vk.AllocateMemoryRequest.mk (Handle.new 3 0 0) 64).encode),
    (VkOp.createBuffer, (Vk.CreateBufferRequest.mk (Handle.new 3 0 0) 64 0).encode)]

/-- A buffer handle sent to `FREE_MEMORY` frees the memory with the same slot. -/
theorem buffer_handle_frees_memory :
    ¬ ∀ (is : List Input) (i : Input),
      Respects (logOf VulkanBackend is) (stateAfter VulkanBackend is) i := by
  intro h
  have hok : (step (stateAfter VulkanBackend memoryAndBuffer)
      (VkOp.freeMemory, (Vk.FreeMemoryRequest.mk (Handle.new 6 0 0)).encode)).1 = .ok [] := by
    decide +kernel
  have ho := (h memoryAndBuffer
      (VkOp.freeMemory, (Vk.FreeMemoryRequest.mk (Handle.new 6 0 0)).encode)).1
    (.freeMemory ⟨Handle.new 6 0 0⟩) rfl ⟨[], hok⟩ (.deviceMemory, Handle.new 6 0 0)
    (List.mem_singleton.mpr rfl)
  have hk := kind_of_outstanding (B := VulkanBackend) memoryAndBuffer VkFamily.deviceMemory _ ho
  exact absurd hk (by decide)

end Graftx.Server
