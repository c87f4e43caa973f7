import Graftx.Server.Vulkan
import Graftx.Server.Compute
import Graftx.Server.Media
import Graftx.Server.Optix

/-! What a reply body looks like, opcode by opcode: nothing, one handle of a known kind, a
list of one such handle, or a number. -/
namespace Graftx.Server
open Lib.LittleEndian Graftx.Protocol Graftx.Handles

inductive Shape where
  | ack
  | handle (kind : UInt8)
  | handles (kind : UInt8)
  | word

def Shape.Fits : Shape → Bytes → Prop
  | .ack, reply => reply = []
  | .handle kind, reply => ∃ h : Handle, h.kind = kind ∧ reply = le64 h.raw
  | .handles kind, reply => ∃ h : Handle, h.kind = kind ∧
      reply = Vk.EnumeratePhysicalDevicesResponse.encode { devices := [h] }
  | .word, reply => ∃ n, reply = le32 n

theorem Shape.Fits.length_le {shape : Shape} {reply : Bytes} (h : shape.Fits reply) :
    reply.length ≤ 12 := by
  cases shape with
  | ack =>
    rw [h]
    exact Nat.zero_le _
  | handle kind =>
    obtain ⟨h, -, rfl⟩ := h
    simp [le64]
  | handles kind =>
    obtain ⟨h, -, rfl⟩ := h
    simp [Vk.EnumeratePhysicalDevicesResponse.encode, le32, le64]
  | word =>
    obtain ⟨n, rfl⟩ := h
    simp [le32]

def Replies {B : Type} (shape : Shape) (a : Answer B) : Prop :=
  ∀ reply, a.1 = .ok reply → shape.Fits reply

section Shapes
variable {B : Type} {shape : Shape}

theorem Replies.refuse (b : B) (opcode : UInt32) : Replies shape (refuse b opcode) := nofun

theorem Replies.guard {b : B} {opcode : UInt32} {c : Prop} [Decidable c] {a : Answer B}
    (h : Replies shape a) : Replies shape (if c then Server.refuse b opcode else a) := by
  split
  · exact .refuse b opcode
  · exact h

theorem Replies.acked (b : B) : Replies .ack (.ok [], b) := by
  rintro reply ⟨⟩
  rfl

variable [Tables B]

theorem Replies.create (b : B) (f : Family B) (state : Object f) (response : Handle → Bytes)
    (hr : ∀ h, h.kind = kind f → shape.Fits (response h)) :
    Replies shape (create b f state response) := by
  rintro reply ⟨⟩
  exact hr _ ((table b f).kind_insert (kind f) state)

theorem Replies.created (b : B) (f : Family B) (state : Object f) (response : Handle → Bytes)
    (hr : ∀ h, response h = le64 h.raw) :
    Replies (.handle (kind f)) (Server.create b f state response) :=
  .create b f state response fun h hk => ⟨h, hk, hr h⟩

theorem Replies.destroy (b : B) (opcode : UInt32) (f : Family B) (h : Handle) :
    Replies .ack (destroy b opcode f h) := by
  intro reply hok
  rw [Server.destroy] at hok
  split at hok
  · cases hok
  · cases hok
    rfl

theorem Replies.update (b : B) (opcode : UInt32) (f : Family B) (h : Handle)
    (change : Object f → Option (Object f × Bytes))
    (hr : ∀ old new reply, change old = some (new, reply) → shape.Fits reply) :
    Replies shape (update b opcode f h change) := by
  intro reply hok
  rw [Server.update] at hok
  split at hok
  · cases hok
  · split at hok
    · cases hok
    · rename_i hc
      cases hok
      exact hr _ _ _ hc

end Shapes

/-- A backend whose replies have a shape known from the request alone. -/
class Shaped (B : Type) [Backend B] where
  shape : Request B → Shape
  replies : ∀ (b : B) (opcode : UInt32) (r : Request B), Replies (shape r) (exec b opcode r)

export Shaped (shape replies)

def VkRequest.shape : VkRequest → Shape
  | .createInstance _ => .handle VkFamily.inst.kind
  | .enumeratePhysicalDevices _ => .handles VkFamily.physicalDevice.kind
  | .createDevice _ => .handle VkFamily.device.kind
  | .getDeviceQueue _ => .handle VkFamily.queue.kind
  | .allocateMemory _ => .handle VkFamily.deviceMemory.kind
  | .createBuffer _ => .handle VkFamily.buffer.kind
  | .createCommandPool _ => .handle VkFamily.commandPool.kind
  | .allocateCommandBuffer _ => .handle VkFamily.commandBuffer.kind
  | _ => .ack

theorem BufferState.bind_reply (state new : BufferState) (memory : Handle) (offset : UInt64)
    (reply : Bytes) (h : state.bind memory offset = some (new, reply)) : reply = [] := by
  rw [BufferState.bind] at h
  split at h <;> cases h
  rfl

theorem CommandBufferState.record_reply (state new : CommandBufferState) (reply : Bytes)
    (h : state.record = some (new, reply)) : reply = [] := by
  cases h
  rfl

instance : Shaped VulkanBackend where
  shape := VkRequest.shape
  replies b opcode r := by
    cases r with
    | createInstance req => exact .created b VkFamily.inst _ _ fun _ => rfl
    | enumeratePhysicalDevices req =>
      exact .guard (.create b VkFamily.physicalDevice _ _ fun h hk => ⟨h, hk, rfl⟩)
    | createDevice req => exact .guard (.created b VkFamily.device _ _ fun _ => rfl)
    | getDeviceQueue req => exact .guard (.created b VkFamily.queue _ _ fun _ => rfl)
    | allocateMemory req => exact .guard (.created b VkFamily.deviceMemory _ _ fun _ => rfl)
    | createBuffer req => exact .guard (.created b VkFamily.buffer _ _ fun _ => rfl)
    | bindBufferMemory req =>
      exact .guard (.update b _ _ _ _ fun old new _ => old.bind_reply new _ _ _)
    | createCommandPool req => exact .guard (.created b VkFamily.commandPool _ _ fun _ => rfl)
    | allocateCommandBuffer req =>
      exact .guard (.created b VkFamily.commandBuffer _ _ fun _ => rfl)
    | queueSubmit req => exact .guard (.acked b)
    | cmdCopyBuffer req => exact .guard (.update b _ _ _ _ fun old new _ => old.record_reply new _)
    | cmdDraw req => exact .update b _ _ _ _ fun old new _ => old.record_reply new _
    | destroyBuffer req => exact .destroy b _ _ _
    | freeMemory req => exact .destroy b _ _ _
    | destroyCommandPool req => exact .destroy b _ _ _

def GlRequest.shape : GlRequest → Shape
  | .createContext => .handle GlFamily.context.kind
  | .genBuffer _ => .handle GlFamily.buffer.kind
  | _ => .ack

instance : Shaped GlBackend where
  shape := GlRequest.shape
  replies b opcode r := by
    cases r with
    | createContext => exact .created b GlFamily.context _ _ fun _ => rfl
    | makeCurrent req => exact .guard (.acked b)
    | genBuffer req => exact .guard (.created b GlFamily.buffer _ _ fun _ => rfl)
    | swapBuffers req => exact .guard (.acked b)
    | deleteBuffer req => exact .destroy b _ _ _

def CudaRequest.shape : CudaRequest → Shape
  | .ctxCreate _ => .handle CudaFamily.context.kind
  | .memAlloc _ => .handle CudaFamily.devicePtr.kind
  | .memFree _ => .ack

instance : Shaped CudaBackend where
  shape := CudaRequest.shape
  replies b opcode r := by
    cases r with
    | ctxCreate req => exact .created b CudaFamily.context _ _ fun _ => rfl
    | memAlloc req => exact .guard (.created b CudaFamily.devicePtr _ _ fun _ => rfl)
    | memFree req => exact .destroy b _ _ _

def ClRequest.shape : ClRequest → Shape
  | .createContext => .handle ClFamily.context.kind
  | .createBuffer _ => .handle ClFamily.mem.kind
  | .releaseBuffer _ => .ack

instance : Shaped ClBackend where
  shape := ClRequest.shape
  replies b opcode r := by
    cases r with
    | createContext => exact .created b ClFamily.context _ _ fun _ => rfl
    | createBuffer req => exact .guard (.created b ClFamily.mem _ _ fun _ => rfl)
    | releaseBuffer req => exact .destroy b _ _ _

def HipRequest.shape : HipRequest → Shape
  | .malloc _ => .handle HipFamily.devicePtr.kind
  | .free _ => .ack
  | .streamCreate => .handle HipFamily.stream.kind

instance : Shaped HipBackend where
  shape := HipRequest.shape
  replies b opcode r := by
    cases r with
    | malloc req => exact .created b HipFamily.devicePtr _ _ fun _ => rfl
    | free req => exact .destroy b _ _ _
    | streamCreate => exact .created b HipFamily.stream _ _ fun _ => rfl

def L0Request.shape : L0Request → Shape
  | .contextCreate => .handle L0Family.context.kind
  | .memAllocDevice _ => .handle L0Family.deviceMem.kind
  | .memFree _ => .ack

instance : Shaped L0Backend where
  shape := L0Request.shape
  replies b opcode r := by
    cases r with
    | contextCreate => exact .created b L0Family.context _ _ fun _ => rfl
    | memAllocDevice req => exact .guard (.created b L0Family.deviceMem _ _ fun _ => rfl)
    | memFree req => exact .destroy b _ _ _

def VideoRequest.shape : VideoRequest → Shape
  | .createDecodeSession _ => .handle VideoFamily.session.kind
  | .decodeFrame _ => .word
  | .destroySession _ => .ack

instance : Shaped VideoBackend where
  shape := VideoRequest.shape
  replies b opcode r := by
    cases r with
    | createDecodeSession req => exact .created b VideoFamily.session _ _ fun _ => rfl
    | decodeFrame req =>
      refine .update b _ _ _ _ fun old new reply h => ?_
      cases h
      exact ⟨old.frames, rfl⟩
    | destroySession req => exact .destroy b _ _ _

def WgpuRequest.shape : WgpuRequest → Shape
  | .requestDevice => .handle WgpuFamily.device.kind
  | .createBuffer _ => .handle WgpuFamily.buffer.kind
  | .destroyBuffer _ => .ack

instance : Shaped WebGpuBackend where
  shape := WgpuRequest.shape
  replies b opcode r := by
    cases r with
    | requestDevice => exact .created b WgpuFamily.device _ _ fun _ => rfl
    | createBuffer req => exact .guard (.created b WgpuFamily.buffer _ _ fun _ => rfl)
    | destroyBuffer req => exact .destroy b _ _ _

def OptixRequest.shape : OptixRequest → Shape
  | .contextCreate => .handle OptixFamily.context.kind
  | .pipelineCreate _ => .handle OptixFamily.pipeline.kind
  | .destroy _ => .ack

instance : Shaped OptixBackend where
  shape := OptixRequest.shape
  replies b opcode r := by
    cases r with
    | contextCreate => exact .created b OptixFamily.context _ _ fun _ => rfl
    | pipelineCreate req => exact .guard (.created b OptixFamily.pipeline _ _ fun _ => rfl)
    | destroy req =>
      change Replies _ (b.exec opcode (.destroy req))
      rw [b.exec_destroy]
      exact .destroy b _ _ _

def SyclRequest.shape : SyclRequest → Shape
  | .queueCreate => .handle SyclFamily.queue.kind
  | .mallocDevice _ => .handle SyclFamily.devicePtr.kind
  | .free _ => .ack

instance : Shaped SyclBackend where
  shape := SyclRequest.shape
  replies b opcode r := by
    cases r with
    | queueCreate => exact .created b SyclFamily.queue _ _ fun _ => rfl
    | mallocDevice req => exact .guard (.created b SyclFamily.devicePtr _ _ fun _ => rfl)
    | free req => exact .destroy b _ _ _

def AmfRequest.shape : AmfRequest → Shape
  | .createEncoder _ => .handle AmfFamily.encoder.kind
  | .encodeFrame _ => .word
  | .destroyEncoder _ => .ack

instance : Shaped AmfBackend where
  shape := AmfRequest.shape
  replies b opcode r := by
    cases r with
    | createEncoder req => exact .created b AmfFamily.encoder _ _ fun _ => rfl
    | encodeFrame req =>
      refine .update b _ _ _ _ fun old new reply h => ?_
      cases h
      exact ⟨req.frameLen, rfl⟩
    | destroyEncoder req => exact .destroy b _ _ _

theorem handle_fits {B : Type} [Backend B] [Shaped B] (b : B) (opcode : UInt32) (body : Bytes)
    (reply : Bytes) (h : (handle b opcode body).1 = .ok reply) :
    ∃ r, request B opcode body = .ok r ∧ (shape r).Fits reply := by
  cases hr : request B opcode body with
  | error e =>
    rw [handle_of_request_error b _ _ e hr] at h
    cases h
  | ok r =>
    rw [handle_of_request_ok b _ _ r hr] at h
    exact ⟨r, rfl, replies b opcode r reply h⟩

end Graftx.Server
