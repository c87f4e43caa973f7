import Graftx.Server.Vulkan
import Graftx.Server.Compute
import Graftx.Server.Media
import Graftx.Server.Optix

/-! Every request a backend knows, as opcode and body, and that the backend reads each of
them back as it was meant. -/
namespace Graftx.Server
open Graftx.Protocol

class Wired (B : Type) [Backend B] where
  toWire : Request B → UInt32 × Bytes
  own_namespace : ∀ r, opcodeApi (toWire r).1 = (api B).byte
  decode_toWire : ∀ r, Backend.decode (toWire r).1 (toWire r).2 = .ok r

export Wired (toWire)

theorem request_toWire {B : Type} [Backend B] [Wired B] (r : Request B) :
    request B (toWire r).1 (toWire r).2 = .ok r := by
  rw [request, if_neg (not_not.mpr (Wired.own_namespace r)), Wired.decode_toWire]

def VkRequest.toWire : VkRequest → UInt32 × Bytes
  | .createInstance req => (VkOp.createInstance, req.encode)
  | .enumeratePhysicalDevices req => (VkOp.enumeratePhysicalDevices, req.encode)
  | .createDevice req => (VkOp.createDevice, req.encode)
  | .getDeviceQueue req => (VkOp.getDeviceQueue, req.encode)
  | .allocateMemory req => (VkOp.allocateMemory, req.encode)
  | .createBuffer req => (VkOp.createBuffer, req.encode)
  | .bindBufferMemory req => (VkOp.bindBufferMemory, req.encode)
  | .createCommandPool req => (VkOp.createCommandPool, req.encode)
  | .allocateCommandBuffer req => (VkOp.allocateCommandBuffer, req.encode)
  | .queueSubmit req => (VkOp.queueSubmit, req.encode)
  | .cmdCopyBuffer req => (VkOp.cmdCopyBuffer, req.encode)
  | .cmdDraw req => (VkOp.cmdDraw, req.encode)
  | .destroyBuffer req => (VkOp.destroyBuffer, req.encode)
  | .freeMemory req => (VkOp.freeMemory, req.encode)
  | .destroyCommandPool req => (VkOp.destroyCommandPool, req.encode)

theorem VkRequest.decode_toWire (r : VkRequest) : decode r.toWire.1 r.toWire.2 = .ok r := by
  cases r with
  | createInstance req => simp +decide [decode, toWire, Vk.CreateInstanceRequest.decode_exact.self]
  | enumeratePhysicalDevices req =>
    simp +decide [decode, toWire, Vk.EnumeratePhysicalDevicesRequest.decode_exact.self]
  | createDevice req => simp +decide [decode, toWire, Vk.CreateDeviceRequest.decode_exact.self]
  | getDeviceQueue req => simp +decide [decode, toWire, Vk.GetDeviceQueueRequest.decode_exact.self]
  | allocateMemory req => simp +decide [decode, toWire, Vk.AllocateMemoryRequest.decode_exact.self]
  | createBuffer req => simp +decide [decode, toWire, Vk.CreateBufferRequest.decode_exact.self]
  | bindBufferMemory req =>
    simp +decide [decode, toWire, Vk.BindBufferMemoryRequest.decode_exact.self]
  | createCommandPool req =>
    simp +decide [decode, toWire, Vk.CreateCommandPoolRequest.decode_exact.self]
  | allocateCommandBuffer req =>
    simp +decide [decode, toWire, Vk.AllocateCommandBufferRequest.decode_exact.self]
  | queueSubmit req => simp +decide [decode, toWire, Vk.QueueSubmitRequest.decode_exact.self]
  | cmdCopyBuffer req => simp +decide [decode, toWire, Vk.CmdCopyBufferRequest.decode_exact.self]
  | cmdDraw req => simp +decide [decode, toWire, Vk.CmdDrawRequest.decode_exact.self]
  | destroyBuffer req => simp +decide [decode, toWire, Vk.DestroyBufferRequest.decode_exact.self]
  | freeMemory req => simp +decide [decode, toWire, Vk.FreeMemoryRequest.decode_exact.self]
  | destroyCommandPool req =>
    simp +decide [decode, toWire, Vk.DestroyCommandPoolRequest.decode_exact.self]

instance : Wired VulkanBackend where
  toWire := VkRequest.toWire
  own_namespace r := by cases r <;> simp only [VkRequest.toWire] <;> decide
  decode_toWire := VkRequest.decode_toWire

def GlRequest.toWire : GlRequest → UInt32 × Bytes
  | .createContext => (GlOp.createContext, [])
  | .makeCurrent req => (GlOp.makeCurrent, req.encode)
  | .genBuffer req => (GlOp.genBuffer, req.encode)
  | .swapBuffers req => (GlOp.swapBuffers, req.encode)
  | .deleteBuffer req => (GlOp.deleteBuffer, req.encode)

theorem GlRequest.decode_toWire (r : GlRequest) : decode r.toWire.1 r.toWire.2 = .ok r := by
  cases r with
  | createContext => rfl
  | makeCurrent req => simp +decide [decode, toWire, Gl.MakeCurrentRequest.decode_exact.self]
  | genBuffer req => simp +decide [decode, toWire, Gl.GenBufferRequest.decode_exact.self]
  | swapBuffers req => simp +decide [decode, toWire, Gl.SwapBuffersRequest.decode_exact.self]
  | deleteBuffer req => simp +decide [decode, toWire, Gl.DeleteBufferRequest.decode_exact.self]

instance : Wired GlBackend where
  toWire := GlRequest.toWire
  own_namespace r := by cases r <;> simp only [GlRequest.toWire] <;> decide
  decode_toWire := GlRequest.decode_toWire

def CudaRequest.toWire : CudaRequest → UInt32 × Bytes
  | .ctxCreate req => (CudaOp.ctxCreate, req.encode)
  | .memAlloc req => (CudaOp.memAlloc, req.encode)
  | .memFree req => (CudaOp.memFree, req.encode)

theorem CudaRequest.decode_toWire (r : CudaRequest) : decode r.toWire.1 r.toWire.2 = .ok r := by
  cases r with
  | ctxCreate req => simp +decide [decode, toWire, Cuda.CtxCreateRequest.decode_exact.self]
  | memAlloc req => simp +decide [decode, toWire, Cuda.MemAllocRequest.decode_exact.self]
  | memFree req => simp +decide [decode, toWire, Cuda.MemFreeRequest.decode_exact.self]

instance : Wired CudaBackend where
  toWire := CudaRequest.toWire
  own_namespace r := by cases r <;> simp only [CudaRequest.toWire] <;> decide
  decode_toWire := CudaRequest.decode_toWire

def ClRequest.toWire : ClRequest → UInt32 × Bytes
  | .createContext => (ClOp.createContext, [])
  | .createBuffer req => (ClOp.createBuffer, req.encode)
  | .releaseBuffer req => (ClOp.releaseBuffer, req.encode)

theorem ClRequest.decode_toWire (r : ClRequest) : decode r.toWire.1 r.toWire.2 = .ok r := by
  cases r with
  | createContext => rfl
  | createBuffer req => simp +decide [decode, toWire, Cl.CreateBufferRequest.decode_exact.self]
  | releaseBuffer req => simp +decide [decode, toWire, Cl.ReleaseBufferRequest.decode_exact.self]

instance : Wired ClBackend where
  toWire := ClRequest.toWire
  own_namespace r := by cases r <;> simp only [ClRequest.toWire] <;> decide
  decode_toWire := ClRequest.decode_toWire

def HipRequest.toWire : HipRequest → UInt32 × Bytes
  | .malloc req => (HipOp.malloc, req.encode)
  | .free req => (HipOp.free, req.encode)
  | .streamCreate => (HipOp.streamCreate, [])

theorem HipRequest.decode_toWire (r : HipRequest) : decode r.toWire.1 r.toWire.2 = .ok r := by
  cases r with
  | malloc req => simp +decide [decode, toWire, Hip.MallocRequest.decode_exact.self]
  | free req => simp +decide [decode, toWire, Hip.FreeRequest.decode_exact.self]
  | streamCreate => rfl

instance : Wired HipBackend where
  toWire := HipRequest.toWire
  own_namespace r := by cases r <;> simp only [HipRequest.toWire] <;> decide
  decode_toWire := HipRequest.decode_toWire

def L0Request.toWire : L0Request → UInt32 × Bytes
  | .contextCreate => (L0Op.contextCreate, [])
  | .memAllocDevice req => (L0Op.memAllocDevice, req.encode)
  | .memFree req => (L0Op.memFree, req.encode)

theorem L0Request.decode_toWire (r : L0Request) : decode r.toWire.1 r.toWire.2 = .ok r := by
  cases r with
  | contextCreate => rfl
  | memAllocDevice req => simp +decide [decode, toWire, L0.MemAllocDeviceRequest.decode_exact.self]
  | memFree req => simp +decide [decode, toWire, L0.MemFreeRequest.decode_exact.self]

instance : Wired L0Backend where
  toWire := L0Request.toWire
  own_namespace r := by cases r <;> simp only [L0Request.toWire] <;> decide
  decode_toWire := L0Request.decode_toWire

def VideoRequest.toWire : VideoRequest → UInt32 × Bytes
  | .createDecodeSession req => (VideoOp.createDecodeSession, req.encode)
  | .decodeFrame req => (VideoOp.decodeFrame, req.encode)
  | .destroySession req => (VideoOp.destroySession, req.encode)

theorem VideoRequest.decode_toWire (r : VideoRequest) : decode r.toWire.1 r.toWire.2 = .ok r := by
  cases r with
  | createDecodeSession req =>
    simp +decide [decode, toWire, Video.CreateDecodeSessionRequest.decode_exact.self]
  | decodeFrame req => simp +decide [decode, toWire, Video.DecodeFrameRequest.decode_exact.self]
  | destroySession req =>
    simp +decide [decode, toWire, Video.DestroySessionRequest.decode_exact.self]

instance : Wired VideoBackend where
  toWire := VideoRequest.toWire
  own_namespace r := by cases r <;> simp only [VideoRequest.toWire] <;> decide
  decode_toWire := VideoRequest.decode_toWire

def WgpuRequest.toWire : WgpuRequest → UInt32 × Bytes
  | .requestDevice => (WgpuOp.requestDevice, [])
  | .createBuffer req => (WgpuOp.createBuffer, req.encode)
  | .destroyBuffer req => (WgpuOp.destroyBuffer, req.encode)

theorem WgpuRequest.decode_toWire (r : WgpuRequest) : decode r.toWire.1 r.toWire.2 = .ok r := by
  cases r with
  | requestDevice => rfl
  | createBuffer req => simp +decide [decode, toWire, Wgpu.CreateBufferRequest.decode_exact.self]
  | destroyBuffer req => simp +decide [decode, toWire, Wgpu.DestroyBufferRequest.decode_exact.self]

instance : Wired WebGpuBackend where
  toWire := WgpuRequest.toWire
  own_namespace r := by cases r <;> simp only [WgpuRequest.toWire] <;> decide
  decode_toWire := WgpuRequest.decode_toWire

def OptixRequest.toWire : OptixRequest → UInt32 × Bytes
  | .contextCreate => (OptixOp.contextCreate, [])
  | .pipelineCreate req => (OptixOp.pipelineCreate, req.encode)
  | .destroy req => (OptixOp.destroy, req.encode)

theorem OptixRequest.decode_toWire (r : OptixRequest) : decode r.toWire.1 r.toWire.2 = .ok r := by
  cases r with
  | contextCreate => rfl
  | pipelineCreate req =>
    simp +decide [decode, toWire, Optix.PipelineCreateRequest.decode_exact.self]
  | destroy req => simp +decide [decode, toWire, Optix.DestroyRequest.decode_exact.self]

instance : Wired OptixBackend where
  toWire := OptixRequest.toWire
  own_namespace r := by cases r <;> simp only [OptixRequest.toWire] <;> decide
  decode_toWire := OptixRequest.decode_toWire

def SyclRequest.toWire : SyclRequest → UInt32 × Bytes
  | .queueCreate => (SyclOp.queueCreate, [])
  | .mallocDevice req => (SyclOp.mallocDevice, req.encode)
  | .free req => (SyclOp.free, req.encode)

theorem SyclRequest.decode_toWire (r : SyclRequest) : decode r.toWire.1 r.toWire.2 = .ok r := by
  cases r with
  | queueCreate => rfl
  | mallocDevice req => simp +decide [decode, toWire, Sycl.MallocDeviceRequest.decode_exact.self]
  | free req => simp +decide [decode, toWire, Sycl.FreeRequest.decode_exact.self]

instance : Wired SyclBackend where
  toWire := SyclRequest.toWire
  own_namespace r := by cases r <;> simp only [SyclRequest.toWire] <;> decide
  decode_toWire := SyclRequest.decode_toWire

def AmfRequest.toWire : AmfRequest → UInt32 × Bytes
  | .createEncoder req => (AmfOp.createEncoder, req.encode)
  | .encodeFrame req => (AmfOp.encodeFrame, req.encode)
  | .destroyEncoder req => (AmfOp.destroyEncoder, req.encode)

theorem AmfRequest.decode_toWire (r : AmfRequest) : decode r.toWire.1 r.toWire.2 = .ok r := by
  cases r with
  | createEncoder req => simp +decide [decode, toWire, Amf.CreateEncoderRequest.decode_exact.self]
  | encodeFrame req => simp +decide [decode, toWire, Amf.EncodeFrameRequest.decode_exact.self]
  | destroyEncoder req =>
    simp +decide [decode, toWire, Amf.DestroyEncoderRequest.decode_exact.self]

instance : Wired AmfBackend where
  toWire := AmfRequest.toWire
  own_namespace r := by cases r <;> simp only [AmfRequest.toWire] <;> decide
  decode_toWire := AmfRequest.decode_toWire

end Graftx.Server
