import Graftx.Client.Shims
import Graftx.Server.Replies
import Graftx.Server.Requests

/-! Every call the client can make, with what its shim takes for an answer: the shims are
listed by the requests they send. -/
namespace Graftx.Client
open Graftx.Protocol Graftx.Server
variable {T : Type} [Transport T]

def Value : Shape → Type
  | .ack => Unit
  | .handle _ => Handle
  | .handles _ => List Handle
  | .word => UInt32

/-- The shims of one API, and how each reads the body of its reply. -/
class Shimmed (B : Type) [Backend B] [Shaped B] [Wired B] where
  shim {T : Type} [Transport T] (r : Request B) (reqId : UInt32) (seq : UInt64) :
    Call T (Value (shape r))
  read (r : Request B) : Bytes → Except ClientError (Value (shape r))
  shim_eq {T : Type} [Transport T] (r : Request B) (reqId : UInt32) (seq : UInt64) :
    (shim r reqId seq : Call T (Value (shape r))) =
      call (toWire r).1 (toWire r).2 (read r) reqId seq

def Vk.shim : (r : VkRequest) → UInt32 → UInt64 → Call T (Value r.shape)
  | .createInstance r => createInstance r.appApiVersion
  | .enumeratePhysicalDevices r => enumeratePhysicalDevices r.inst
  | .createDevice r => createDevice r.physicalDevice
  | .getDeviceQueue r => getDeviceQueue r.device r.queueFamilyIndex r.queueIndex
  | .allocateMemory r => allocateMemory r.device r.size
  | .createBuffer r => createBuffer r.device r.size r.usage
  | .bindBufferMemory r => bindBufferMemory r.buffer r.memory r.offset
  | .createCommandPool r => createCommandPool r.device r.queueFamilyIndex
  | .allocateCommandBuffer r => allocateCommandBuffer r.pool
  | .queueSubmit r => queueSubmit r.queue r.commandBuffer
  | .cmdCopyBuffer r => cmdCopyBuffer r.commandBuffer r.src r.dst r.size
  | .cmdDraw r => cmdDraw r.commandBuffer r.vertexCount r.instanceCount
  | .destroyBuffer r => destroyBuffer r.buffer
  | .freeMemory r => freeMemory r.memory
  | .destroyCommandPool r => destroyCommandPool r.pool

def Vk.read : (r : VkRequest) → Bytes → Except ClientError (Value r.shape)
  | .createInstance _ => readHandle Vk.CreateInstanceResponse.decode (·.inst) kindInstance
  | .enumeratePhysicalDevices _ => readHandles kindPhysicalDevice
  | .createDevice _ => readHandle Vk.CreateDeviceResponse.decode (·.device) kindDevice
  | .getDeviceQueue _ => readHandle Vk.GetDeviceQueueResponse.decode (·.queue) kindQueue
  | .allocateMemory _ => readHandle Vk.AllocateMemoryResponse.decode (·.memory) kindDeviceMemory
  | .createBuffer _ => readHandle Vk.CreateBufferResponse.decode (·.buffer) kindBuffer
  | .bindBufferMemory _ => readAck
  | .createCommandPool _ => readHandle Vk.CreateCommandPoolResponse.decode (·.pool) kindCommandPool
  | .allocateCommandBuffer _ =>
    readHandle Vk.AllocateCommandBufferResponse.decode (·.commandBuffer) kindCommandBuffer
  | .queueSubmit _ => readAck
  | .cmdCopyBuffer _ => readAck
  | .cmdDraw _ => readAck
  | .destroyBuffer _ => readAck
  | .freeMemory _ => readAck
  | .destroyCommandPool _ => readAck

instance : Shimmed VulkanBackend where
  shim := Vk.shim
  read := Vk.read
  shim_eq r _ _ := by cases r <;> rfl

def Gl.shim : (r : GlRequest) → UInt32 → UInt64 → Call T (Value r.shape)
  | .createContext => createContext
  | .makeCurrent r => makeCurrent r.context
  | .genBuffer r => genBuffer r.context
  | .swapBuffers r => swapBuffers r.context
  | .deleteBuffer r => deleteBuffer r.buffer

def Gl.read : (r : GlRequest) → Bytes → Except ClientError (Value r.shape)
  | .createContext => readHandle Gl.CreateContextResponse.decode (·.context) kindGlContext
  | .makeCurrent _ => readAck
  | .genBuffer _ => readHandle Gl.GenBufferResponse.decode (·.buffer) kindGlBuffer
  | .swapBuffers _ => readAck
  | .deleteBuffer _ => readAck

instance : Shimmed GlBackend where
  shim := Gl.shim
  read := Gl.read
  shim_eq r _ _ := by cases r <;> rfl

def Cuda.shim : (r : CudaRequest) → UInt32 → UInt64 → Call T (Value r.shape)
  | .ctxCreate r => ctxCreate r.deviceOrdinal
  | .memAlloc r => memAlloc r.context r.size
  | .memFree r => memFree r.dptr

def Cuda.read : (r : CudaRequest) → Bytes → Except ClientError (Value r.shape)
  | .ctxCreate _ => readHandle Cuda.CtxCreateResponse.decode (·.context) kindCudaContext
  | .memAlloc _ => readHandle Cuda.MemAllocResponse.decode (·.dptr) kindCudaDevicePtr
  | .memFree _ => readAck

instance : Shimmed CudaBackend where
  shim := Cuda.shim
  read := Cuda.read
  shim_eq r _ _ := by cases r <;> rfl

def Cl.shim : (r : ClRequest) → UInt32 → UInt64 → Call T (Value r.shape)
  | .createContext => createContext
  | .createBuffer r => createBuffer r.context r.size
  | .releaseBuffer r => releaseBuffer r.mem

def Cl.read : (r : ClRequest) → Bytes → Except ClientError (Value r.shape)
  | .createContext => readHandle Cl.CreateContextResponse.decode (·.context) kindClContext
  | .createBuffer _ => readHandle Cl.CreateBufferResponse.decode (·.mem) kindClMem
  | .releaseBuffer _ => readAck

instance : Shimmed ClBackend where
  shim := Cl.shim
  read := Cl.read
  shim_eq r _ _ := by cases r <;> rfl

def Hip.shim : (r : HipRequest) → UInt32 → UInt64 → Call T (Value r.shape)
  | .malloc r => malloc r.size
  | .free r => free r.dptr
  | .streamCreate => streamCreate

def Hip.read : (r : HipRequest) → Bytes → Except ClientError (Value r.shape)
  | .malloc _ => readHandle Hip.MallocResponse.decode (·.dptr) kindHipDevicePtr
  | .free _ => readAck
  | .streamCreate => readHandle Hip.StreamCreateResponse.decode (·.stream) kindHipStream

instance : Shimmed HipBackend where
  shim := Hip.shim
  read := Hip.read
  shim_eq r _ _ := by cases r <;> rfl

def L0.shim : (r : L0Request) → UInt32 → UInt64 → Call T (Value r.shape)
  | .contextCreate => contextCreate
  | .memAllocDevice r => memAllocDevice r.context r.size
  | .memFree r => memFree r.ptr

def L0.read : (r : L0Request) → Bytes → Except ClientError (Value r.shape)
  | .contextCreate => readHandle L0.ContextCreateResponse.decode (·.context) kindContext
  | .memAllocDevice _ => readHandle L0.MemAllocDeviceResponse.decode (·.ptr) kindDeviceMem
  | .memFree _ => readAck

instance : Shimmed L0Backend where
  shim := L0.shim
  read := L0.read
  shim_eq r _ _ := by cases r <;> rfl

def Video.shim : (r : VideoRequest) → UInt32 → UInt64 → Call T (Value r.shape)
  | .createDecodeSession r => createDecodeSession r.codec r.width r.height
  | .decodeFrame r => decodeFrame r.session r.bitstreamLen
  | .destroySession r => destroySession r.session

def Video.read : (r : VideoRequest) → Bytes → Except ClientError (Value r.shape)
  | .createDecodeSession _ =>
    readHandle Video.CreateDecodeSessionResponse.decode (·.session) kindVideoSession
  | .decodeFrame _ => readWord Video.DecodeFrameResponse.decode (·.frameIndex)
  | .destroySession _ => readAck

instance : Shimmed VideoBackend where
  shim := Video.shim
  read := Video.read
  shim_eq r _ _ := by cases r <;> rfl

def Wgpu.shim : (r : WgpuRequest) → UInt32 → UInt64 → Call T (Value r.shape)
  | .requestDevice => requestDevice
  | .createBuffer r => createBuffer r.device r.size r.usage
  | .destroyBuffer r => destroyBuffer r.buffer

def Wgpu.read : (r : WgpuRequest) → Bytes → Except ClientError (Value r.shape)
  | .requestDevice => readHandle Wgpu.RequestDeviceResponse.decode (·.device) kindWgpuDevice
  | .createBuffer _ => readHandle Wgpu.CreateBufferResponse.decode (·.buffer) kindWgpuBuffer
  | .destroyBuffer _ => readAck

instance : Shimmed WebGpuBackend where
  shim := Wgpu.shim
  read := Wgpu.read
  shim_eq r _ _ := by cases r <;> rfl

def Optix.shim : (r : OptixRequest) → UInt32 → UInt64 → Call T (Value r.shape)
  | .contextCreate => contextCreate
  | .pipelineCreate r => pipelineCreate r.context
  | .destroy r => destroy r.handle

def Optix.read : (r : OptixRequest) → Bytes → Except ClientError (Value r.shape)
  | .contextCreate => readHandle Optix.ContextCreateResponse.decode (·.context) kindOptixContext
  | .pipelineCreate _ =>
    readHandle Optix.PipelineCreateResponse.decode (·.pipeline) kindOptixPipeline
  | .destroy _ => readAck

instance : Shimmed OptixBackend where
  shim := Optix.shim
  read := Optix.read
  shim_eq r _ _ := by cases r <;> rfl

def Sycl.shim : (r : SyclRequest) → UInt32 → UInt64 → Call T (Value r.shape)
  | .queueCreate => queueCreate
  | .mallocDevice r => mallocDevice r.queue r.size
  | .free r => free r.ptr

def Sycl.read : (r : SyclRequest) → Bytes → Except ClientError (Value r.shape)
  | .queueCreate => readHandle Sycl.QueueCreateResponse.decode (·.queue) kindSyclQueue
  | .mallocDevice _ => readHandle Sycl.MallocDeviceResponse.decode (·.ptr) kindSyclDevicePtr
  | .free _ => readAck

instance : Shimmed SyclBackend where
  shim := Sycl.shim
  read := Sycl.read
  shim_eq r _ _ := by cases r <;> rfl

def Amf.shim : (r : AmfRequest) → UInt32 → UInt64 → Call T (Value r.shape)
  | .createEncoder r => createEncoder r.codec r.width r.height
  | .encodeFrame r => encodeFrame r.encoder r.frameLen
  | .destroyEncoder r => destroyEncoder r.encoder

def Amf.read : (r : AmfRequest) → Bytes → Except ClientError (Value r.shape)
  | .createEncoder _ => readHandle Amf.CreateEncoderResponse.decode (·.encoder) kindAmfEncoder
  | .encodeFrame _ => readWord Amf.EncodeFrameResponse.decode (·.packetLen)
  | .destroyEncoder _ => readAck

instance : Shimmed AmfBackend where
  shim := Amf.shim
  read := Amf.read
  shim_eq r _ _ := by cases r <;> rfl

end Graftx.Client
