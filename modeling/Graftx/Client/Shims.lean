import Graftx.Client.Call
import Graftx.Protocol.Apis

/-! The client shims, API by API. Each is one `exchange`; the kind constants are the
client's own, written down apart from the server's. -/
namespace Graftx.Client
open Graftx.Protocol
variable {T : Type} [Transport T]

/-- What this client proposes when it opens a session. -/
def hello : Hello where
  protoMajor := protocolMajor
  protoMinor := protocolMinor
  features := 0
  maxFrameBody := defaultMaxFrameBody

def handshake : Call T Welcome :=
  exchange CoreOp.hello CoreOp.welcome hello.encode (fun b => fromProtocol (Welcome.decode b)) 1 1

def noop (reqId : UInt32) (seq : UInt64) : Call T Unit :=
  call CoreOp.noop [] readAck reqId seq

namespace Vk

def kindInstance : UInt8 := 1
def kindPhysicalDevice : UInt8 := 2
def kindDevice : UInt8 := 3
def kindQueue : UInt8 := 4
def kindDeviceMemory : UInt8 := 5
def kindBuffer : UInt8 := 6
def kindCommandPool : UInt8 := 7
def kindCommandBuffer : UInt8 := 8

def createInstance (appApiVersion : UInt32) (reqId : UInt32) (seq : UInt64) : Call T Handle :=
  call VkOp.createInstance (Vk.CreateInstanceRequest.encode { appApiVersion })
    (readHandle Vk.CreateInstanceResponse.decode (·.inst) kindInstance) reqId seq

def enumeratePhysicalDevices (inst : Handle) (reqId : UInt32)
    (seq : UInt64) : Call T (List Handle) :=
  call VkOp.enumeratePhysicalDevices (Vk.EnumeratePhysicalDevicesRequest.encode { inst })
    (readHandles kindPhysicalDevice) reqId seq

def createDevice (physicalDevice : Handle) (reqId : UInt32) (seq : UInt64) : Call T Handle :=
  call VkOp.createDevice (Vk.CreateDeviceRequest.encode { physicalDevice })
    (readHandle Vk.CreateDeviceResponse.decode (·.device) kindDevice) reqId seq

def getDeviceQueue (device : Handle) (queueFamilyIndex queueIndex : UInt32) (reqId : UInt32)
    (seq : UInt64) : Call T Handle :=
  call VkOp.getDeviceQueue
    (Vk.GetDeviceQueueRequest.encode { device, queueFamilyIndex, queueIndex })
    (readHandle Vk.GetDeviceQueueResponse.decode (·.queue) kindQueue) reqId seq

def allocateMemory (device : Handle) (size : UInt64) (reqId : UInt32)
    (seq : UInt64) : Call T Handle :=
  call VkOp.allocateMemory (Vk.AllocateMemoryRequest.encode { device, size })
    (readHandle Vk.AllocateMemoryResponse.decode (·.memory) kindDeviceMemory) reqId seq

def createBuffer (device : Handle) (size : UInt64) (usage : UInt32) (reqId : UInt32)
    (seq : UInt64) : Call T Handle :=
  call VkOp.createBuffer (Vk.CreateBufferRequest.encode { device, size, usage })
    (readHandle Vk.CreateBufferResponse.decode (·.buffer) kindBuffer) reqId seq

def bindBufferMemory (buffer memory : Handle) (offset : UInt64) (reqId : UInt32)
    (seq : UInt64) : Call T Unit :=
  call VkOp.bindBufferMemory (Vk.BindBufferMemoryRequest.encode { buffer, memory, offset })
    readAck reqId seq

def createCommandPool (device : Handle) (queueFamilyIndex : UInt32) (reqId : UInt32)
    (seq : UInt64) : Call T Handle :=
  call VkOp.createCommandPool (Vk.CreateCommandPoolRequest.encode { device, queueFamilyIndex })
    (readHandle Vk.CreateCommandPoolResponse.decode (·.pool) kindCommandPool) reqId seq

def allocateCommandBuffer (pool : Handle) (reqId : UInt32) (seq : UInt64) : Call T Handle :=
  call VkOp.allocateCommandBuffer (Vk.AllocateCommandBufferRequest.encode { pool })
    (readHandle Vk.AllocateCommandBufferResponse.decode (·.commandBuffer) kindCommandBuffer) reqId seq

def queueSubmit (queue commandBuffer : Handle) (reqId : UInt32) (seq : UInt64) : Call T Unit :=
  call VkOp.queueSubmit (Vk.QueueSubmitRequest.encode { queue, commandBuffer }) readAck reqId seq

def cmdCopyBuffer (commandBuffer src dst : Handle) (size : UInt64) (reqId : UInt32)
    (seq : UInt64) : Call T Unit :=
  call VkOp.cmdCopyBuffer (Vk.CmdCopyBufferRequest.encode { commandBuffer, src, dst, size })
    readAck reqId seq

def cmdDraw (commandBuffer : Handle) (vertexCount instanceCount : UInt32) (reqId : UInt32)
    (seq : UInt64) : Call T Unit :=
  call VkOp.cmdDraw (Vk.CmdDrawRequest.encode { commandBuffer, vertexCount, instanceCount })
    readAck reqId seq

def destroyBuffer (buffer : Handle) (reqId : UInt32) (seq : UInt64) : Call T Unit :=
  call VkOp.destroyBuffer (Vk.DestroyBufferRequest.encode { buffer }) readAck reqId seq

def freeMemory (memory : Handle) (reqId : UInt32) (seq : UInt64) : Call T Unit :=
  call VkOp.freeMemory (Vk.FreeMemoryRequest.encode { memory }) readAck reqId seq

def destroyCommandPool (pool : Handle) (reqId : UInt32) (seq : UInt64) : Call T Unit :=
  call VkOp.destroyCommandPool (Vk.DestroyCommandPoolRequest.encode { pool }) readAck reqId seq

end Vk

namespace Gl

def kindGlContext : UInt8 := 10
def kindGlBuffer : UInt8 := 11

def createContext (reqId : UInt32) (seq : UInt64) : Call T Handle :=
  call GlOp.createContext []
    (readHandle Gl.CreateContextResponse.decode (·.context) kindGlContext) reqId seq

def makeCurrent (context : Handle) (reqId : UInt32) (seq : UInt64) : Call T Unit :=
  call GlOp.makeCurrent (Gl.MakeCurrentRequest.encode { context }) readAck reqId seq

def genBuffer (context : Handle) (reqId : UInt32) (seq : UInt64) : Call T Handle :=
  call GlOp.genBuffer (Gl.GenBufferRequest.encode { context })
    (readHandle Gl.GenBufferResponse.decode (·.buffer) kindGlBuffer) reqId seq

def swapBuffers (context : Handle) (reqId : UInt32) (seq : UInt64) : Call T Unit :=
  call GlOp.swapBuffers (Gl.SwapBuffersRequest.encode { context }) readAck reqId seq

def deleteBuffer (buffer : Handle) (reqId : UInt32) (seq : UInt64) : Call T Unit :=
  call GlOp.deleteBuffer (Gl.DeleteBufferRequest.encode { buffer }) readAck reqId seq

end Gl

namespace Cuda

def kindCudaContext : UInt8 := 20
def kindCudaDevicePtr : UInt8 := 21

def ctxCreate (deviceOrdinal : UInt32) (reqId : UInt32) (seq : UInt64) : Call T Handle :=
  call CudaOp.ctxCreate (Cuda.CtxCreateRequest.encode { deviceOrdinal })
    (readHandle Cuda.CtxCreateResponse.decode (·.context) kindCudaContext) reqId seq

def memAlloc (context : Handle) (size : UInt64) (reqId : UInt32) (seq : UInt64) : Call T Handle :=
  call CudaOp.memAlloc (Cuda.MemAllocRequest.encode { context, size })
    (readHandle Cuda.MemAllocResponse.decode (·.dptr) kindCudaDevicePtr) reqId seq

def memFree (dptr : Handle) (reqId : UInt32) (seq : UInt64) : Call T Unit :=
  call CudaOp.memFree (Cuda.MemFreeRequest.encode { dptr }) readAck reqId seq

end Cuda

namespace Cl

def kindClContext : UInt8 := 40
def kindClMem : UInt8 := 41

def createContext (reqId : UInt32) (seq : UInt64) : Call T Handle :=
  call ClOp.createContext []
    (readHandle Cl.CreateContextResponse.decode (·.context) kindClContext) reqId seq

def createBuffer (context : Handle) (size : UInt64) (reqId : UInt32)
    (seq : UInt64) : Call T Handle :=
  call ClOp.createBuffer (Cl.CreateBufferRequest.encode { context, size })
    (readHandle Cl.CreateBufferResponse.decode (·.mem) kindClMem) reqId seq

def releaseBuffer (mem : Handle) (reqId : UInt32) (seq : UInt64) : Call T Unit :=
  call ClOp.releaseBuffer (Cl.ReleaseBufferRequest.encode { mem }) readAck reqId seq

end Cl

namespace Hip

def kindHipDevicePtr : UInt8 := 30
def kindHipStream : UInt8 := 31

def malloc (size : UInt64) (reqId : UInt32) (seq : UInt64) : Call T Handle :=
  call HipOp.malloc (Hip.MallocRequest.encode { size })
    (readHandle Hip.MallocResponse.decode (·.dptr) kindHipDevicePtr) reqId seq

def free (dptr : Handle) (reqId : UInt32) (seq : UInt64) : Call T Unit :=
  call HipOp.free (Hip.FreeRequest.encode { dptr }) readAck reqId seq

def streamCreate (reqId : UInt32) (seq : UInt64) : Call T Handle :=
  call HipOp.streamCreate []
    (readHandle Hip.StreamCreateResponse.decode (·.stream) kindHipStream) reqId seq

end Hip

namespace L0

def kindContext : UInt8 := 50
def kindDeviceMem : UInt8 := 51

def contextCreate (reqId : UInt32) (seq : UInt64) : Call T Handle :=
  call L0Op.contextCreate []
    (readHandle L0.ContextCreateResponse.decode (·.context) kindContext) reqId seq

def memAllocDevice (context : Handle) (size : UInt64) (reqId : UInt32)
    (seq : UInt64) : Call T Handle :=
  call L0Op.memAllocDevice (L0.MemAllocDeviceRequest.encode { context, size })
    (readHandle L0.MemAllocDeviceResponse.decode (·.ptr) kindDeviceMem) reqId seq

def memFree (ptr : Handle) (reqId : UInt32) (seq : UInt64) : Call T Unit :=
  call L0Op.memFree (L0.MemFreeRequest.encode { ptr }) readAck reqId seq

end L0

namespace Video

def kindVideoSession : UInt8 := 60

def createDecodeSession (codec width height : UInt32) (reqId : UInt32)
    (seq : UInt64) : Call T Handle :=
  call VideoOp.createDecodeSession
    (Video.CreateDecodeSessionRequest.encode { codec, width, height })
    (readHandle Video.CreateDecodeSessionResponse.decode (·.session) kindVideoSession) reqId seq

def decodeFrame (session : Handle) (bitstreamLen : UInt32) (reqId : UInt32)
    (seq : UInt64) : Call T UInt32 :=
  call VideoOp.decodeFrame (Video.DecodeFrameRequest.encode { session, bitstreamLen })
    (readWord Video.DecodeFrameResponse.decode (·.frameIndex)) reqId seq

def destroySession (session : Handle) (reqId : UInt32) (seq : UInt64) : Call T Unit :=
  call VideoOp.destroySession (Video.DestroySessionRequest.encode { session }) readAck reqId seq

end Video

namespace Wgpu

def kindWgpuDevice : UInt8 := 70
def kindWgpuBuffer : UInt8 := 71

def requestDevice (reqId : UInt32) (seq : UInt64) : Call T Handle :=
  call WgpuOp.requestDevice []
    (readHandle Wgpu.RequestDeviceResponse.decode (·.device) kindWgpuDevice) reqId seq

def createBuffer (device : Handle) (size : UInt64) (usage : UInt32) (reqId : UInt32)
    (seq : UInt64) : Call T Handle :=
  call WgpuOp.createBuffer (Wgpu.CreateBufferRequest.encode { device, size, usage })
    (readHandle Wgpu.CreateBufferResponse.decode (·.buffer) kindWgpuBuffer) reqId seq

def destroyBuffer (buffer : Handle) (reqId : UInt32) (seq : UInt64) : Call T Unit :=
  call WgpuOp.destroyBuffer (Wgpu.DestroyBufferRequest.encode { buffer }) readAck reqId seq

end Wgpu

namespace Optix

def kindOptixContext : UInt8 := 80
def kindOptixPipeline : UInt8 := 81

def contextCreate (reqId : UInt32) (seq : UInt64) : Call T Handle :=
  call OptixOp.contextCreate []
    (readHandle Optix.ContextCreateResponse.decode (·.context) kindOptixContext) reqId seq

def pipelineCreate (context : Handle) (reqId : UInt32) (seq : UInt64) : Call T Handle :=
  call OptixOp.pipelineCreate (Optix.PipelineCreateRequest.encode { context })
    (readHandle Optix.PipelineCreateResponse.decode (·.pipeline) kindOptixPipeline) reqId seq

def destroy (handle : Handle) (reqId : UInt32) (seq : UInt64) : Call T Unit :=
  call OptixOp.destroy (Optix.DestroyRequest.encode { handle }) readAck reqId seq

end Optix

namespace Sycl

def kindSyclQueue : UInt8 := 90
def kindSyclDevicePtr : UInt8 := 91

def queueCreate (reqId : UInt32) (seq : UInt64) : Call T Handle :=
  call SyclOp.queueCreate []
    (readHandle Sycl.QueueCreateResponse.decode (·.queue) kindSyclQueue) reqId seq

def mallocDevice (queue : Handle) (size : UInt64) (reqId : UInt32) (seq : UInt64) : Call T Handle :=
  call SyclOp.mallocDevice (Sycl.MallocDeviceRequest.encode { queue, size })
    (readHandle Sycl.MallocDeviceResponse.decode (·.ptr) kindSyclDevicePtr) reqId seq

def free (ptr : Handle) (reqId : UInt32) (seq : UInt64) : Call T Unit :=
  call SyclOp.free (Sycl.FreeRequest.encode { ptr }) readAck reqId seq

end Sycl

namespace Amf

def kindAmfEncoder : UInt8 := 100

def createEncoder (codec width height : UInt32) (reqId : UInt32) (seq : UInt64) : Call T Handle :=
  call AmfOp.createEncoder (Amf.CreateEncoderRequest.encode { codec, width, height })
    (readHandle Amf.CreateEncoderResponse.decode (·.encoder) kindAmfEncoder) reqId seq

def encodeFrame (encoder : Handle) (frameLen : UInt32) (reqId : UInt32)
    (seq : UInt64) : Call T UInt32 :=
  call AmfOp.encodeFrame (Amf.EncodeFrameRequest.encode { encoder, frameLen })
    (readWord Amf.EncodeFrameResponse.decode (·.packetLen)) reqId seq

def destroyEncoder (encoder : Handle) (reqId : UInt32) (seq : UInt64) : Call T Unit :=
  call AmfOp.destroyEncoder (Amf.DestroyEncoderRequest.encode { encoder }) readAck reqId seq

end Amf

end Graftx.Client
