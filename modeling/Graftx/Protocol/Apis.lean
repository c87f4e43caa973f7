import Graftx.Protocol.Reader

/-! Request and response bodies of the other ten API namespaces, in wire order. -/
namespace Graftx.Protocol
open Lib.LittleEndian Lib.ExactReader Reader

namespace Gl

structure CreateContextResponse where
  context : Handle

def CreateContextResponse.encode (x : CreateContextResponse) : Bytes := le64 x.context.raw

def CreateContextResponse.decode :
    Bytes → Except ProtocolError CreateContextResponse := ReadM.decode do
  return { context := ← Reader.handle }

theorem CreateContextResponse.decode_exact : ExactBody decode encode 8 :=
  exactBody <| Reads.one handle_takes mk context (fun _ => rfl) fun _ => rfl

structure MakeCurrentRequest where
  context : Handle

def MakeCurrentRequest.encode (x : MakeCurrentRequest) : Bytes := le64 x.context.raw

def MakeCurrentRequest.decode : Bytes → Except ProtocolError MakeCurrentRequest := ReadM.decode do
  return { context := ← Reader.handle }

theorem MakeCurrentRequest.decode_exact : ExactBody decode encode 8 :=
  exactBody <| Reads.one handle_takes mk context (fun _ => rfl) fun _ => rfl

structure GenBufferRequest where
  context : Handle

def GenBufferRequest.encode (x : GenBufferRequest) : Bytes := le64 x.context.raw

def GenBufferRequest.decode : Bytes → Except ProtocolError GenBufferRequest := ReadM.decode do
  return { context := ← Reader.handle }

theorem GenBufferRequest.decode_exact : ExactBody decode encode 8 :=
  exactBody <| Reads.one handle_takes mk context (fun _ => rfl) fun _ => rfl

structure GenBufferResponse where
  buffer : Handle

def GenBufferResponse.encode (x : GenBufferResponse) : Bytes := le64 x.buffer.raw

def GenBufferResponse.decode : Bytes → Except ProtocolError GenBufferResponse := ReadM.decode do
  return { buffer := ← Reader.handle }

theorem GenBufferResponse.decode_exact : ExactBody decode encode 8 :=
  exactBody <| Reads.one handle_takes mk buffer (fun _ => rfl) fun _ => rfl

structure SwapBuffersRequest where
  context : Handle

def SwapBuffersRequest.encode (x : SwapBuffersRequest) : Bytes := le64 x.context.raw

def SwapBuffersRequest.decode : Bytes → Except ProtocolError SwapBuffersRequest := ReadM.decode do
  return { context := ← Reader.handle }

theorem SwapBuffersRequest.decode_exact : ExactBody decode encode 8 :=
  exactBody <| Reads.one handle_takes mk context (fun _ => rfl) fun _ => rfl

structure DeleteBufferRequest where
  buffer : Handle

def DeleteBufferRequest.encode (x : DeleteBufferRequest) : Bytes := le64 x.buffer.raw

def DeleteBufferRequest.decode : Bytes → Except ProtocolError DeleteBufferRequest := ReadM.decode do
  return { buffer := ← Reader.handle }

theorem DeleteBufferRequest.decode_exact : ExactBody decode encode 8 :=
  exactBody <| Reads.one handle_takes mk buffer (fun _ => rfl) fun _ => rfl

end Gl

namespace Cuda

structure CtxCreateRequest where
  deviceOrdinal : UInt32

def CtxCreateRequest.encode (x : CtxCreateRequest) : Bytes := le32 x.deviceOrdinal

def CtxCreateRequest.decode : Bytes → Except ProtocolError CtxCreateRequest := ReadM.decode do
  return { deviceOrdinal := ← Reader.u32 }

theorem CtxCreateRequest.decode_exact : ExactBody decode encode 4 :=
  exactBody <| Reads.one u32_takes mk deviceOrdinal (fun _ => rfl) fun _ => rfl

structure CtxCreateResponse where
  context : Handle

def CtxCreateResponse.encode (x : CtxCreateResponse) : Bytes := le64 x.context.raw

def CtxCreateResponse.decode : Bytes → Except ProtocolError CtxCreateResponse := ReadM.decode do
  return { context := ← Reader.handle }

theorem CtxCreateResponse.decode_exact : ExactBody decode encode 8 :=
  exactBody <| Reads.one handle_takes mk context (fun _ => rfl) fun _ => rfl

structure MemAllocRequest where
  context : Handle
  size : UInt64

def MemAllocRequest.encode (x : MemAllocRequest) : Bytes := le64 x.context.raw ++ le64 x.size

def MemAllocRequest.decode : Bytes → Except ProtocolError MemAllocRequest := ReadM.decode do
  return { context := ← Reader.handle, size := ← Reader.u64 }

theorem MemAllocRequest.decode_exact : ExactBody decode encode 16 :=
  exactBody <| Reads.two handle_takes u64_takes mk context size (fun _ => rfl) fun _ _ => ⟨rfl, rfl⟩

structure MemAllocResponse where
  dptr : Handle

def MemAllocResponse.encode (x : MemAllocResponse) : Bytes := le64 x.dptr.raw

def MemAllocResponse.decode : Bytes → Except ProtocolError MemAllocResponse := ReadM.decode do
  return { dptr := ← Reader.handle }

theorem MemAllocResponse.decode_exact : ExactBody decode encode 8 :=
  exactBody <| Reads.one handle_takes mk dptr (fun _ => rfl) fun _ => rfl

structure MemFreeRequest where
  dptr : Handle

def MemFreeRequest.encode (x : MemFreeRequest) : Bytes := le64 x.dptr.raw

def MemFreeRequest.decode : Bytes → Except ProtocolError MemFreeRequest := ReadM.decode do
  return { dptr := ← Reader.handle }

theorem MemFreeRequest.decode_exact : ExactBody decode encode 8 :=
  exactBody <| Reads.one handle_takes mk dptr (fun _ => rfl) fun _ => rfl

structure LaunchKernelRequest where
  function : Handle
  gridX : UInt32
  gridY : UInt32
  gridZ : UInt32
  blockX : UInt32
  blockY : UInt32
  blockZ : UInt32

def LaunchKernelRequest.encode (x : LaunchKernelRequest) : Bytes :=
  le64 x.function.raw ++ le32 x.gridX ++ le32 x.gridY ++ le32 x.gridZ ++ le32 x.blockX ++
    le32 x.blockY ++ le32 x.blockZ

def LaunchKernelRequest.decode : Bytes → Except ProtocolError LaunchKernelRequest := ReadM.decode do
  return {
    function := ← Reader.handle, gridX := ← Reader.u32, gridY := ← Reader.u32, gridZ := ← Reader.u32,
    blockX := ← Reader.u32, blockY := ← Reader.u32, blockZ := ← Reader.u32 }

theorem LaunchKernelRequest.decode_exact : ExactBody decode encode 32 := by
  refine exactBody <| Reads.congr (handle_takes.field function fun _ => u32_takes.field gridX fun _ =>
    u32_takes.field gridY fun _ => u32_takes.field gridZ fun _ => u32_takes.field blockX fun _ =>
    u32_takes.field blockY fun _ => u32_takes.field blockZ fun _ => Reads.pure fun x => ?_)
    fun x => ?_
  · cases x
    simp [and_assoc]
  · simp [encode]

structure MemcpyHtoDRequest where
  dst : Handle
  len : UInt64

def MemcpyHtoDRequest.encode (x : MemcpyHtoDRequest) : Bytes := le64 x.dst.raw ++ le64 x.len

def MemcpyHtoDRequest.decode : Bytes → Except ProtocolError MemcpyHtoDRequest := ReadM.decode do
  return { dst := ← Reader.handle, len := ← Reader.u64 }

theorem MemcpyHtoDRequest.decode_exact : ExactBody decode encode 16 :=
  exactBody <| Reads.two handle_takes u64_takes mk dst len (fun _ => rfl) fun _ _ => ⟨rfl, rfl⟩

structure MemcpyDtoHRequest where
  src : Handle
  len : UInt64

def MemcpyDtoHRequest.encode (x : MemcpyDtoHRequest) : Bytes := le64 x.src.raw ++ le64 x.len

def MemcpyDtoHRequest.decode : Bytes → Except ProtocolError MemcpyDtoHRequest := ReadM.decode do
  return { src := ← Reader.handle, len := ← Reader.u64 }

theorem MemcpyDtoHRequest.decode_exact : ExactBody decode encode 16 :=
  exactBody <| Reads.two handle_takes u64_takes mk src len (fun _ => rfl) fun _ _ => ⟨rfl, rfl⟩

structure MemcpyDtoHResponse where
  copied : UInt64

def MemcpyDtoHResponse.encode (x : MemcpyDtoHResponse) : Bytes := le64 x.copied

def MemcpyDtoHResponse.decode : Bytes → Except ProtocolError MemcpyDtoHResponse := ReadM.decode do
  return { copied := ← Reader.u64 }

theorem MemcpyDtoHResponse.decode_exact : ExactBody decode encode 8 :=
  exactBody <| Reads.one u64_takes mk copied (fun _ => rfl) fun _ => rfl

end Cuda

namespace Hip

structure MallocRequest where
  size : UInt64

def MallocRequest.encode (x : MallocRequest) : Bytes := le64 x.size

def MallocRequest.decode : Bytes → Except ProtocolError MallocRequest := ReadM.decode do
  return { size := ← Reader.u64 }

theorem MallocRequest.decode_exact : ExactBody decode encode 8 :=
  exactBody <| Reads.one u64_takes mk size (fun _ => rfl) fun _ => rfl

structure MallocResponse where
  dptr : Handle

def MallocResponse.encode (x : MallocResponse) : Bytes := le64 x.dptr.raw

def MallocResponse.decode : Bytes → Except ProtocolError MallocResponse := ReadM.decode do
  return { dptr := ← Reader.handle }

theorem MallocResponse.decode_exact : ExactBody decode encode 8 :=
  exactBody <| Reads.one handle_takes mk dptr (fun _ => rfl) fun _ => rfl

structure FreeRequest where
  dptr : Handle

def FreeRequest.encode (x : FreeRequest) : Bytes := le64 x.dptr.raw

def FreeRequest.decode : Bytes → Except ProtocolError FreeRequest := ReadM.decode do
  return { dptr := ← Reader.handle }

theorem FreeRequest.decode_exact : ExactBody decode encode 8 :=
  exactBody <| Reads.one handle_takes mk dptr (fun _ => rfl) fun _ => rfl

structure StreamCreateResponse where
  stream : Handle

def StreamCreateResponse.encode (x : StreamCreateResponse) : Bytes := le64 x.stream.raw

def StreamCreateResponse.decode :
    Bytes → Except ProtocolError StreamCreateResponse := ReadM.decode do
  return { stream := ← Reader.handle }

theorem StreamCreateResponse.decode_exact : ExactBody decode encode 8 :=
  exactBody <| Reads.one handle_takes mk stream (fun _ => rfl) fun _ => rfl

end Hip

namespace Cl

structure CreateContextResponse where
  context : Handle

def CreateContextResponse.encode (x : CreateContextResponse) : Bytes := le64 x.context.raw

def CreateContextResponse.decode :
    Bytes → Except ProtocolError CreateContextResponse := ReadM.decode do
  return { context := ← Reader.handle }

theorem CreateContextResponse.decode_exact : ExactBody decode encode 8 :=
  exactBody <| Reads.one handle_takes mk context (fun _ => rfl) fun _ => rfl

structure CreateBufferRequest where
  context : Handle
  size : UInt64

def CreateBufferRequest.encode (x : CreateBufferRequest) : Bytes :=
  le64 x.context.raw ++ le64 x.size

def CreateBufferRequest.decode : Bytes → Except ProtocolError CreateBufferRequest := ReadM.decode do
  return { context := ← Reader.handle, size := ← Reader.u64 }

theorem CreateBufferRequest.decode_exact : ExactBody decode encode 16 :=
  exactBody <| Reads.two handle_takes u64_takes mk context size (fun _ => rfl) fun _ _ => ⟨rfl, rfl⟩

structure CreateBufferResponse where
  mem : Handle

def CreateBufferResponse.encode (x : CreateBufferResponse) : Bytes := le64 x.mem.raw

def CreateBufferResponse.decode :
    Bytes → Except ProtocolError CreateBufferResponse := ReadM.decode do
  return { mem := ← Reader.handle }

theorem CreateBufferResponse.decode_exact : ExactBody decode encode 8 :=
  exactBody <| Reads.one handle_takes mk mem (fun _ => rfl) fun _ => rfl

structure ReleaseBufferRequest where
  mem : Handle

def ReleaseBufferRequest.encode (x : ReleaseBufferRequest) : Bytes := le64 x.mem.raw

def ReleaseBufferRequest.decode :
    Bytes → Except ProtocolError ReleaseBufferRequest := ReadM.decode do
  return { mem := ← Reader.handle }

theorem ReleaseBufferRequest.decode_exact : ExactBody decode encode 8 :=
  exactBody <| Reads.one handle_takes mk mem (fun _ => rfl) fun _ => rfl

end Cl

namespace L0

structure ContextCreateResponse where
  context : Handle

def ContextCreateResponse.encode (x : ContextCreateResponse) : Bytes := le64 x.context.raw

def ContextCreateResponse.decode :
    Bytes → Except ProtocolError ContextCreateResponse := ReadM.decode do
  return { context := ← Reader.handle }

theorem ContextCreateResponse.decode_exact : ExactBody decode encode 8 :=
  exactBody <| Reads.one handle_takes mk context (fun _ => rfl) fun _ => rfl

structure MemAllocDeviceRequest where
  context : Handle
  size : UInt64

def MemAllocDeviceRequest.encode (x : MemAllocDeviceRequest) : Bytes :=
  le64 x.context.raw ++ le64 x.size

def MemAllocDeviceRequest.decode :
    Bytes → Except ProtocolError MemAllocDeviceRequest := ReadM.decode do
  return { context := ← Reader.handle, size := ← Reader.u64 }

theorem MemAllocDeviceRequest.decode_exact : ExactBody decode encode 16 :=
  exactBody <| Reads.two handle_takes u64_takes mk context size (fun _ => rfl) fun _ _ => ⟨rfl, rfl⟩

structure MemAllocDeviceResponse where
  ptr : Handle

def MemAllocDeviceResponse.encode (x : MemAllocDeviceResponse) : Bytes := le64 x.ptr.raw

def MemAllocDeviceResponse.decode :
    Bytes → Except ProtocolError MemAllocDeviceResponse := ReadM.decode do
  return { ptr := ← Reader.handle }

theorem MemAllocDeviceResponse.decode_exact : ExactBody decode encode 8 :=
  exactBody <| Reads.one handle_takes mk ptr (fun _ => rfl) fun _ => rfl

structure MemFreeRequest where
  ptr : Handle

def MemFreeRequest.encode (x : MemFreeRequest) : Bytes := le64 x.ptr.raw

def MemFreeRequest.decode : Bytes → Except ProtocolError MemFreeRequest := ReadM.decode do
  return { ptr := ← Reader.handle }

theorem MemFreeRequest.decode_exact : ExactBody decode encode 8 :=
  exactBody <| Reads.one handle_takes mk ptr (fun _ => rfl) fun _ => rfl

end L0

namespace Video

structure CreateDecodeSessionRequest where
  codec : UInt32
  width : UInt32
  height : UInt32

def CreateDecodeSessionRequest.encode (x : CreateDecodeSessionRequest) : Bytes :=
  le32 x.codec ++ le32 x.width ++ le32 x.height

def CreateDecodeSessionRequest.decode :
    Bytes → Except ProtocolError CreateDecodeSessionRequest := ReadM.decode do
  return { codec := ← Reader.u32, width := ← Reader.u32, height := ← Reader.u32 }

theorem CreateDecodeSessionRequest.decode_exact : ExactBody decode encode 12 :=
  exactBody <| Reads.three u32_takes u32_takes u32_takes mk codec width height
    (fun _ => rfl) fun _ _ _ => ⟨rfl, rfl, rfl⟩

structure CreateDecodeSessionResponse where
  session : Handle

def CreateDecodeSessionResponse.encode (x : CreateDecodeSessionResponse) : Bytes :=
  le64 x.session.raw

def CreateDecodeSessionResponse.decode :
    Bytes → Except ProtocolError CreateDecodeSessionResponse := ReadM.decode do
  return { session := ← Reader.handle }

theorem CreateDecodeSessionResponse.decode_exact : ExactBody decode encode 8 :=
  exactBody <| Reads.one handle_takes mk session (fun _ => rfl) fun _ => rfl

structure DecodeFrameRequest where
  session : Handle
  bitstreamLen : UInt32

def DecodeFrameRequest.encode (x : DecodeFrameRequest) : Bytes :=
  le64 x.session.raw ++ le32 x.bitstreamLen

def DecodeFrameRequest.decode : Bytes → Except ProtocolError DecodeFrameRequest := ReadM.decode do
  return { session := ← Reader.handle, bitstreamLen := ← Reader.u32 }

theorem DecodeFrameRequest.decode_exact : ExactBody decode encode 12 :=
  exactBody <| Reads.two handle_takes u32_takes mk session bitstreamLen
    (fun _ => rfl) fun _ _ => ⟨rfl, rfl⟩

structure DecodeFrameResponse where
  frameIndex : UInt32

def DecodeFrameResponse.encode (x : DecodeFrameResponse) : Bytes := le32 x.frameIndex

def DecodeFrameResponse.decode : Bytes → Except ProtocolError DecodeFrameResponse := ReadM.decode do
  return { frameIndex := ← Reader.u32 }

theorem DecodeFrameResponse.decode_exact : ExactBody decode encode 4 :=
  exactBody <| Reads.one u32_takes mk frameIndex (fun _ => rfl) fun _ => rfl

structure DestroySessionRequest where
  session : Handle

def DestroySessionRequest.encode (x : DestroySessionRequest) : Bytes := le64 x.session.raw

def DestroySessionRequest.decode :
    Bytes → Except ProtocolError DestroySessionRequest := ReadM.decode do
  return { session := ← Reader.handle }

theorem DestroySessionRequest.decode_exact : ExactBody decode encode 8 :=
  exactBody <| Reads.one handle_takes mk session (fun _ => rfl) fun _ => rfl

end Video

namespace Wgpu

structure RequestDeviceResponse where
  device : Handle

def RequestDeviceResponse.encode (x : RequestDeviceResponse) : Bytes := le64 x.device.raw

def RequestDeviceResponse.decode :
    Bytes → Except ProtocolError RequestDeviceResponse := ReadM.decode do
  return { device := ← Reader.handle }

theorem RequestDeviceResponse.decode_exact : ExactBody decode encode 8 :=
  exactBody <| Reads.one handle_takes mk device (fun _ => rfl) fun _ => rfl

structure CreateBufferRequest where
  device : Handle
  size : UInt64
  usage : UInt32

def CreateBufferRequest.encode (x : CreateBufferRequest) : Bytes :=
  le64 x.device.raw ++ le64 x.size ++ le32 x.usage

def CreateBufferRequest.decode : Bytes → Except ProtocolError CreateBufferRequest := ReadM.decode do
  return { device := ← Reader.handle, size := ← Reader.u64, usage := ← Reader.u32 }

theorem CreateBufferRequest.decode_exact : ExactBody decode encode 20 :=
  exactBody <| Reads.three handle_takes u64_takes u32_takes mk device size usage
    (fun _ => rfl) fun _ _ _ => ⟨rfl, rfl, rfl⟩

structure CreateBufferResponse where
  buffer : Handle

def CreateBufferResponse.encode (x : CreateBufferResponse) : Bytes := le64 x.buffer.raw

def CreateBufferResponse.decode :
    Bytes → Except ProtocolError CreateBufferResponse := ReadM.decode do
  return { buffer := ← Reader.handle }

theorem CreateBufferResponse.decode_exact : ExactBody decode encode 8 :=
  exactBody <| Reads.one handle_takes mk buffer (fun _ => rfl) fun _ => rfl

structure DestroyBufferRequest where
  buffer : Handle

def DestroyBufferRequest.encode (x : DestroyBufferRequest) : Bytes := le64 x.buffer.raw

def DestroyBufferRequest.decode :
    Bytes → Except ProtocolError DestroyBufferRequest := ReadM.decode do
  return { buffer := ← Reader.handle }

theorem DestroyBufferRequest.decode_exact : ExactBody decode encode 8 :=
  exactBody <| Reads.one handle_takes mk buffer (fun _ => rfl) fun _ => rfl

end Wgpu

namespace Optix

structure ContextCreateResponse where
  context : Handle

def ContextCreateResponse.encode (x : ContextCreateResponse) : Bytes := le64 x.context.raw

def ContextCreateResponse.decode :
    Bytes → Except ProtocolError ContextCreateResponse := ReadM.decode do
  return { context := ← Reader.handle }

theorem ContextCreateResponse.decode_exact : ExactBody decode encode 8 :=
  exactBody <| Reads.one handle_takes mk context (fun _ => rfl) fun _ => rfl

structure PipelineCreateRequest where
  context : Handle

def PipelineCreateRequest.encode (x : PipelineCreateRequest) : Bytes := le64 x.context.raw

def PipelineCreateRequest.decode :
    Bytes → Except ProtocolError PipelineCreateRequest := ReadM.decode do
  return { context := ← Reader.handle }

theorem PipelineCreateRequest.decode_exact : ExactBody decode encode 8 :=
  exactBody <| Reads.one handle_takes mk context (fun _ => rfl) fun _ => rfl

structure PipelineCreateResponse where
  pipeline : Handle

def PipelineCreateResponse.encode (x : PipelineCreateResponse) : Bytes := le64 x.pipeline.raw

def PipelineCreateResponse.decode :
    Bytes → Except ProtocolError PipelineCreateResponse := ReadM.decode do
  return { pipeline := ← Reader.handle }

theorem PipelineCreateResponse.decode_exact : ExactBody decode encode 8 :=
  exactBody <| Reads.one handle_takes mk pipeline (fun _ => rfl) fun _ => rfl

structure DestroyRequest where
  handle : Handle

def DestroyRequest.encode (x : DestroyRequest) : Bytes := le64 x.handle.raw

def DestroyRequest.decode : Bytes → Except ProtocolError DestroyRequest := ReadM.decode do
  return { handle := ← Reader.handle }

theorem DestroyRequest.decode_exact : ExactBody decode encode 8 :=
  exactBody <| Reads.one handle_takes mk handle (fun _ => rfl) fun _ => rfl

end Optix

namespace Sycl

structure QueueCreateResponse where
  queue : Handle

def QueueCreateResponse.encode (x : QueueCreateResponse) : Bytes := le64 x.queue.raw

def QueueCreateResponse.decode : Bytes → Except ProtocolError QueueCreateResponse := ReadM.decode do
  return { queue := ← Reader.handle }

theorem QueueCreateResponse.decode_exact : ExactBody decode encode 8 :=
  exactBody <| Reads.one handle_takes mk queue (fun _ => rfl) fun _ => rfl

structure MallocDeviceRequest where
  queue : Handle
  size : UInt64

def MallocDeviceRequest.encode (x : MallocDeviceRequest) : Bytes := le64 x.queue.raw ++ le64 x.size

def MallocDeviceRequest.decode : Bytes → Except ProtocolError MallocDeviceRequest := ReadM.decode do
  return { queue := ← Reader.handle, size := ← Reader.u64 }

theorem MallocDeviceRequest.decode_exact : ExactBody decode encode 16 :=
  exactBody <| Reads.two handle_takes u64_takes mk queue size (fun _ => rfl) fun _ _ => ⟨rfl, rfl⟩

structure MallocDeviceResponse where
  ptr : Handle

def MallocDeviceResponse.encode (x : MallocDeviceResponse) : Bytes := le64 x.ptr.raw

def MallocDeviceResponse.decode :
    Bytes → Except ProtocolError MallocDeviceResponse := ReadM.decode do
  return { ptr := ← Reader.handle }

theorem MallocDeviceResponse.decode_exact : ExactBody decode encode 8 :=
  exactBody <| Reads.one handle_takes mk ptr (fun _ => rfl) fun _ => rfl

structure FreeRequest where
  ptr : Handle

def FreeRequest.encode (x : FreeRequest) : Bytes := le64 x.ptr.raw

def FreeRequest.decode : Bytes → Except ProtocolError FreeRequest := ReadM.decode do
  return { ptr := ← Reader.handle }

theorem FreeRequest.decode_exact : ExactBody decode encode 8 :=
  exactBody <| Reads.one handle_takes mk ptr (fun _ => rfl) fun _ => rfl

end Sycl

namespace Amf

structure CreateEncoderRequest where
  codec : UInt32
  width : UInt32
  height : UInt32

def CreateEncoderRequest.encode (x : CreateEncoderRequest) : Bytes :=
  le32 x.codec ++ le32 x.width ++ le32 x.height

def CreateEncoderRequest.decode :
    Bytes → Except ProtocolError CreateEncoderRequest := ReadM.decode do
  return { codec := ← Reader.u32, width := ← Reader.u32, height := ← Reader.u32 }

theorem CreateEncoderRequest.decode_exact : ExactBody decode encode 12 :=
  exactBody <| Reads.three u32_takes u32_takes u32_takes mk codec width height
    (fun _ => rfl) fun _ _ _ => ⟨rfl, rfl, rfl⟩

structure CreateEncoderResponse where
  encoder : Handle

def CreateEncoderResponse.encode (x : CreateEncoderResponse) : Bytes := le64 x.encoder.raw

def CreateEncoderResponse.decode :
    Bytes → Except ProtocolError CreateEncoderResponse := ReadM.decode do
  return { encoder := ← Reader.handle }

theorem CreateEncoderResponse.decode_exact : ExactBody decode encode 8 :=
  exactBody <| Reads.one handle_takes mk encoder (fun _ => rfl) fun _ => rfl

structure EncodeFrameRequest where
  encoder : Handle
  frameLen : UInt32

def EncodeFrameRequest.encode (x : EncodeFrameRequest) : Bytes :=
  le64 x.encoder.raw ++ le32 x.frameLen

def EncodeFrameRequest.decode : Bytes → Except ProtocolError EncodeFrameRequest := ReadM.decode do
  return { encoder := ← Reader.handle, frameLen := ← Reader.u32 }

theorem EncodeFrameRequest.decode_exact : ExactBody decode encode 12 :=
  exactBody <| Reads.two handle_takes u32_takes mk encoder frameLen
    (fun _ => rfl) fun _ _ => ⟨rfl, rfl⟩

structure EncodeFrameResponse where
  packetLen : UInt32

def EncodeFrameResponse.encode (x : EncodeFrameResponse) : Bytes := le32 x.packetLen

def EncodeFrameResponse.decode : Bytes → Except ProtocolError EncodeFrameResponse := ReadM.decode do
  return { packetLen := ← Reader.u32 }

theorem EncodeFrameResponse.decode_exact : ExactBody decode encode 4 :=
  exactBody <| Reads.one u32_takes mk packetLen (fun _ => rfl) fun _ => rfl

structure DestroyEncoderRequest where
  encoder : Handle

def DestroyEncoderRequest.encode (x : DestroyEncoderRequest) : Bytes := le64 x.encoder.raw

def DestroyEncoderRequest.decode :
    Bytes → Except ProtocolError DestroyEncoderRequest := ReadM.decode do
  return { encoder := ← Reader.handle }

theorem DestroyEncoderRequest.decode_exact : ExactBody decode encode 8 :=
  exactBody <| Reads.one handle_takes mk encoder (fun _ => rfl) fun _ => rfl

end Amf

end Graftx.Protocol
