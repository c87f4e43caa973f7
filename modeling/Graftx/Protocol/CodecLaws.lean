import Graftx.Protocol.Vk
import Graftx.Protocol.Apis
import Graftx.Protocol.Frame

/-! Exactness of the whole wire format, one table per API: what each body type
encodes decodes back, nothing else decodes, and the number is the exact length
below which a buffer is rejected. -/
namespace Graftx.Protocol
open Lib.ExactReader

/-- The header law. The reserved bytes 6 and 7 are the only ones decoding forgets, and
a kind above 2 is reported as soon as it is present. -/
structure HeaderExact : Prop where
  decode_encode : ∀ (x : FrameHeader) t, FrameHeader.decode (x.encode ++ t) = .ok x
  encode_decode : ∀ b x, FrameHeader.decode b = .ok x →
    headerLen ≤ b.length ∧ x.encode = b.take 6 ++ [0, 0] ++ (b.drop 8).take 20
  short_iff : ∀ b, FrameHeader.decode b = .error .unexpectedEof ↔
    b.length < headerLen ∧ ¬ (6 ≤ b.length ∧ 2 < FrameHeader.kindField b)
  badKind_iff : ∀ b k, FrameHeader.decode b = .error (.badKind k) ↔
    6 ≤ b.length ∧ 2 < FrameHeader.kindField b ∧ k.toNat = FrameHeader.kindField b
  only : ∀ b e, FrameHeader.decode b = .error e → e = .unexpectedEof ∨ ∃ k, e = .badKind k

theorem headerExact : HeaderExact where
  decode_encode := FrameHeader.decode_encode
  encode_decode := FrameHeader.encode_decode
  short_iff := FrameHeader.short_iff
  badKind_iff := FrameHeader.badKind_iff
  only := FrameHeader.only_eof_or_badKind

structure Vk.BodiesExact : Prop where
  createInstanceRequest : ExactBody CreateInstanceRequest.decode CreateInstanceRequest.encode 4
  createInstanceResponse : ExactBody CreateInstanceResponse.decode CreateInstanceResponse.encode 8
  enumeratePhysicalDevicesRequest :
    ExactBody EnumeratePhysicalDevicesRequest.decode EnumeratePhysicalDevicesRequest.encode 8
  enumeratePhysicalDevicesResponse : Exact EnumeratePhysicalDevicesResponse.decode
    EnumeratePhysicalDevicesResponse.encode (fun x => x.devices.length < 2 ^ 32)
    (fun b => 4 + 8 * EnumeratePhysicalDevicesResponse.count b) ProtocolError.unexpectedEof
  createDeviceRequest : ExactBody CreateDeviceRequest.decode CreateDeviceRequest.encode 8
  createDeviceResponse : ExactBody CreateDeviceResponse.decode CreateDeviceResponse.encode 8
  getDeviceQueueRequest : ExactBody GetDeviceQueueRequest.decode GetDeviceQueueRequest.encode 16
  getDeviceQueueResponse : ExactBody GetDeviceQueueResponse.decode GetDeviceQueueResponse.encode 8
  allocateMemoryRequest : ExactBody AllocateMemoryRequest.decode AllocateMemoryRequest.encode 16
  allocateMemoryResponse : ExactBody AllocateMemoryResponse.decode AllocateMemoryResponse.encode 8
  createBufferRequest : ExactBody CreateBufferRequest.decode CreateBufferRequest.encode 20
  createBufferResponse : ExactBody CreateBufferResponse.decode CreateBufferResponse.encode 8
  bindBufferMemoryRequest :
    ExactBody BindBufferMemoryRequest.decode BindBufferMemoryRequest.encode 24
  createCommandPoolRequest :
    ExactBody CreateCommandPoolRequest.decode CreateCommandPoolRequest.encode 12
  createCommandPoolResponse :
    ExactBody CreateCommandPoolResponse.decode CreateCommandPoolResponse.encode 8
  allocateCommandBufferRequest :
    ExactBody AllocateCommandBufferRequest.decode AllocateCommandBufferRequest.encode 8
  allocateCommandBufferResponse :
    ExactBody AllocateCommandBufferResponse.decode AllocateCommandBufferResponse.encode 8
  queueSubmitRequest : ExactBody QueueSubmitRequest.decode QueueSubmitRequest.encode 16
  cmdCopyBufferRequest : ExactBody CmdCopyBufferRequest.decode CmdCopyBufferRequest.encode 32
  cmdDrawRequest : ExactBody CmdDrawRequest.decode CmdDrawRequest.encode 16
  destroyBufferRequest : ExactBody DestroyBufferRequest.decode DestroyBufferRequest.encode 8
  freeMemoryRequest : ExactBody FreeMemoryRequest.decode FreeMemoryRequest.encode 8
  destroyCommandPoolRequest :
    ExactBody DestroyCommandPoolRequest.decode DestroyCommandPoolRequest.encode 8

theorem Vk.bodiesExact : Vk.BodiesExact where
  createInstanceRequest := CreateInstanceRequest.decode_exact
  createInstanceResponse := CreateInstanceResponse.decode_exact
  enumeratePhysicalDevicesRequest := EnumeratePhysicalDevicesRequest.decode_exact
  enumeratePhysicalDevicesResponse := EnumeratePhysicalDevicesResponse.decode_exact
  createDeviceRequest := CreateDeviceRequest.decode_exact
  createDeviceResponse := CreateDeviceResponse.decode_exact
  getDeviceQueueRequest := GetDeviceQueueRequest.decode_exact
  getDeviceQueueResponse := GetDeviceQueueResponse.decode_exact
  allocateMemoryRequest := AllocateMemoryRequest.decode_exact
  allocateMemoryResponse := AllocateMemoryResponse.decode_exact
  createBufferRequest := CreateBufferRequest.decode_exact
  createBufferResponse := CreateBufferResponse.decode_exact
  bindBufferMemoryRequest := BindBufferMemoryRequest.decode_exact
  createCommandPoolRequest := CreateCommandPoolRequest.decode_exact
  createCommandPoolResponse := CreateCommandPoolResponse.decode_exact
  allocateCommandBufferRequest := AllocateCommandBufferRequest.decode_exact
  allocateCommandBufferResponse := AllocateCommandBufferResponse.decode_exact
  queueSubmitRequest := QueueSubmitRequest.decode_exact
  cmdCopyBufferRequest := CmdCopyBufferRequest.decode_exact
  cmdDrawRequest := CmdDrawRequest.decode_exact
  destroyBufferRequest := DestroyBufferRequest.decode_exact
  freeMemoryRequest := FreeMemoryRequest.decode_exact
  destroyCommandPoolRequest := DestroyCommandPoolRequest.decode_exact

structure Gl.BodiesExact : Prop where
  createContextResponse : ExactBody CreateContextResponse.decode CreateContextResponse.encode 8
  makeCurrentRequest : ExactBody MakeCurrentRequest.decode MakeCurrentRequest.encode 8
  genBufferRequest : ExactBody GenBufferRequest.decode GenBufferRequest.encode 8
  genBufferResponse : ExactBody GenBufferResponse.decode GenBufferResponse.encode 8
  swapBuffersRequest : ExactBody SwapBuffersRequest.decode SwapBuffersRequest.encode 8
  deleteBufferRequest : ExactBody DeleteBufferRequest.decode DeleteBufferRequest.encode 8

theorem Gl.bodiesExact : Gl.BodiesExact where
  createContextResponse := CreateContextResponse.decode_exact
  makeCurrentRequest := MakeCurrentRequest.decode_exact
  genBufferRequest := GenBufferRequest.decode_exact
  genBufferResponse := GenBufferResponse.decode_exact
  swapBuffersRequest := SwapBuffersRequest.decode_exact
  deleteBufferRequest := DeleteBufferRequest.decode_exact

structure Cuda.BodiesExact : Prop where
  ctxCreateRequest : ExactBody CtxCreateRequest.decode CtxCreateRequest.encode 4
  ctxCreateResponse : ExactBody CtxCreateResponse.decode CtxCreateResponse.encode 8
  memAllocRequest : ExactBody MemAllocRequest.decode MemAllocRequest.encode 16
  memAllocResponse : ExactBody MemAllocResponse.decode MemAllocResponse.encode 8
  memFreeRequest : ExactBody MemFreeRequest.decode MemFreeRequest.encode 8
  launchKernelRequest : ExactBody LaunchKernelRequest.decode LaunchKernelRequest.encode 32
  memcpyHtoDRequest : ExactBody MemcpyHtoDRequest.decode MemcpyHtoDRequest.encode 16
  memcpyDtoHRequest : ExactBody MemcpyDtoHRequest.decode MemcpyDtoHRequest.encode 16
  memcpyDtoHResponse : ExactBody MemcpyDtoHResponse.decode MemcpyDtoHResponse.encode 8

theorem Cuda.bodiesExact : Cuda.BodiesExact where
  ctxCreateRequest := CtxCreateRequest.decode_exact
  ctxCreateResponse := CtxCreateResponse.decode_exact
  memAllocRequest := MemAllocRequest.decode_exact
  memAllocResponse := MemAllocResponse.decode_exact
  memFreeRequest := MemFreeRequest.decode_exact
  launchKernelRequest := LaunchKernelRequest.decode_exact
  memcpyHtoDRequest := MemcpyHtoDRequest.decode_exact
  memcpyDtoHRequest := MemcpyDtoHRequest.decode_exact
  memcpyDtoHResponse := MemcpyDtoHResponse.decode_exact

structure Hip.BodiesExact : Prop where
  mallocRequest : ExactBody MallocRequest.decode MallocRequest.encode 8
  mallocResponse : ExactBody MallocResponse.decode MallocResponse.encode 8
  freeRequest : ExactBody FreeRequest.decode FreeRequest.encode 8
  streamCreateResponse : ExactBody StreamCreateResponse.decode StreamCreateResponse.encode 8

theorem Hip.bodiesExact : Hip.BodiesExact where
  mallocRequest := MallocRequest.decode_exact
  mallocResponse := MallocResponse.decode_exact
  freeRequest := FreeRequest.decode_exact
  streamCreateResponse := StreamCreateResponse.decode_exact

structure Cl.BodiesExact : Prop where
  createContextResponse : ExactBody CreateContextResponse.decode CreateContextResponse.encode 8
  createBufferRequest : ExactBody CreateBufferRequest.decode CreateBufferRequest.encode 16
  createBufferResponse : ExactBody CreateBufferResponse.decode CreateBufferResponse.encode 8
  releaseBufferRequest : ExactBody ReleaseBufferRequest.decode ReleaseBufferRequest.encode 8

theorem Cl.bodiesExact : Cl.BodiesExact where
  createContextResponse := CreateContextResponse.decode_exact
  createBufferRequest := CreateBufferRequest.decode_exact
  createBufferResponse := CreateBufferResponse.decode_exact
  releaseBufferRequest := ReleaseBufferRequest.decode_exact

structure L0.BodiesExact : Prop where
  contextCreateResponse : ExactBody ContextCreateResponse.decode ContextCreateResponse.encode 8
  memAllocDeviceRequest : ExactBody MemAllocDeviceRequest.decode MemAllocDeviceRequest.encode 16
  memAllocDeviceResponse : ExactBody MemAllocDeviceResponse.decode MemAllocDeviceResponse.encode 8
  memFreeRequest : ExactBody MemFreeRequest.decode MemFreeRequest.encode 8

theorem L0.bodiesExact : L0.BodiesExact where
  contextCreateResponse := ContextCreateResponse.decode_exact
  memAllocDeviceRequest := MemAllocDeviceRequest.decode_exact
  memAllocDeviceResponse := MemAllocDeviceResponse.decode_exact
  memFreeRequest := MemFreeRequest.decode_exact

structure Video.BodiesExact : Prop where
  createDecodeSessionRequest :
    ExactBody CreateDecodeSessionRequest.decode CreateDecodeSessionRequest.encode 12
  createDecodeSessionResponse :
    ExactBody CreateDecodeSessionResponse.decode CreateDecodeSessionResponse.encode 8
  decodeFrameRequest : ExactBody DecodeFrameRequest.decode DecodeFrameRequest.encode 12
  decodeFrameResponse : ExactBody DecodeFrameResponse.decode DecodeFrameResponse.encode 4
  destroySessionRequest : ExactBody DestroySessionRequest.decode DestroySessionRequest.encode 8

theorem Video.bodiesExact : Video.BodiesExact where
  createDecodeSessionRequest := CreateDecodeSessionRequest.decode_exact
  createDecodeSessionResponse := CreateDecodeSessionResponse.decode_exact
  decodeFrameRequest := DecodeFrameRequest.decode_exact
  decodeFrameResponse := DecodeFrameResponse.decode_exact
  destroySessionRequest := DestroySessionRequest.decode_exact

structure Wgpu.BodiesExact : Prop where
  requestDeviceResponse : ExactBody RequestDeviceResponse.decode RequestDeviceResponse.encode 8
  createBufferRequest : ExactBody CreateBufferRequest.decode CreateBufferRequest.encode 20
  createBufferResponse : ExactBody CreateBufferResponse.decode CreateBufferResponse.encode 8
  destroyBufferRequest : ExactBody DestroyBufferRequest.decode DestroyBufferRequest.encode 8

theorem Wgpu.bodiesExact : Wgpu.BodiesExact where
  requestDeviceResponse := RequestDeviceResponse.decode_exact
  createBufferRequest := CreateBufferRequest.decode_exact
  createBufferResponse := CreateBufferResponse.decode_exact
  destroyBufferRequest := DestroyBufferRequest.decode_exact

structure Optix.BodiesExact : Prop where
  contextCreateResponse : ExactBody ContextCreateResponse.decode ContextCreateResponse.encode 8
  pipelineCreateRequest : ExactBody PipelineCreateRequest.decode PipelineCreateRequest.encode 8
  pipelineCreateResponse : ExactBody PipelineCreateResponse.decode PipelineCreateResponse.encode 8
  destroyRequest : ExactBody DestroyRequest.decode DestroyRequest.encode 8

theorem Optix.bodiesExact : Optix.BodiesExact where
  contextCreateResponse := ContextCreateResponse.decode_exact
  pipelineCreateRequest := PipelineCreateRequest.decode_exact
  pipelineCreateResponse := PipelineCreateResponse.decode_exact
  destroyRequest := DestroyRequest.decode_exact

structure Sycl.BodiesExact : Prop where
  queueCreateResponse : ExactBody QueueCreateResponse.decode QueueCreateResponse.encode 8
  mallocDeviceRequest : ExactBody MallocDeviceRequest.decode MallocDeviceRequest.encode 16
  mallocDeviceResponse : ExactBody MallocDeviceResponse.decode MallocDeviceResponse.encode 8
  freeRequest : ExactBody FreeRequest.decode FreeRequest.encode 8

theorem Sycl.bodiesExact : Sycl.BodiesExact where
  queueCreateResponse := QueueCreateResponse.decode_exact
  mallocDeviceRequest := MallocDeviceRequest.decode_exact
  mallocDeviceResponse := MallocDeviceResponse.decode_exact
  freeRequest := FreeRequest.decode_exact

structure Amf.BodiesExact : Prop where
  createEncoderRequest : ExactBody CreateEncoderRequest.decode CreateEncoderRequest.encode 12
  createEncoderResponse : ExactBody CreateEncoderResponse.decode CreateEncoderResponse.encode 8
  encodeFrameRequest : ExactBody EncodeFrameRequest.decode EncodeFrameRequest.encode 12
  encodeFrameResponse : ExactBody EncodeFrameResponse.decode EncodeFrameResponse.encode 4
  destroyEncoderRequest : ExactBody DestroyEncoderRequest.decode DestroyEncoderRequest.encode 8

theorem Amf.bodiesExact : Amf.BodiesExact where
  createEncoderRequest := CreateEncoderRequest.decode_exact
  createEncoderResponse := CreateEncoderResponse.decode_exact
  encodeFrameRequest := EncodeFrameRequest.decode_exact
  encodeFrameResponse := EncodeFrameResponse.decode_exact
  destroyEncoderRequest := DestroyEncoderRequest.decode_exact

/-- The whole wire format: header, handshake bodies, every API body, and whole frames. -/
structure WireExact : Prop where
  header : HeaderExact
  hello : ExactBody Hello.decode Hello.encode 12
  welcome : ExactBody Welcome.decode Welcome.encode 20
  vk : Vk.BodiesExact
  gl : Gl.BodiesExact
  cuda : Cuda.BodiesExact
  hip : Hip.BodiesExact
  cl : Cl.BodiesExact
  l0 : L0.BodiesExact
  video : Video.BodiesExact
  wgpu : Wgpu.BodiesExact
  optix : Optix.BodiesExact
  sycl : Sycl.BodiesExact
  amf : Amf.BodiesExact
  frame : ∀ (header : FrameHeader) (body : Bytes),
    decodeFrame (encodeFrame header body) = .ok (header, body)

theorem wire_exact : WireExact where
  header := headerExact
  hello := Hello.decode_exact
  welcome := Welcome.decode_exact
  vk := Vk.bodiesExact
  gl := Gl.bodiesExact
  cuda := Cuda.bodiesExact
  hip := Hip.bodiesExact
  cl := Cl.bodiesExact
  l0 := L0.bodiesExact
  video := Video.bodiesExact
  wgpu := Wgpu.bodiesExact
  optix := Optix.bodiesExact
  sycl := Sycl.bodiesExact
  amf := Amf.bodiesExact
  frame := decodeFrame_encodeFrame

end Graftx.Protocol
