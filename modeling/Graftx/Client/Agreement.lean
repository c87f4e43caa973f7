import Graftx.Client.OverSession
import Graftx.Server.Requests

/-! The client and the server agree, shim by shim. The two sides spell out opcodes, bodies
and kind bytes independently; here they are compared, once per shape of reply. -/
namespace Graftx.Client
open Lib.LittleEndian Graftx.Protocol Graftx.Server

def Produced (s : Session) (opcode : UInt32) (body response : Bytes) : Prop :=
  ∃ backend, s.backends.get (opcodeApi opcode) = some backend ∧
    (backend.handle opcode body).1 = .ok response

/-- A shim agrees with the session whatever identifiers it is given; `response` is the reply
body a backend makes out of the value. -/
def AgreesCall {α : Type} (s : Session) (opcode : UInt32) (body : Bytes)
    (shim : UInt32 → UInt64 → Call SessionLink α) (response : α → Bytes) : Prop :=
  ∀ reqId seq, Agrees s (shim reqId seq) (requestFrame opcode reqId seq body) fun v =>
    Produced s opcode body (response v)

theorem not_core (api : ApiId) (opcode : UInt32) (hc : api ≠ .core)
    (h : opcodeApi opcode = api.byte) : opcode ≠ CoreOp.hello ∧ opcode ≠ CoreOp.noop := by
  constructor
  · rintro rfl
    exact hc (ApiId.byte_inj (h.symm.trans (by decide)))
  · rintro rfl
    exact hc (ApiId.byte_inj (h.symm.trans (by decide)))

section
variable {B : Type} [Backend B] [Shaped B] [Wired B] [AnyBackend.Boxed B] (s : Session)
  {opcode : UInt32} {body : Bytes} (r : Request B)

theorem fits_of_produced (hw : toWire r = (opcode, body)) (response : Bytes)
    (h : Produced s opcode body response) : (shape r).Fits response := by
  obtain ⟨backend, hb, hr⟩ := h
  have hns := Wired.own_namespace r
  have hreq := request_toWire r
  rw [hw] at hns hreq
  have hapi := ApiId.byte_inj ((s.backends.keyed _ _ hb).trans hns)
  obtain ⟨b, rfl⟩ := AnyBackend.Boxed.of_api backend hapi
  rw [AnyBackend.Boxed.handle_box, handle_of_request_ok b _ _ r hreq] at hr
  exact replies b _ r response hr

/-- A call agrees if its reader takes every reply of the expected shape and gives back what
the reply was made from. -/
theorem agreesCall {α : Type} {read : Bytes → Except ClientError α} {response : α → Bytes}
    (hw : toWire r = (opcode, body)) (hc : api B ≠ .core)
    (hread : ∀ reply, (shape r).Fits reply → ∃ v, read reply = .ok v ∧ response v = reply) :
    AgreesCall s opcode body (call opcode body read) response := by
  intro reqId seq
  refine Agrees.of_replies fun reply s' hs => ?_
  have hns := Wired.own_namespace r
  rw [hw] at hns
  obtain ⟨hh, hn⟩ := not_core (api B) opcode hc hns
  obtain ⟨backend, resp, header, hb, hr, rfl, hop, hk⟩ := s.answered_call s'
    (requestHeader opcode reqId seq body) body reply hh hn hs
  change header.opcode = opcode at hop
  obtain ⟨v, hv, hresp⟩ := hread resp (fits_of_produced s r hw resp ⟨backend, hb, hr⟩)
  refine ⟨v, ?_, backend, hb, hresp ▸ hr⟩
  rw [← hop, readReply_encodeFrame header resp hk]
  exact hv

theorem agreesCall_ack (hw : toWire r = (opcode, body)) (hc : api B ≠ .core)
    (hs : shape r = .ack) : AgreesCall s opcode body (call opcode body readAck) fun _ => [] := by
  refine agreesCall s r hw hc fun reply hf => ⟨(), rfl, ?_⟩
  rw [hs] at hf
  exact hf.symm

theorem agreesCall_handle {α : Type} {decode : Bytes → Except ProtocolError α} {proj : α → Handle}
    {response : Handle → Bytes} {kind : UInt8} (hw : toWire r = (opcode, body))
    (hc : api B ≠ .core) (hs : shape r = .handle kind) (henc : ∀ h, le64 h.raw = response h)
    (hd : ∀ h, ∃ x, decode (response h) = .ok x ∧ proj x = h) :
    AgreesCall s opcode body (call opcode body (readHandle decode proj kind)) response := by
  refine agreesCall s r hw hc fun reply hf => ?_
  rw [hs] at hf
  obtain ⟨h, hk, rfl⟩ := hf
  rw [henc]
  obtain ⟨x, hx, hp⟩ := hd h
  have hread := readHandle_ok proj hx ((congrArg Handle.kind hp).trans hk)
  rw [hp] at hread
  exact ⟨h, hread, rfl⟩

theorem agreesCall_handles {kind : UInt8} (hw : toWire r = (opcode, body)) (hc : api B ≠ .core)
    (hs : shape r = .handles kind) :
    AgreesCall s opcode body (call opcode body (readHandles kind))
      fun devices => Vk.EnumeratePhysicalDevicesResponse.encode { devices } := by
  refine agreesCall s r hw hc fun reply hf => ?_
  rw [hs] at hf
  obtain ⟨h, hk, rfl⟩ := hf
  exact ⟨[h], readHandles_singleton h hk, rfl⟩

theorem agreesCall_word {α : Type} {decode : Bytes → Except ProtocolError α} {proj : α → UInt32}
    {response : UInt32 → Bytes} (hw : toWire r = (opcode, body)) (hc : api B ≠ .core)
    (hs : shape r = .word) (henc : ∀ n, le32 n = response n)
    (hd : ∀ n, ∃ x, decode (response n) = .ok x ∧ proj x = n) :
    AgreesCall s opcode body (call opcode body (readWord decode proj)) response := by
  refine agreesCall s r hw hc fun reply hf => ?_
  rw [hs] at hf
  obtain ⟨n, rfl⟩ := hf
  rw [henc]
  obtain ⟨x, hx, hp⟩ := hd n
  have hread := readWord_ok proj hx
  rw [hp] at hread
  exact ⟨n, hread, rfl⟩

end

structure VkAgrees (s : Session) : Prop where
  createInstance : ∀ appApiVersion, AgreesCall s VkOp.createInstance
    (Vk.CreateInstanceRequest.mk appApiVersion).encode (Vk.createInstance appApiVersion)
    fun h => (Vk.CreateInstanceResponse.mk h).encode
  enumeratePhysicalDevices : ∀ inst, AgreesCall s VkOp.enumeratePhysicalDevices
    (Vk.EnumeratePhysicalDevicesRequest.mk inst).encode (Vk.enumeratePhysicalDevices inst)
    fun hs => (Vk.EnumeratePhysicalDevicesResponse.mk hs).encode
  createDevice : ∀ physicalDevice, AgreesCall s VkOp.createDevice
    (Vk.CreateDeviceRequest.mk physicalDevice).encode (Vk.createDevice physicalDevice)
    fun h => (Vk.CreateDeviceResponse.mk h).encode
  getDeviceQueue : ∀ device family index, AgreesCall s VkOp.getDeviceQueue
    (Vk.GetDeviceQueueRequest.mk device family index).encode (Vk.getDeviceQueue device family index)
    fun h => (Vk.GetDeviceQueueResponse.mk h).encode
  allocateMemory : ∀ device size, AgreesCall s VkOp.allocateMemory
    (Vk.AllocateMemoryRequest.mk device size).encode (Vk.allocateMemory device size)
    fun h => (Vk.AllocateMemoryResponse.mk h).encode
  createBuffer : ∀ device size usage, AgreesCall s VkOp.createBuffer
    (Vk.CreateBufferRequest.mk device size usage).encode (Vk.createBuffer device size usage)
    fun h => (Vk.CreateBufferResponse.mk h).encode
  bindBufferMemory : ∀ buffer memory offset, AgreesCall s VkOp.bindBufferMemory
    (Vk.BindBufferMemoryRequest.mk buffer memory offset).encode
    (Vk.bindBufferMemory buffer memory offset) fun _ => []
  createCommandPool : ∀ device family, AgreesCall s VkOp.createCommandPool
    (Vk.CreateCommandPoolRequest.mk device family).encode (Vk.createCommandPool device family)
    fun h => (Vk.CreateCommandPoolResponse.mk h).encode
  allocateCommandBuffer : ∀ pool, AgreesCall s VkOp.allocateCommandBuffer
    (Vk.AllocateCommandBufferRequest.mk pool).encode (Vk.allocateCommandBuffer pool)
    fun h => (Vk.AllocateCommandBufferResponse.mk h).encode
  queueSubmit : ∀ queue commandBuffer, AgreesCall s VkOp.queueSubmit
    (Vk.QueueSubmitRequest.mk queue commandBuffer).encode (Vk.queueSubmit queue commandBuffer)
    fun _ => []
  cmdCopyBuffer : ∀ commandBuffer src dst size, AgreesCall s VkOp.cmdCopyBuffer
    (Vk.CmdCopyBufferRequest.mk commandBuffer src dst size).encode
    (Vk.cmdCopyBuffer commandBuffer src dst size) fun _ => []
  cmdDraw : ∀ commandBuffer vertices instances, AgreesCall s VkOp.cmdDraw
    (Vk.CmdDrawRequest.mk commandBuffer vertices instances).encode
    (Vk.cmdDraw commandBuffer vertices instances) fun _ => []
  destroyBuffer : ∀ buffer, AgreesCall s VkOp.destroyBuffer
    (Vk.DestroyBufferRequest.mk buffer).encode (Vk.destroyBuffer buffer) fun _ => []
  freeMemory : ∀ memory, AgreesCall s VkOp.freeMemory (Vk.FreeMemoryRequest.mk memory).encode
    (Vk.freeMemory memory) fun _ => []
  destroyCommandPool : ∀ pool, AgreesCall s VkOp.destroyCommandPool
    (Vk.DestroyCommandPoolRequest.mk pool).encode (Vk.destroyCommandPool pool) fun _ => []

theorem vkAgrees (s : Session) : VkAgrees s where
  createInstance appApiVersion :=
    agreesCall_handle (B := VulkanBackend) s (VkRequest.createInstance ⟨appApiVersion⟩)
      rfl nofun rfl (fun _ => rfl)
      fun h => ⟨_, Vk.CreateInstanceResponse.decode_exact.self ⟨h⟩ trivial, rfl⟩
  enumeratePhysicalDevices inst :=
    agreesCall_handles (B := VulkanBackend) s (VkRequest.enumeratePhysicalDevices ⟨inst⟩)
      rfl nofun rfl
  createDevice physicalDevice :=
    agreesCall_handle (B := VulkanBackend) s (VkRequest.createDevice ⟨physicalDevice⟩)
      rfl nofun rfl (fun _ => rfl)
      fun h => ⟨_, Vk.CreateDeviceResponse.decode_exact.self ⟨h⟩ trivial, rfl⟩
  getDeviceQueue device family index :=
    agreesCall_handle (B := VulkanBackend) s (VkRequest.getDeviceQueue ⟨device, family, index⟩)
      rfl nofun rfl (fun _ => rfl)
      fun h => ⟨_, Vk.GetDeviceQueueResponse.decode_exact.self ⟨h⟩ trivial, rfl⟩
  allocateMemory device size :=
    agreesCall_handle (B := VulkanBackend) s (VkRequest.allocateMemory ⟨device, size⟩)
      rfl nofun rfl (fun _ => rfl)
      fun h => ⟨_, Vk.AllocateMemoryResponse.decode_exact.self ⟨h⟩ trivial, rfl⟩
  createBuffer device size usage :=
    agreesCall_handle (B := VulkanBackend) s (VkRequest.createBuffer ⟨device, size, usage⟩)
      rfl nofun rfl (fun _ => rfl)
      fun h => ⟨_, Vk.CreateBufferResponse.decode_exact.self ⟨h⟩ trivial, rfl⟩
  bindBufferMemory buffer memory offset :=
    agreesCall_ack (B := VulkanBackend) s (VkRequest.bindBufferMemory ⟨buffer, memory, offset⟩)
      rfl nofun rfl
  createCommandPool device family :=
    agreesCall_handle (B := VulkanBackend) s (VkRequest.createCommandPool ⟨device, family⟩)
      rfl nofun rfl (fun _ => rfl)
      fun h => ⟨_, Vk.CreateCommandPoolResponse.decode_exact.self ⟨h⟩ trivial, rfl⟩
  allocateCommandBuffer pool :=
    agreesCall_handle (B := VulkanBackend) s (VkRequest.allocateCommandBuffer ⟨pool⟩)
      rfl nofun rfl (fun _ => rfl)
      fun h => ⟨_, Vk.AllocateCommandBufferResponse.decode_exact.self ⟨h⟩ trivial, rfl⟩
  queueSubmit queue commandBuffer :=
    agreesCall_ack (B := VulkanBackend) s (VkRequest.queueSubmit ⟨queue, commandBuffer⟩)
      rfl nofun rfl
  cmdCopyBuffer commandBuffer src dst size :=
    agreesCall_ack (B := VulkanBackend) s (VkRequest.cmdCopyBuffer ⟨commandBuffer, src, dst, size⟩)
      rfl nofun rfl
  cmdDraw commandBuffer vertices instances :=
    agreesCall_ack (B := VulkanBackend) s (VkRequest.cmdDraw ⟨commandBuffer, vertices, instances⟩)
      rfl nofun rfl
  destroyBuffer buffer :=
    agreesCall_ack (B := VulkanBackend) s (VkRequest.destroyBuffer ⟨buffer⟩) rfl nofun rfl
  freeMemory memory :=
    agreesCall_ack (B := VulkanBackend) s (VkRequest.freeMemory ⟨memory⟩) rfl nofun rfl
  destroyCommandPool pool :=
    agreesCall_ack (B := VulkanBackend) s (VkRequest.destroyCommandPool ⟨pool⟩) rfl nofun rfl

structure GlAgrees (s : Session) : Prop where
  createContext : AgreesCall s GlOp.createContext [] Gl.createContext
    fun h => (Gl.CreateContextResponse.mk h).encode
  makeCurrent : ∀ context, AgreesCall s GlOp.makeCurrent (Gl.MakeCurrentRequest.mk context).encode
    (Gl.makeCurrent context) fun _ => []
  genBuffer : ∀ context, AgreesCall s GlOp.genBuffer (Gl.GenBufferRequest.mk context).encode
    (Gl.genBuffer context) fun h => (Gl.GenBufferResponse.mk h).encode
  swapBuffers : ∀ context, AgreesCall s GlOp.swapBuffers (Gl.SwapBuffersRequest.mk context).encode
    (Gl.swapBuffers context) fun _ => []
  deleteBuffer : ∀ buffer, AgreesCall s GlOp.deleteBuffer (Gl.DeleteBufferRequest.mk buffer).encode
    (Gl.deleteBuffer buffer) fun _ => []

theorem glAgrees (s : Session) : GlAgrees s where
  createContext :=
    agreesCall_handle (B := GlBackend) s (GlRequest.createContext) rfl nofun rfl (fun _ => rfl)
      fun h => ⟨_, Gl.CreateContextResponse.decode_exact.self ⟨h⟩ trivial, rfl⟩
  makeCurrent context :=
    agreesCall_ack (B := GlBackend) s (GlRequest.makeCurrent ⟨context⟩) rfl nofun rfl
  genBuffer context :=
    agreesCall_handle (B := GlBackend) s (GlRequest.genBuffer ⟨context⟩)
      rfl nofun rfl (fun _ => rfl)
      fun h => ⟨_, Gl.GenBufferResponse.decode_exact.self ⟨h⟩ trivial, rfl⟩
  swapBuffers context :=
    agreesCall_ack (B := GlBackend) s (GlRequest.swapBuffers ⟨context⟩) rfl nofun rfl
  deleteBuffer buffer :=
    agreesCall_ack (B := GlBackend) s (GlRequest.deleteBuffer ⟨buffer⟩) rfl nofun rfl

structure CudaAgrees (s : Session) : Prop where
  ctxCreate : ∀ ordinal, AgreesCall s CudaOp.ctxCreate (Cuda.CtxCreateRequest.mk ordinal).encode
    (Cuda.ctxCreate ordinal) fun h => (Cuda.CtxCreateResponse.mk h).encode
  memAlloc : ∀ context size, AgreesCall s CudaOp.memAlloc
    (Cuda.MemAllocRequest.mk context size).encode (Cuda.memAlloc context size)
    fun h => (Cuda.MemAllocResponse.mk h).encode
  memFree : ∀ dptr, AgreesCall s CudaOp.memFree (Cuda.MemFreeRequest.mk dptr).encode
    (Cuda.memFree dptr) fun _ => []

theorem cudaAgrees (s : Session) : CudaAgrees s where
  ctxCreate ordinal :=
    agreesCall_handle (B := CudaBackend) s (CudaRequest.ctxCreate ⟨ordinal⟩)
      rfl nofun rfl (fun _ => rfl)
      fun h => ⟨_, Cuda.CtxCreateResponse.decode_exact.self ⟨h⟩ trivial, rfl⟩
  memAlloc context size :=
    agreesCall_handle (B := CudaBackend) s (CudaRequest.memAlloc ⟨context, size⟩)
      rfl nofun rfl (fun _ => rfl)
      fun h => ⟨_, Cuda.MemAllocResponse.decode_exact.self ⟨h⟩ trivial, rfl⟩
  memFree dptr := agreesCall_ack (B := CudaBackend) s (CudaRequest.memFree ⟨dptr⟩) rfl nofun rfl

structure ClAgrees (s : Session) : Prop where
  createContext : AgreesCall s ClOp.createContext [] Cl.createContext
    fun h => (Cl.CreateContextResponse.mk h).encode
  createBuffer : ∀ context size, AgreesCall s ClOp.createBuffer
    (Cl.CreateBufferRequest.mk context size).encode (Cl.createBuffer context size)
    fun h => (Cl.CreateBufferResponse.mk h).encode
  releaseBuffer : ∀ mem, AgreesCall s ClOp.releaseBuffer (Cl.ReleaseBufferRequest.mk mem).encode
    (Cl.releaseBuffer mem) fun _ => []

theorem clAgrees (s : Session) : ClAgrees s where
  createContext :=
    agreesCall_handle (B := ClBackend) s (ClRequest.createContext) rfl nofun rfl (fun _ => rfl)
      fun h => ⟨_, Cl.CreateContextResponse.decode_exact.self ⟨h⟩ trivial, rfl⟩
  createBuffer context size :=
    agreesCall_handle (B := ClBackend) s (ClRequest.createBuffer ⟨context, size⟩)
      rfl nofun rfl (fun _ => rfl)
      fun h => ⟨_, Cl.CreateBufferResponse.decode_exact.self ⟨h⟩ trivial, rfl⟩
  releaseBuffer mem :=
    agreesCall_ack (B := ClBackend) s (ClRequest.releaseBuffer ⟨mem⟩) rfl nofun rfl

structure HipAgrees (s : Session) : Prop where
  malloc : ∀ size, AgreesCall s HipOp.malloc (Hip.MallocRequest.mk size).encode (Hip.malloc size)
    fun h => (Hip.MallocResponse.mk h).encode
  free : ∀ dptr, AgreesCall s HipOp.free (Hip.FreeRequest.mk dptr).encode (Hip.free dptr)
    fun _ => []
  streamCreate : AgreesCall s HipOp.streamCreate [] Hip.streamCreate
    fun h => (Hip.StreamCreateResponse.mk h).encode

theorem hipAgrees (s : Session) : HipAgrees s where
  malloc size :=
    agreesCall_handle (B := HipBackend) s (HipRequest.malloc ⟨size⟩) rfl nofun rfl (fun _ => rfl)
      fun h => ⟨_, Hip.MallocResponse.decode_exact.self ⟨h⟩ trivial, rfl⟩
  free dptr := agreesCall_ack (B := HipBackend) s (HipRequest.free ⟨dptr⟩) rfl nofun rfl
  streamCreate :=
    agreesCall_handle (B := HipBackend) s (HipRequest.streamCreate) rfl nofun rfl (fun _ => rfl)
      fun h => ⟨_, Hip.StreamCreateResponse.decode_exact.self ⟨h⟩ trivial, rfl⟩

structure L0Agrees (s : Session) : Prop where
  contextCreate : AgreesCall s L0Op.contextCreate [] L0.contextCreate
    fun h => (L0.ContextCreateResponse.mk h).encode
  memAllocDevice : ∀ context size, AgreesCall s L0Op.memAllocDevice
    (L0.MemAllocDeviceRequest.mk context size).encode (L0.memAllocDevice context size)
    fun h => (L0.MemAllocDeviceResponse.mk h).encode
  memFree : ∀ ptr, AgreesCall s L0Op.memFree (L0.MemFreeRequest.mk ptr).encode (L0.memFree ptr)
    fun _ => []

theorem l0Agrees (s : Session) : L0Agrees s where
  contextCreate :=
    agreesCall_handle (B := L0Backend) s (L0Request.contextCreate) rfl nofun rfl (fun _ => rfl)
      fun h => ⟨_, L0.ContextCreateResponse.decode_exact.self ⟨h⟩ trivial, rfl⟩
  memAllocDevice context size :=
    agreesCall_handle (B := L0Backend) s (L0Request.memAllocDevice ⟨context, size⟩)
      rfl nofun rfl (fun _ => rfl)
      fun h => ⟨_, L0.MemAllocDeviceResponse.decode_exact.self ⟨h⟩ trivial, rfl⟩
  memFree ptr := agreesCall_ack (B := L0Backend) s (L0Request.memFree ⟨ptr⟩) rfl nofun rfl

structure VideoAgrees (s : Session) : Prop where
  createDecodeSession : ∀ codec width height, AgreesCall s VideoOp.createDecodeSession
    (Video.CreateDecodeSessionRequest.mk codec width height).encode
    (Video.createDecodeSession codec width height)
    fun h => (Video.CreateDecodeSessionResponse.mk h).encode
  decodeFrame : ∀ session len, AgreesCall s VideoOp.decodeFrame
    (Video.DecodeFrameRequest.mk session len).encode (Video.decodeFrame session len)
    fun n => (Video.DecodeFrameResponse.mk n).encode
  destroySession : ∀ session, AgreesCall s VideoOp.destroySession
    (Video.DestroySessionRequest.mk session).encode (Video.destroySession session) fun _ => []

theorem videoAgrees (s : Session) : VideoAgrees s where
  createDecodeSession codec width height :=
    agreesCall_handle (B := VideoBackend) s (VideoRequest.createDecodeSession ⟨codec, width, height⟩)
      rfl nofun rfl (fun _ => rfl)
      fun h => ⟨_, Video.CreateDecodeSessionResponse.decode_exact.self ⟨h⟩ trivial, rfl⟩
  decodeFrame session len :=
    agreesCall_word (B := VideoBackend) s (VideoRequest.decodeFrame ⟨session, len⟩)
      rfl nofun rfl (fun _ => rfl)
      fun n => ⟨_, Video.DecodeFrameResponse.decode_exact.self ⟨n⟩ trivial, rfl⟩
  destroySession session :=
    agreesCall_ack (B := VideoBackend) s (VideoRequest.destroySession ⟨session⟩) rfl nofun rfl

structure WgpuAgrees (s : Session) : Prop where
  requestDevice : AgreesCall s WgpuOp.requestDevice [] Wgpu.requestDevice
    fun h => (Wgpu.RequestDeviceResponse.mk h).encode
  createBuffer : ∀ device size usage, AgreesCall s WgpuOp.createBuffer
    (Wgpu.CreateBufferRequest.mk device size usage).encode (Wgpu.createBuffer device size usage)
    fun h => (Wgpu.CreateBufferResponse.mk h).encode
  destroyBuffer : ∀ buffer, AgreesCall s WgpuOp.destroyBuffer
    (Wgpu.DestroyBufferRequest.mk buffer).encode (Wgpu.destroyBuffer buffer) fun _ => []

theorem wgpuAgrees (s : Session) : WgpuAgrees s where
  requestDevice :=
    agreesCall_handle (B := WebGpuBackend) s (WgpuRequest.requestDevice)
      rfl nofun rfl (fun _ => rfl)
      fun h => ⟨_, Wgpu.RequestDeviceResponse.decode_exact.self ⟨h⟩ trivial, rfl⟩
  createBuffer device size usage :=
    agreesCall_handle (B := WebGpuBackend) s (WgpuRequest.createBuffer ⟨device, size, usage⟩)
      rfl nofun rfl (fun _ => rfl)
      fun h => ⟨_, Wgpu.CreateBufferResponse.decode_exact.self ⟨h⟩ trivial, rfl⟩
  destroyBuffer buffer :=
    agreesCall_ack (B := WebGpuBackend) s (WgpuRequest.destroyBuffer ⟨buffer⟩) rfl nofun rfl

structure OptixAgrees (s : Session) : Prop where
  contextCreate : AgreesCall s OptixOp.contextCreate [] Optix.contextCreate
    fun h => (Optix.ContextCreateResponse.mk h).encode
  pipelineCreate : ∀ context, AgreesCall s OptixOp.pipelineCreate
    (Optix.PipelineCreateRequest.mk context).encode (Optix.pipelineCreate context)
    fun h => (Optix.PipelineCreateResponse.mk h).encode
  destroy : ∀ h, AgreesCall s OptixOp.destroy (Optix.DestroyRequest.mk h).encode (Optix.destroy h)
    fun _ => []

theorem optixAgrees (s : Session) : OptixAgrees s where
  contextCreate :=
    agreesCall_handle (B := OptixBackend) s (OptixRequest.contextCreate)
      rfl nofun rfl (fun _ => rfl)
      fun h => ⟨_, Optix.ContextCreateResponse.decode_exact.self ⟨h⟩ trivial, rfl⟩
  pipelineCreate context :=
    agreesCall_handle (B := OptixBackend) s (OptixRequest.pipelineCreate ⟨context⟩)
      rfl nofun rfl (fun _ => rfl)
      fun h => ⟨_, Optix.PipelineCreateResponse.decode_exact.self ⟨h⟩ trivial, rfl⟩
  destroy h := agreesCall_ack (B := OptixBackend) s (OptixRequest.destroy ⟨h⟩) rfl nofun rfl

structure SyclAgrees (s : Session) : Prop where
  queueCreate : AgreesCall s SyclOp.queueCreate [] Sycl.queueCreate
    fun h => (Sycl.QueueCreateResponse.mk h).encode
  mallocDevice : ∀ queue size, AgreesCall s SyclOp.mallocDevice
    (Sycl.MallocDeviceRequest.mk queue size).encode (Sycl.mallocDevice queue size)
    fun h => (Sycl.MallocDeviceResponse.mk h).encode
  free : ∀ ptr, AgreesCall s SyclOp.free (Sycl.FreeRequest.mk ptr).encode (Sycl.free ptr)
    fun _ => []

theorem syclAgrees (s : Session) : SyclAgrees s where
  queueCreate :=
    agreesCall_handle (B := SyclBackend) s (SyclRequest.queueCreate) rfl nofun rfl (fun _ => rfl)
      fun h => ⟨_, Sycl.QueueCreateResponse.decode_exact.self ⟨h⟩ trivial, rfl⟩
  mallocDevice queue size :=
    agreesCall_handle (B := SyclBackend) s (SyclRequest.mallocDevice ⟨queue, size⟩)
      rfl nofun rfl (fun _ => rfl)
      fun h => ⟨_, Sycl.MallocDeviceResponse.decode_exact.self ⟨h⟩ trivial, rfl⟩
  free ptr := agreesCall_ack (B := SyclBackend) s (SyclRequest.free ⟨ptr⟩) rfl nofun rfl

structure AmfAgrees (s : Session) : Prop where
  createEncoder : ∀ codec width height, AgreesCall s AmfOp.createEncoder
    (Amf.CreateEncoderRequest.mk codec width height).encode (Amf.createEncoder codec width height)
    fun h => (Amf.CreateEncoderResponse.mk h).encode
  encodeFrame : ∀ encoder len, AgreesCall s AmfOp.encodeFrame
    (Amf.EncodeFrameRequest.mk encoder len).encode (Amf.encodeFrame encoder len)
    fun n => (Amf.EncodeFrameResponse.mk n).encode
  destroyEncoder : ∀ encoder, AgreesCall s AmfOp.destroyEncoder
    (Amf.DestroyEncoderRequest.mk encoder).encode (Amf.destroyEncoder encoder) fun _ => []

theorem amfAgrees (s : Session) : AmfAgrees s where
  createEncoder codec width height :=
    agreesCall_handle (B := AmfBackend) s (AmfRequest.createEncoder ⟨codec, width, height⟩)
      rfl nofun rfl (fun _ => rfl)
      fun h => ⟨_, Amf.CreateEncoderResponse.decode_exact.self ⟨h⟩ trivial, rfl⟩
  encodeFrame encoder len :=
    agreesCall_word (B := AmfBackend) s (AmfRequest.encodeFrame ⟨encoder, len⟩)
      rfl nofun rfl (fun _ => rfl)
      fun n => ⟨_, Amf.EncodeFrameResponse.decode_exact.self ⟨n⟩ trivial, rfl⟩
  destroyEncoder encoder :=
    agreesCall_ack (B := AmfBackend) s (AmfRequest.destroyEncoder ⟨encoder⟩) rfl nofun rfl

theorem handshake_agrees (s : Session) :
    Agrees s handshake (requestFrame CoreOp.hello 1 1 hello.encode) fun w =>
      w.sessionId = s.sessionId ∧
        w.maxFrameBody = (s.handle (requestFrame CoreOp.hello 1 1 hello.encode)).2.maxFrameBody := by
  refine Agrees.of_replies fun reply s' hs => ?_
  obtain ⟨hid, header, rfl, hop, hk⟩ := s.answered_hello s'
    (requestHeader CoreOp.hello 1 1 hello.encode) hello.encode reply rfl hs
  refine ⟨s'.welcome, ?_, hid, ?_⟩
  · rw [← hop, readReply_encodeFrame header _ hk]
    exact congrArg fromProtocol (Welcome.decode_exact.self s'.welcome trivial)
  · rw [hs]
    rfl

theorem noop_agrees (s : Session) (reqId : UInt32) (seq : UInt64) :
    Agrees s (noop reqId seq) (requestFrame CoreOp.noop reqId seq []) fun _ => True := by
  refine Agrees.of_replies fun reply s' hs => ?_
  obtain ⟨header, rfl, hop, hk⟩ :=
    s.answered_noop s' (requestHeader CoreOp.noop reqId seq []) [] reply rfl hs
  refine ⟨(), ?_, trivial⟩
  rw [← hop, readReply_encodeFrame header _ hk]
  rfl

/-- Every shim of the client against the session. -/
structure ShimsAgree (s : Session) : Prop where
  handshake : Agrees s handshake (requestFrame CoreOp.hello 1 1 hello.encode) fun w =>
    w.sessionId = s.sessionId ∧
      w.maxFrameBody = (s.handle (requestFrame CoreOp.hello 1 1 hello.encode)).2.maxFrameBody
  noop : ∀ reqId seq, Agrees s (noop reqId seq) (requestFrame CoreOp.noop reqId seq []) fun _ => True
  vk : VkAgrees s
  gl : GlAgrees s
  cuda : CudaAgrees s
  cl : ClAgrees s
  hip : HipAgrees s
  l0 : L0Agrees s
  video : VideoAgrees s
  wgpu : WgpuAgrees s
  optix : OptixAgrees s
  sycl : SyclAgrees s
  amf : AmfAgrees s

/-- In every session, whatever backends it has and whatever state they are in, every shim
gets back exactly what the session's answer was made from. -/
theorem shims_agree (s : Session) : ShimsAgree s where
  handshake := handshake_agrees s
  noop := noop_agrees s
  vk := vkAgrees s
  gl := glAgrees s
  cuda := cudaAgrees s
  cl := clAgrees s
  hip := hipAgrees s
  l0 := l0Agrees s
  video := videoAgrees s
  wgpu := wgpuAgrees s
  optix := optixAgrees s
  sycl := syclAgrees s
  amf := amfAgrees s

end Graftx.Client
