import Graftx.Protocol.Reader

/-! Vulkan request and response bodies, in wire order. Requests whose reply is an
empty acknowledgement have no response body. -/
namespace Graftx.Protocol
open Lib.LittleEndian Lib.ExactReader Reader

namespace Vk

structure CreateInstanceRequest where
  appApiVersion : UInt32

def CreateInstanceRequest.encode (x : CreateInstanceRequest) : Bytes := le32 x.appApiVersion

def CreateInstanceRequest.decode :
    Bytes → Except ProtocolError CreateInstanceRequest := ReadM.decode do
  return { appApiVersion := ← Reader.u32 }

theorem CreateInstanceRequest.decode_exact : ExactBody decode encode 4 :=
  exactBody <| Reads.one u32_takes mk appApiVersion (fun _ => rfl) fun _ => rfl

structure CreateInstanceResponse where
  inst : Handle

def CreateInstanceResponse.encode (x : CreateInstanceResponse) : Bytes := le64 x.inst.raw

def CreateInstanceResponse.decode :
    Bytes → Except ProtocolError CreateInstanceResponse := ReadM.decode do
  return { inst := ← Reader.handle }

theorem CreateInstanceResponse.decode_exact : ExactBody decode encode 8 :=
  exactBody <| Reads.one handle_takes mk inst (fun _ => rfl) fun _ => rfl

structure EnumeratePhysicalDevicesRequest where
  inst : Handle

def EnumeratePhysicalDevicesRequest.encode (x : EnumeratePhysicalDevicesRequest) : Bytes :=
  le64 x.inst.raw

def EnumeratePhysicalDevicesRequest.decode :
    Bytes → Except ProtocolError EnumeratePhysicalDevicesRequest := ReadM.decode do
  return { inst := ← Reader.handle }

theorem EnumeratePhysicalDevicesRequest.decode_exact : ExactBody decode encode 8 :=
  exactBody <| Reads.one handle_takes mk inst (fun _ => rfl) fun _ => rfl

structure EnumeratePhysicalDevicesResponse where
  devices : List Handle

def EnumeratePhysicalDevicesResponse.encode (x : EnumeratePhysicalDevicesResponse) : Bytes :=
  le32 (UInt32.ofNat x.devices.length) ++ x.devices.flatMap fun device => le64 device.raw

def EnumeratePhysicalDevicesResponse.decode :
    Bytes → Except ProtocolError EnumeratePhysicalDevicesResponse := ReadM.decode do
  let count ← Reader.u32
  return { devices := ← many Reader.handle count.toNat }

def EnumeratePhysicalDevicesResponse.count (b : Bytes) : Nat := leValue (b.take 4)

theorem EnumeratePhysicalDevicesResponse.count_lt (b : Bytes) : count b < 2 ^ 32 := by
  have hb := leValue_lt (b.take 4)
  have h4 : (256 : Nat) ^ (b.take 4).length ≤ 256 ^ 4 :=
    Nat.pow_le_pow_right (by decide) (List.length_take_le 4 b)
  simp only [count]
  omega

/-- Longer lists do not fit the count field, which would then wrap. -/
def EnumeratePhysicalDevicesResponse.Fits (x : EnumeratePhysicalDevicesResponse) : Prop :=
  x.devices.length < 2 ^ 32

theorem EnumeratePhysicalDevicesResponse.count_le32 (n : UInt32) (t : Bytes) :
    UInt32.ofNat (count (le32 n ++ t)) = n := by
  have h : (le32 n ++ t).take 4 = le32 n := by
    rw [← leBytes_length 4 n.toNat, le32, List.take_left]
  rw [count, h, le32, leValue_leBytes_of_lt 4 _ n.toNat_lt, UInt32.ofNat_toNat]

theorem EnumeratePhysicalDevicesResponse.devices_takes (n : UInt32) :
    Reader.Takes (fun x => Fits x ∧ UInt32.ofNat x.devices.length = n)
      (many Reader.handle n.toNat >>= fun devices => pure { devices })
      (fun x => x.devices.flatMap fun device => le64 device.raw) (n.toNat * 8) := by
  have hn := n.toNat_lt
  have hlen (x : EnumeratePhysicalDevicesResponse) :
      Fits x ∧ UInt32.ofNat x.devices.length = n ↔ x.devices.length = n.toNat := by
    constructor
    · rintro ⟨hx, rfl⟩
      rw [UInt32.toNat_ofNat_of_lt' hx]
    · intro hx
      exact ⟨by rw [Fits, hx]; exact hn, by rw [hx, UInt32.ofNat_toNat]⟩
  refine ((handle_takes.many n.toNat).bind devices (fun x hx => (hlen x).mp hx) fun ds hds =>
    Reads.pure fun x => ?_).congr fun _ => List.append_nil _
  constructor
  · rintro ⟨-, rfl⟩
    rfl
  · rintro rfl
    exact ⟨(hlen _).mpr hds, rfl⟩

theorem EnumeratePhysicalDevicesResponse.decode_exact :
    Exact decode encode Fits (fun b => 4 + 8 * count b) ProtocolError.unexpectedEof := by
  have hcount (b : Bytes) : (UInt32.ofNat (count b)).toNat = count b :=
    UInt32.toNat_ofNat_of_lt' (count_lt b)
  have h := u32_takes.exact_bind (fun x => UInt32.ofNat (devices x).length)
    (fun b => UInt32.ofNat (count b)) count_le32 devices_takes Reader.new Reader.rest_new
  simp only [hcount, Nat.mul_comm _ 8] at h
  exact h

structure CreateDeviceRequest where
  physicalDevice : Handle

def CreateDeviceRequest.encode (x : CreateDeviceRequest) : Bytes := le64 x.physicalDevice.raw

def CreateDeviceRequest.decode : Bytes → Except ProtocolError CreateDeviceRequest := ReadM.decode do
  return { physicalDevice := ← Reader.handle }

theorem CreateDeviceRequest.decode_exact : ExactBody decode encode 8 :=
  exactBody <| Reads.one handle_takes mk physicalDevice (fun _ => rfl) fun _ => rfl

structure CreateDeviceResponse where
  device : Handle

def CreateDeviceResponse.encode (x : CreateDeviceResponse) : Bytes := le64 x.device.raw

def CreateDeviceResponse.decode :
    Bytes → Except ProtocolError CreateDeviceResponse := ReadM.decode do
  return { device := ← Reader.handle }

theorem CreateDeviceResponse.decode_exact : ExactBody decode encode 8 :=
  exactBody <| Reads.one handle_takes mk device (fun _ => rfl) fun _ => rfl

structure GetDeviceQueueRequest where
  device : Handle
  queueFamilyIndex : UInt32
  queueIndex : UInt32

def GetDeviceQueueRequest.encode (x : GetDeviceQueueRequest) : Bytes :=
  le64 x.device.raw ++ le32 x.queueFamilyIndex ++ le32 x.queueIndex

def GetDeviceQueueRequest.decode :
    Bytes → Except ProtocolError GetDeviceQueueRequest := ReadM.decode do
  return { device := ← Reader.handle, queueFamilyIndex := ← Reader.u32, queueIndex := ← Reader.u32 }

theorem GetDeviceQueueRequest.decode_exact : ExactBody decode encode 16 :=
  exactBody <| Reads.three handle_takes u32_takes u32_takes mk device queueFamilyIndex queueIndex
    (fun _ => rfl) fun _ _ _ => ⟨rfl, rfl, rfl⟩

structure GetDeviceQueueResponse where
  queue : Handle

def GetDeviceQueueResponse.encode (x : GetDeviceQueueResponse) : Bytes := le64 x.queue.raw

def GetDeviceQueueResponse.decode :
    Bytes → Except ProtocolError GetDeviceQueueResponse := ReadM.decode do
  return { queue := ← Reader.handle }

theorem GetDeviceQueueResponse.decode_exact : ExactBody decode encode 8 :=
  exactBody <| Reads.one handle_takes mk queue (fun _ => rfl) fun _ => rfl

structure AllocateMemoryRequest where
  device : Handle
  size : UInt64

def AllocateMemoryRequest.encode (x : AllocateMemoryRequest) : Bytes :=
  le64 x.device.raw ++ le64 x.size

def AllocateMemoryRequest.decode :
    Bytes → Except ProtocolError AllocateMemoryRequest := ReadM.decode do
  return { device := ← Reader.handle, size := ← Reader.u64 }

theorem AllocateMemoryRequest.decode_exact : ExactBody decode encode 16 :=
  exactBody <| Reads.two handle_takes u64_takes mk device size (fun _ => rfl) fun _ _ => ⟨rfl, rfl⟩

structure AllocateMemoryResponse where
  memory : Handle

def AllocateMemoryResponse.encode (x : AllocateMemoryResponse) : Bytes := le64 x.memory.raw

def AllocateMemoryResponse.decode :
    Bytes → Except ProtocolError AllocateMemoryResponse := ReadM.decode do
  return { memory := ← Reader.handle }

theorem AllocateMemoryResponse.decode_exact : ExactBody decode encode 8 :=
  exactBody <| Reads.one handle_takes mk memory (fun _ => rfl) fun _ => rfl

structure CreateBufferRequest where
  device : Handle
  size : UInt64
  usage : UInt32

def CreateBufferRequest.encode (x : CreateBufferRequest) : Bytes :=
  le64 x.device.raw ++ le64 x.size ++ le32 x.usage

def CreateBufferRequest.decode : Bytes → Except ProtocolError CreateBufferRequest := ReadM.decode do
  return { device := ← Reader.handle, size := ← Reader.u64, usage := ← Reader.u32 }

theorem CreateBufferRequest.decode_exact : ExactBody decode encode 20 :=
  exactBody <| Reads.three handle_takes u64_takes u32_takes mk device size usage
    (fun _ => rfl) fun _ _ _ => ⟨rfl, rfl, rfl⟩

structure CreateBufferResponse where
  buffer : Handle

def CreateBufferResponse.encode (x : CreateBufferResponse) : Bytes := le64 x.buffer.raw

def CreateBufferResponse.decode :
    Bytes → Except ProtocolError CreateBufferResponse := ReadM.decode do
  return { buffer := ← Reader.handle }

theorem CreateBufferResponse.decode_exact : ExactBody decode encode 8 :=
  exactBody <| Reads.one handle_takes mk buffer (fun _ => rfl) fun _ => rfl

structure BindBufferMemoryRequest where
  buffer : Handle
  memory : Handle
  offset : UInt64

def BindBufferMemoryRequest.encode (x : BindBufferMemoryRequest) : Bytes :=
  le64 x.buffer.raw ++ le64 x.memory.raw ++ le64 x.offset

def BindBufferMemoryRequest.decode :
    Bytes → Except ProtocolError BindBufferMemoryRequest := ReadM.decode do
  return { buffer := ← Reader.handle, memory := ← Reader.handle, offset := ← Reader.u64 }

theorem BindBufferMemoryRequest.decode_exact : ExactBody decode encode 24 :=
  exactBody <| Reads.three handle_takes handle_takes u64_takes mk buffer memory offset
    (fun _ => rfl) fun _ _ _ => ⟨rfl, rfl, rfl⟩

structure CreateCommandPoolRequest where
  device : Handle
  queueFamilyIndex : UInt32

def CreateCommandPoolRequest.encode (x : CreateCommandPoolRequest) : Bytes :=
  le64 x.device.raw ++ le32 x.queueFamilyIndex

def CreateCommandPoolRequest.decode :
    Bytes → Except ProtocolError CreateCommandPoolRequest := ReadM.decode do
  return { device := ← Reader.handle, queueFamilyIndex := ← Reader.u32 }

theorem CreateCommandPoolRequest.decode_exact : ExactBody decode encode 12 :=
  exactBody <| Reads.two handle_takes u32_takes mk device queueFamilyIndex
    (fun _ => rfl) fun _ _ => ⟨rfl, rfl⟩

structure CreateCommandPoolResponse where
  pool : Handle

def CreateCommandPoolResponse.encode (x : CreateCommandPoolResponse) : Bytes := le64 x.pool.raw

def CreateCommandPoolResponse.decode :
    Bytes → Except ProtocolError CreateCommandPoolResponse := ReadM.decode do
  return { pool := ← Reader.handle }

theorem CreateCommandPoolResponse.decode_exact : ExactBody decode encode 8 :=
  exactBody <| Reads.one handle_takes mk pool (fun _ => rfl) fun _ => rfl

structure AllocateCommandBufferRequest where
  pool : Handle

def AllocateCommandBufferRequest.encode (x : AllocateCommandBufferRequest) : Bytes :=
  le64 x.pool.raw

def AllocateCommandBufferRequest.decode :
    Bytes → Except ProtocolError AllocateCommandBufferRequest := ReadM.decode do
  return { pool := ← Reader.handle }

theorem AllocateCommandBufferRequest.decode_exact : ExactBody decode encode 8 :=
  exactBody <| Reads.one handle_takes mk pool (fun _ => rfl) fun _ => rfl

structure AllocateCommandBufferResponse where
  commandBuffer : Handle

def AllocateCommandBufferResponse.encode (x : AllocateCommandBufferResponse) : Bytes :=
  le64 x.commandBuffer.raw

def AllocateCommandBufferResponse.decode :
    Bytes → Except ProtocolError AllocateCommandBufferResponse := ReadM.decode do
  return { commandBuffer := ← Reader.handle }

theorem AllocateCommandBufferResponse.decode_exact : ExactBody decode encode 8 :=
  exactBody <| Reads.one handle_takes mk commandBuffer (fun _ => rfl) fun _ => rfl

structure QueueSubmitRequest where
  queue : Handle
  commandBuffer : Handle

def QueueSubmitRequest.encode (x : QueueSubmitRequest) : Bytes :=
  le64 x.queue.raw ++ le64 x.commandBuffer.raw

def QueueSubmitRequest.decode : Bytes → Except ProtocolError QueueSubmitRequest := ReadM.decode do
  return { queue := ← Reader.handle, commandBuffer := ← Reader.handle }

theorem QueueSubmitRequest.decode_exact : ExactBody decode encode 16 :=
  exactBody <| Reads.two handle_takes handle_takes mk queue commandBuffer
    (fun _ => rfl) fun _ _ => ⟨rfl, rfl⟩

structure CmdCopyBufferRequest where
  commandBuffer : Handle
  src : Handle
  dst : Handle
  size : UInt64

def CmdCopyBufferRequest.encode (x : CmdCopyBufferRequest) : Bytes :=
  le64 x.commandBuffer.raw ++ le64 x.src.raw ++ le64 x.dst.raw ++ le64 x.size

def CmdCopyBufferRequest.decode :
    Bytes → Except ProtocolError CmdCopyBufferRequest := ReadM.decode do
  return {
    commandBuffer := ← Reader.handle, src := ← Reader.handle, dst := ← Reader.handle,
    size := ← Reader.u64 }

theorem CmdCopyBufferRequest.decode_exact : ExactBody decode encode 32 := by
  refine exactBody <| Reads.congr (handle_takes.field commandBuffer fun _ =>
    handle_takes.field src fun _ => handle_takes.field dst fun _ => u64_takes.field size fun _ =>
      Reads.pure fun x => ?_) fun x => ?_
  · cases x
    simp [and_assoc]
  · simp [encode]

structure CmdDrawRequest where
  commandBuffer : Handle
  vertexCount : UInt32
  instanceCount : UInt32

def CmdDrawRequest.encode (x : CmdDrawRequest) : Bytes :=
  le64 x.commandBuffer.raw ++ le32 x.vertexCount ++ le32 x.instanceCount

def CmdDrawRequest.decode : Bytes → Except ProtocolError CmdDrawRequest := ReadM.decode do
  return {
    commandBuffer := ← Reader.handle, vertexCount := ← Reader.u32, instanceCount := ← Reader.u32 }

theorem CmdDrawRequest.decode_exact : ExactBody decode encode 16 :=
  exactBody <| Reads.three handle_takes u32_takes u32_takes mk commandBuffer vertexCount instanceCount
    (fun _ => rfl) fun _ _ _ => ⟨rfl, rfl, rfl⟩

structure DestroyBufferRequest where
  buffer : Handle

def DestroyBufferRequest.encode (x : DestroyBufferRequest) : Bytes := le64 x.buffer.raw

def DestroyBufferRequest.decode :
    Bytes → Except ProtocolError DestroyBufferRequest := ReadM.decode do
  return { buffer := ← Reader.handle }

theorem DestroyBufferRequest.decode_exact : ExactBody decode encode 8 :=
  exactBody <| Reads.one handle_takes mk buffer (fun _ => rfl) fun _ => rfl

structure FreeMemoryRequest where
  memory : Handle

def FreeMemoryRequest.encode (x : FreeMemoryRequest) : Bytes := le64 x.memory.raw

def FreeMemoryRequest.decode : Bytes → Except ProtocolError FreeMemoryRequest := ReadM.decode do
  return { memory := ← Reader.handle }

theorem FreeMemoryRequest.decode_exact : ExactBody decode encode 8 :=
  exactBody <| Reads.one handle_takes mk memory (fun _ => rfl) fun _ => rfl

structure DestroyCommandPoolRequest where
  pool : Handle

def DestroyCommandPoolRequest.encode (x : DestroyCommandPoolRequest) : Bytes := le64 x.pool.raw

def DestroyCommandPoolRequest.decode :
    Bytes → Except ProtocolError DestroyCommandPoolRequest := ReadM.decode do
  return { pool := ← Reader.handle }

theorem DestroyCommandPoolRequest.decode_exact : ExactBody decode encode 8 :=
  exactBody <| Reads.one handle_takes mk pool (fun _ => rfl) fun _ => rfl

end Vk

end Graftx.Protocol
