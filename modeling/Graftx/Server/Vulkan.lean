import Graftx.Server.Backend
import Graftx.Protocol.Vk

/-! The Vulkan backend: eight tables and fifteen opcodes. It tracks object lifetimes
only; no driver is called. Parents are looked up when a child is made and recorded in
it, and not consulted again. -/
namespace Graftx.Server
open Graftx.Protocol Graftx.Protocol.Vk Graftx.Handles
open EnumeratePhysicalDevicesResponse (Fits)

structure InstanceState where
  created : Bool

structure PhysDevState where
  parent : Handle

structure DeviceState where
  physicalDevice : Handle

structure QueueState where
  device : Handle
  family : UInt32
  index : UInt32

structure MemoryState where
  device : Handle
  size : UInt64

/-- `bound` is the memory and the offset of the one bind a buffer may have. -/
structure BufferState where
  device : Handle
  size : UInt64
  usage : UInt32
  bound : Option (Handle × UInt64)

structure CommandPoolState where
  device : Handle
  queueFamilyIndex : UInt32

structure CommandBufferState where
  pool : Handle
  recorded : UInt32

structure VulkanBackend where
  instances : HandleTable InstanceState
  physicalDevices : HandleTable PhysDevState
  devices : HandleTable DeviceState
  queues : HandleTable QueueState
  memories : HandleTable MemoryState
  buffers : HandleTable BufferState
  commandPools : HandleTable CommandPoolState
  commandBuffers : HandleTable CommandBufferState

inductive VkFamily where
  | inst | physicalDevice | device | queue | deviceMemory | buffer | commandPool | commandBuffer
  deriving DecidableEq, Repr

namespace VkFamily

def kind : VkFamily → UInt8
  | .inst => 1
  | .physicalDevice => 2
  | .device => 3
  | .queue => 4
  | .deviceMemory => 5
  | .buffer => 6
  | .commandPool => 7
  | .commandBuffer => 8

abbrev Object : VkFamily → Type
  | .inst => InstanceState
  | .physicalDevice => PhysDevState
  | .device => DeviceState
  | .queue => QueueState
  | .deviceMemory => MemoryState
  | .buffer => BufferState
  | .commandPool => CommandPoolState
  | .commandBuffer => CommandBufferState

end VkFamily

namespace VulkanBackend

def new : VulkanBackend := ⟨.new, .new, .new, .new, .new, .new, .new, .new⟩

@[simp] def table (b : VulkanBackend) : (f : VkFamily) → HandleTable f.Object
  | .inst => b.instances
  | .physicalDevice => b.physicalDevices
  | .device => b.devices
  | .queue => b.queues
  | .deviceMemory => b.memories
  | .buffer => b.buffers
  | .commandPool => b.commandPools
  | .commandBuffer => b.commandBuffers

def setTable (b : VulkanBackend) : (f : VkFamily) → HandleTable f.Object → VulkanBackend
  | .inst, t => { b with instances := t }
  | .physicalDevice, t => { b with physicalDevices := t }
  | .device, t => { b with devices := t }
  | .queue, t => { b with queues := t }
  | .deviceMemory, t => { b with memories := t }
  | .buffer, t => { b with buffers := t }
  | .commandPool, t => { b with commandPools := t }
  | .commandBuffer, t => { b with commandBuffers := t }

end VulkanBackend

instance : Tables VulkanBackend where
  Family := VkFamily
  decFamily := inferInstance
  Object := VkFamily.Object
  kind := VkFamily.kind
  kind_inj f g h := by cases f <;> cases g <;> first | rfl | exact absurd h (by decide)
  empty := .new
  table := VulkanBackend.table
  setTable := VulkanBackend.setTable
  table_empty f := by cases f <;> rfl
  table_set_self b f t := by cases f <;> rfl
  table_set_ne b f t g h := by cases f <;> cases g <;> first | rfl | exact absurd rfl h

@[simp] theorem table_vulkan (b : VulkanBackend) (f : VkFamily) : Tables.table b f = b.table f := rfl

inductive VkRequest where
  | createInstance (req : CreateInstanceRequest)
  | enumeratePhysicalDevices (req : EnumeratePhysicalDevicesRequest)
  | createDevice (req : CreateDeviceRequest)
  | getDeviceQueue (req : GetDeviceQueueRequest)
  | allocateMemory (req : AllocateMemoryRequest)
  | createBuffer (req : CreateBufferRequest)
  | bindBufferMemory (req : BindBufferMemoryRequest)
  | createCommandPool (req : CreateCommandPoolRequest)
  | allocateCommandBuffer (req : AllocateCommandBufferRequest)
  | queueSubmit (req : QueueSubmitRequest)
  | cmdCopyBuffer (req : CmdCopyBufferRequest)
  | cmdDraw (req : CmdDrawRequest)
  | destroyBuffer (req : DestroyBufferRequest)
  | freeMemory (req : FreeMemoryRequest)
  | destroyCommandPool (req : DestroyCommandPoolRequest)

def VkRequest.decode (opcode : UInt32) (body : Bytes) : Except ProtocolError VkRequest :=
  if opcode = VkOp.createInstance then .createInstance <$> CreateInstanceRequest.decode body
  else if opcode = VkOp.enumeratePhysicalDevices then
    .enumeratePhysicalDevices <$> EnumeratePhysicalDevicesRequest.decode body
  else if opcode = VkOp.createDevice then .createDevice <$> CreateDeviceRequest.decode body
  else if opcode = VkOp.getDeviceQueue then .getDeviceQueue <$> GetDeviceQueueRequest.decode body
  else if opcode = VkOp.allocateMemory then .allocateMemory <$> AllocateMemoryRequest.decode body
  else if opcode = VkOp.createBuffer then .createBuffer <$> CreateBufferRequest.decode body
  else if opcode = VkOp.bindBufferMemory then
    .bindBufferMemory <$> BindBufferMemoryRequest.decode body
  else if opcode = VkOp.createCommandPool then
    .createCommandPool <$> CreateCommandPoolRequest.decode body
  else if opcode = VkOp.allocateCommandBuffer then
    .allocateCommandBuffer <$> AllocateCommandBufferRequest.decode body
  else if opcode = VkOp.queueSubmit then .queueSubmit <$> QueueSubmitRequest.decode body
  else if opcode = VkOp.cmdCopyBuffer then .cmdCopyBuffer <$> CmdCopyBufferRequest.decode body
  else if opcode = VkOp.cmdDraw then .cmdDraw <$> CmdDrawRequest.decode body
  else if opcode = VkOp.destroyBuffer then .destroyBuffer <$> DestroyBufferRequest.decode body
  else if opcode = VkOp.freeMemory then .freeMemory <$> FreeMemoryRequest.decode body
  else if opcode = VkOp.destroyCommandPool then
    .destroyCommandPool <$> DestroyCommandPoolRequest.decode body
  else .error (.unknownOpcode opcode)

def CommandBufferState.record (state : CommandBufferState) : Option (CommandBufferState × Bytes) :=
  some ({ state with recorded := saturatingSucc state.recorded }, [])

/-- Bind an unbound buffer; a second bind is declined. -/
def BufferState.bind (state : BufferState) (memory : Handle) (offset : UInt64) :
    Option (BufferState × Bytes) :=
  if state.bound.isNone then some ({ state with bound := some (memory, offset) }, []) else none

def VulkanBackend.exec (b : VulkanBackend) (opcode : UInt32) : VkRequest → Answer VulkanBackend
  | .createInstance _ =>
    create b VkFamily.inst { created := true } fun inst =>
      CreateInstanceResponse.encode { inst }
  | .enumeratePhysicalDevices req =>
    if ¬ (b.instances.get req.inst).any (·.created) then refuse b opcode
    else create b VkFamily.physicalDevice { parent := req.inst } fun device =>
      EnumeratePhysicalDevicesResponse.encode { devices := [device] }
  | .createDevice req =>
    if (b.physicalDevices.get req.physicalDevice).isNone then refuse b opcode
    else create b VkFamily.device { physicalDevice := req.physicalDevice } fun device =>
      CreateDeviceResponse.encode { device }
  | .getDeviceQueue req =>
    if (b.devices.get req.device).isNone then refuse b opcode
    else
      create b VkFamily.queue
        { device := req.device, family := req.queueFamilyIndex, index := req.queueIndex }
        fun queue => GetDeviceQueueResponse.encode { queue }
  | .allocateMemory req =>
    if (b.devices.get req.device).isNone then refuse b opcode
    else create b VkFamily.deviceMemory { device := req.device, size := req.size } fun memory =>
      AllocateMemoryResponse.encode { memory }
  | .createBuffer req =>
    if (b.devices.get req.device).isNone then refuse b opcode
    else
      create b VkFamily.buffer
        { device := req.device, size := req.size, usage := req.usage, bound := none }
        fun buffer => CreateBufferResponse.encode { buffer }
  | .bindBufferMemory req =>
    if (b.memories.get req.memory).isNone then refuse b opcode
    else update b opcode VkFamily.buffer req.buffer fun state => state.bind req.memory req.offset
  | .createCommandPool req =>
    if (b.devices.get req.device).isNone then refuse b opcode
    else
      create b VkFamily.commandPool
        { device := req.device, queueFamilyIndex := req.queueFamilyIndex }
        fun pool => CreateCommandPoolResponse.encode { pool }
  | .allocateCommandBuffer req =>
    if (b.commandPools.get req.pool).isNone then refuse b opcode
    else create b VkFamily.commandBuffer { pool := req.pool, recorded := 0 } fun commandBuffer =>
      AllocateCommandBufferResponse.encode { commandBuffer }
  | .queueSubmit req =>
    if (b.queues.get req.queue).isNone ∨ (b.commandBuffers.get req.commandBuffer).isNone then
      refuse b opcode
    else (.ok [], b)
  | .cmdCopyBuffer req =>
    if (b.buffers.get req.src).isNone ∨ (b.buffers.get req.dst).isNone then refuse b opcode
    else update b opcode VkFamily.commandBuffer req.commandBuffer fun state => state.record
  | .cmdDraw req =>
    update b opcode VkFamily.commandBuffer req.commandBuffer fun state => state.record
  | .destroyBuffer req => destroy b opcode VkFamily.buffer req.buffer
  | .freeMemory req => destroy b opcode VkFamily.deviceMemory req.memory
  | .destroyCommandPool req => destroy b opcode VkFamily.commandPool req.pool

instance : Backend VulkanBackend where
  api := .vulkan
  Request := VkRequest
  decode := VkRequest.decode
  exec := VulkanBackend.exec

namespace VkRequest

/-- Every handle a request carries, with the family of the table it is looked up in. -/
def uses : VkRequest → List (VkFamily × Handle)
  | .createInstance _ => []
  | .enumeratePhysicalDevices req => [(.inst, req.inst)]
  | .createDevice req => [(.physicalDevice, req.physicalDevice)]
  | .getDeviceQueue req => [(.device, req.device)]
  | .allocateMemory req => [(.device, req.device)]
  | .createBuffer req => [(.device, req.device)]
  | .bindBufferMemory req => [(.deviceMemory, req.memory), (.buffer, req.buffer)]
  | .createCommandPool req => [(.device, req.device)]
  | .allocateCommandBuffer req => [(.commandPool, req.pool)]
  | .queueSubmit req => [(.queue, req.queue), (.commandBuffer, req.commandBuffer)]
  | .cmdCopyBuffer req =>
    [(.buffer, req.src), (.buffer, req.dst), (.commandBuffer, req.commandBuffer)]
  | .cmdDraw req => [(.commandBuffer, req.commandBuffer)]
  | .destroyBuffer req => [(.buffer, req.buffer)]
  | .freeMemory req => [(.deviceMemory, req.memory)]
  | .destroyCommandPool req => [(.commandPool, req.pool)]

def effect : VkRequest → Effect VkFamily
  | .createInstance _ => .create .inst
  | .enumeratePhysicalDevices _ => .create .physicalDevice
  | .createDevice _ => .create .device
  | .getDeviceQueue _ => .create .queue
  | .allocateMemory _ => .create .deviceMemory
  | .createBuffer _ => .create .buffer
  | .bindBufferMemory req => .write .buffer req.buffer
  | .createCommandPool _ => .create .commandPool
  | .allocateCommandBuffer _ => .create .commandBuffer
  | .queueSubmit _ => .keep
  | .cmdCopyBuffer req => .write .commandBuffer req.commandBuffer
  | .cmdDraw req => .write .commandBuffer req.commandBuffer
  | .destroyBuffer req => .destroy .buffer req.buffer
  | .freeMemory req => .destroy .deviceMemory req.memory
  | .destroyCommandPool req => .destroy .commandPool req.pool

/-- What must hold of the named objects beyond being live. -/
def extra (b : VulkanBackend) : VkRequest → Bool
  | .enumeratePhysicalDevices req => (b.instances.get req.inst).any (·.created)
  | .bindBufferMemory req => (b.buffers.get req.buffer).any (·.bound.isNone)
  | _ => true

def returned : VkRequest → Bytes → List (VkFamily × Handle)
  | .createInstance _, reply => carried .inst (CreateInstanceResponse.decode reply) (·.inst)
  | .enumeratePhysicalDevices _, reply =>
    match EnumeratePhysicalDevicesResponse.decode reply with
    | .ok x => x.devices.map fun device => (.physicalDevice, device)
    | .error _ => []
  | .createDevice _, reply => carried .device (CreateDeviceResponse.decode reply) (·.device)
  | .getDeviceQueue _, reply => carried .queue (GetDeviceQueueResponse.decode reply) (·.queue)
  | .allocateMemory _, reply =>
    carried .deviceMemory (AllocateMemoryResponse.decode reply) (·.memory)
  | .createBuffer _, reply => carried .buffer (CreateBufferResponse.decode reply) (·.buffer)
  | .createCommandPool _, reply =>
    carried .commandPool (CreateCommandPoolResponse.decode reply) (·.pool)
  | .allocateCommandBuffer _, reply =>
    carried .commandBuffer (AllocateCommandBufferResponse.decode reply) (·.commandBuffer)
  | _, _ => []

theorem exec_did (b : VulkanBackend) (opcode : UInt32) (r : VkRequest) :
    Did returned b r r.effect (b.exec opcode r) := by
  unfold effect VulkanBackend.exec
  cases r with
  | createInstance req =>
    refine .created _ _ _ fun h => ?_
    exact carried_ok _ _ _ _ (CreateInstanceResponse.decode_exact.self _ trivial)
  | enumeratePhysicalDevices req =>
    refine .guard (.created _ _ _ fun h => ?_)
    have hd := EnumeratePhysicalDevicesResponse.decode_exact.self { devices := [h] } (by simp [Fits])
    simp only [returned, hd, List.map_cons, List.map_nil]
  | createDevice req =>
    refine .guard (.created _ _ _ fun h => ?_)
    exact carried_ok _ _ _ _ (CreateDeviceResponse.decode_exact.self _ trivial)
  | getDeviceQueue req =>
    refine .guard (.created _ _ _ fun h => ?_)
    exact carried_ok _ _ _ _ (GetDeviceQueueResponse.decode_exact.self _ trivial)
  | allocateMemory req =>
    refine .guard (.created _ _ _ fun h => ?_)
    exact carried_ok _ _ _ _ (AllocateMemoryResponse.decode_exact.self _ trivial)
  | createBuffer req =>
    refine .guard (.created _ _ _ fun h => ?_)
    exact carried_ok _ _ _ _ (CreateBufferResponse.decode_exact.self _ trivial)
  | bindBufferMemory req => exact .guard (.update _ _ _ _ fun _ _ _ _ => rfl)
  | createCommandPool req =>
    refine .guard (.created _ _ _ fun h => ?_)
    exact carried_ok _ _ _ _ (CreateCommandPoolResponse.decode_exact.self _ trivial)
  | allocateCommandBuffer req =>
    refine .guard (.created _ _ _ fun h => ?_)
    exact carried_ok _ _ _ _ (AllocateCommandBufferResponse.decode_exact.self _ trivial)
  | queueSubmit req => exact .guard (.kept [] rfl)
  | cmdCopyBuffer req => exact .guard (.update _ _ _ _ fun _ _ _ _ => rfl)
  | cmdDraw req => exact .update _ _ _ _ fun _ _ _ _ => rfl
  | destroyBuffer req => exact .destroy _ _ _ rfl
  | freeMemory req => exact .destroy _ _ _ rfl
  | destroyCommandPool req => exact .destroy _ _ _ rfl

theorem bind_ne_none (state : BufferState) (memory : Handle) (offset : UInt64) :
    state.bind memory offset ≠ none ↔ state.bound = none := by
  rw [BufferState.bind]
  split <;> simp_all

theorem exec_ok_iff (b : VulkanBackend) (opcode : UInt32) (r : VkRequest) :
    (∃ reply, (b.exec opcode r).1 = .ok reply) ↔ admitted (fun _ => uses) extra b r := by
  unfold VulkanBackend.exec admitted uses extra
  cases r with
  | enumeratePhysicalDevices req =>
    cases hg : b.instances.get req.inst <;> simp [HandleTable.isLive, hg]
  | bindBufferMemory req =>
    cases hg : b.buffers.get req.buffer with
    | none => simp [hg]
    | some state =>
      have hb := bind_ne_none state req.memory req.offset
      simpa [HandleTable.isLive, hg, Option.isSome_iff_ne_none] using fun _ => hb
  | _ =>
    simp [HandleTable.isLive, Option.isSome_iff_ne_none, CommandBufferState.record, and_assoc]

end VkRequest

instance : Described VulkanBackend where
  uses _ := VkRequest.uses
  extra := VkRequest.extra
  effect _ := VkRequest.effect
  returned := VkRequest.returned
  destroy_used b r f h he := by cases r <;> cases he <;> exact List.mem_singleton.mpr rfl
  did := VkRequest.exec_did
  ok_iff := VkRequest.exec_ok_iff

end Graftx.Server
