import Graftx.Server.Backend
import Graftx.Protocol.Apis

/-! The compute backends: CUDA, HIP, OpenCL, Level Zero and SYCL. Each has two tables; memory
is allocated under a context or queue that must be live, except on HIP. -/
namespace Graftx.Server
open Graftx.Protocol Graftx.Handles

/-! ### CUDA -/

structure CudaCtxState where
  deviceOrdinal : UInt32

structure CudaMemState where
  context : Handle
  size : UInt64

structure CudaBackend where
  contexts : HandleTable CudaCtxState
  allocations : HandleTable CudaMemState

inductive CudaFamily where
  | context | devicePtr
  deriving DecidableEq

def CudaFamily.kind : CudaFamily → UInt8
  | .context => 20
  | .devicePtr => 21

abbrev CudaFamily.Object : CudaFamily → Type
  | .context => CudaCtxState
  | .devicePtr => CudaMemState

@[simp] def CudaBackend.table (b : CudaBackend) : (f : CudaFamily) → HandleTable f.Object
  | .context => b.contexts
  | .devicePtr => b.allocations

def CudaBackend.setTable (b : CudaBackend) : (f : CudaFamily) → HandleTable f.Object → CudaBackend
  | .context, t => { b with contexts := t }
  | .devicePtr, t => { b with allocations := t }

instance : Tables CudaBackend where
  Family := CudaFamily
  decFamily := inferInstance
  Object := CudaFamily.Object
  kind := CudaFamily.kind
  kind_inj f g h := by cases f <;> cases g <;> first | rfl | exact absurd h (by decide)
  empty := ⟨.new, .new⟩
  table := CudaBackend.table
  setTable := CudaBackend.setTable
  table_empty f := by cases f <;> rfl
  table_set_self b f t := by cases f <;> rfl
  table_set_ne b f t g h := by cases f <;> cases g <;> first | rfl | exact absurd rfl h

@[simp] theorem table_cuda (b : CudaBackend) (f : CudaFamily) : Tables.table b f = b.table f := rfl

inductive CudaRequest where
  | ctxCreate (req : Cuda.CtxCreateRequest)
  | memAlloc (req : Cuda.MemAllocRequest)
  | memFree (req : Cuda.MemFreeRequest)

def CudaRequest.decode (opcode : UInt32) (body : Bytes) : Except ProtocolError CudaRequest :=
  if opcode = CudaOp.ctxCreate then .ctxCreate <$> Cuda.CtxCreateRequest.decode body
  else if opcode = CudaOp.memAlloc then .memAlloc <$> Cuda.MemAllocRequest.decode body
  else if opcode = CudaOp.memFree then .memFree <$> Cuda.MemFreeRequest.decode body
  else .error (.unknownOpcode opcode)

def CudaBackend.exec (b : CudaBackend) (opcode : UInt32) : CudaRequest → Answer CudaBackend
  | .ctxCreate req =>
    create b CudaFamily.context { deviceOrdinal := req.deviceOrdinal } fun context =>
      Cuda.CtxCreateResponse.encode { context }
  | .memAlloc req =>
    if (b.contexts.get req.context).isNone then refuse b opcode
    else create b CudaFamily.devicePtr { context := req.context, size := req.size } fun dptr =>
      Cuda.MemAllocResponse.encode { dptr }
  | .memFree req => destroy b opcode CudaFamily.devicePtr req.dptr

instance : Backend CudaBackend where
  api := .cuda
  Request := CudaRequest
  decode := CudaRequest.decode
  exec := CudaBackend.exec

namespace CudaRequest

def uses : CudaRequest → List (CudaFamily × Handle)
  | .ctxCreate _ => []
  | .memAlloc req => [(.context, req.context)]
  | .memFree req => [(.devicePtr, req.dptr)]

def effect : CudaRequest → Effect CudaFamily
  | .ctxCreate _ => .create .context
  | .memAlloc _ => .create .devicePtr
  | .memFree req => .destroy .devicePtr req.dptr

def returned : CudaRequest → Bytes → List (CudaFamily × Handle)
  | .ctxCreate _, reply => carried .context (Cuda.CtxCreateResponse.decode reply) (·.context)
  | .memAlloc _, reply => carried .devicePtr (Cuda.MemAllocResponse.decode reply) (·.dptr)
  | _, _ => []

theorem exec_did (b : CudaBackend) (opcode : UInt32) (r : CudaRequest) :
    Did returned b r r.effect (b.exec opcode r) := by
  unfold effect CudaBackend.exec
  cases r with
  | ctxCreate req =>
    refine .created _ _ _ fun h => ?_
    exact carried_ok _ _ _ _ (Cuda.CtxCreateResponse.decode_exact.self _ trivial)
  | memAlloc req =>
    refine .guard (.created _ _ _ fun h => ?_)
    exact carried_ok _ _ _ _ (Cuda.MemAllocResponse.decode_exact.self _ trivial)
  | memFree req => exact .destroy _ _ _ rfl

theorem exec_ok_iff (b : CudaBackend) (opcode : UInt32) (r : CudaRequest) :
    (∃ reply, (b.exec opcode r).1 = .ok reply) ↔ admitted (fun _ => uses) (fun _ _ => true) b r := by
  cases r <;> simp [CudaBackend.exec, admitted, uses, HandleTable.isLive, Option.isSome_iff_ne_none]

end CudaRequest

instance : Described CudaBackend where
  uses _ := CudaRequest.uses
  extra _ _ := true
  effect _ := CudaRequest.effect
  returned := CudaRequest.returned
  destroy_used b r f h he := by
    cases r <;> cases he
    exact List.mem_singleton.mpr rfl
  did := CudaRequest.exec_did
  ok_iff := CudaRequest.exec_ok_iff

/-! ### HIP -/

structure HipMemState where
  size : UInt64

structure HipStreamState

structure HipBackend where
  allocations : HandleTable HipMemState
  streams : HandleTable HipStreamState

inductive HipFamily where
  | devicePtr | stream
  deriving DecidableEq

def HipFamily.kind : HipFamily → UInt8
  | .devicePtr => 30
  | .stream => 31

abbrev HipFamily.Object : HipFamily → Type
  | .devicePtr => HipMemState
  | .stream => HipStreamState

@[simp] def HipBackend.table (b : HipBackend) : (f : HipFamily) → HandleTable f.Object
  | .devicePtr => b.allocations
  | .stream => b.streams

def HipBackend.setTable (b : HipBackend) : (f : HipFamily) → HandleTable f.Object → HipBackend
  | .devicePtr, t => { b with allocations := t }
  | .stream, t => { b with streams := t }

instance : Tables HipBackend where
  Family := HipFamily
  decFamily := inferInstance
  Object := HipFamily.Object
  kind := HipFamily.kind
  kind_inj f g h := by cases f <;> cases g <;> first | rfl | exact absurd h (by decide)
  empty := ⟨.new, .new⟩
  table := HipBackend.table
  setTable := HipBackend.setTable
  table_empty f := by cases f <;> rfl
  table_set_self b f t := by cases f <;> rfl
  table_set_ne b f t g h := by cases f <;> cases g <;> first | rfl | exact absurd rfl h

@[simp] theorem table_hip (b : HipBackend) (f : HipFamily) : Tables.table b f = b.table f := rfl

inductive HipRequest where
  | malloc (req : Hip.MallocRequest)
  | free (req : Hip.FreeRequest)
  | streamCreate

def HipRequest.decode (opcode : UInt32) (body : Bytes) : Except ProtocolError HipRequest :=
  if opcode = HipOp.malloc then .malloc <$> Hip.MallocRequest.decode body
  else if opcode = HipOp.free then .free <$> Hip.FreeRequest.decode body
  else if opcode = HipOp.streamCreate then .ok .streamCreate
  else .error (.unknownOpcode opcode)

def HipBackend.exec (b : HipBackend) (opcode : UInt32) : HipRequest → Answer HipBackend
  | .malloc req =>
    create b HipFamily.devicePtr { size := req.size } fun dptr =>
      Hip.MallocResponse.encode { dptr }
  | .free req => destroy b opcode HipFamily.devicePtr req.dptr
  | .streamCreate =>
    create b HipFamily.stream {} fun stream => Hip.StreamCreateResponse.encode { stream }

instance : Backend HipBackend where
  api := .hip
  Request := HipRequest
  decode := HipRequest.decode
  exec := HipBackend.exec

namespace HipRequest

def uses : HipRequest → List (HipFamily × Handle)
  | .malloc _ => []
  | .free req => [(.devicePtr, req.dptr)]
  | .streamCreate => []

def effect : HipRequest → Effect HipFamily
  | .malloc _ => .create .devicePtr
  | .free req => .destroy .devicePtr req.dptr
  | .streamCreate => .create .stream

def returned : HipRequest → Bytes → List (HipFamily × Handle)
  | .malloc _, reply => carried .devicePtr (Hip.MallocResponse.decode reply) (·.dptr)
  | .streamCreate, reply => carried .stream (Hip.StreamCreateResponse.decode reply) (·.stream)
  | _, _ => []

theorem exec_did (b : HipBackend) (opcode : UInt32) (r : HipRequest) :
    Did returned b r r.effect (b.exec opcode r) := by
  unfold effect HipBackend.exec
  cases r with
  | malloc req =>
    refine .created _ _ _ fun h => ?_
    exact carried_ok _ _ _ _ (Hip.MallocResponse.decode_exact.self _ trivial)
  | free req => exact .destroy _ _ _ rfl
  | streamCreate =>
    refine .created _ _ _ fun h => ?_
    exact carried_ok _ _ _ _ (Hip.StreamCreateResponse.decode_exact.self _ trivial)

theorem exec_ok_iff (b : HipBackend) (opcode : UInt32) (r : HipRequest) :
    (∃ reply, (b.exec opcode r).1 = .ok reply) ↔ admitted (fun _ => uses) (fun _ _ => true) b r := by
  cases r <;> simp [HipBackend.exec, admitted, uses, HandleTable.isLive, Option.isSome_iff_ne_none]

end HipRequest

instance : Described HipBackend where
  uses _ := HipRequest.uses
  extra _ _ := true
  effect _ := HipRequest.effect
  returned := HipRequest.returned
  destroy_used b r f h he := by
    cases r <;> cases he
    exact List.mem_singleton.mpr rfl
  did := HipRequest.exec_did
  ok_iff := HipRequest.exec_ok_iff

/-! ### OpenCL -/

structure ClCtxState where
  created : Bool

structure ClBufState where
  context : Handle
  size : UInt64

structure ClBackend where
  contexts : HandleTable ClCtxState
  buffers : HandleTable ClBufState

inductive ClFamily where
  | context | mem
  deriving DecidableEq

def ClFamily.kind : ClFamily → UInt8
  | .context => 40
  | .mem => 41

abbrev ClFamily.Object : ClFamily → Type
  | .context => ClCtxState
  | .mem => ClBufState

@[simp] def ClBackend.table (b : ClBackend) : (f : ClFamily) → HandleTable f.Object
  | .context => b.contexts
  | .mem => b.buffers

def ClBackend.setTable (b : ClBackend) : (f : ClFamily) → HandleTable f.Object → ClBackend
  | .context, t => { b with contexts := t }
  | .mem, t => { b with buffers := t }

instance : Tables ClBackend where
  Family := ClFamily
  decFamily := inferInstance
  Object := ClFamily.Object
  kind := ClFamily.kind
  kind_inj f g h := by cases f <;> cases g <;> first | rfl | exact absurd h (by decide)
  empty := ⟨.new, .new⟩
  table := ClBackend.table
  setTable := ClBackend.setTable
  table_empty f := by cases f <;> rfl
  table_set_self b f t := by cases f <;> rfl
  table_set_ne b f t g h := by cases f <;> cases g <;> first | rfl | exact absurd rfl h

@[simp] theorem table_cl (b : ClBackend) (f : ClFamily) : Tables.table b f = b.table f := rfl

inductive ClRequest where
  | createContext
  | createBuffer (req : Cl.CreateBufferRequest)
  | releaseBuffer (req : Cl.ReleaseBufferRequest)

def ClRequest.decode (opcode : UInt32) (body : Bytes) : Except ProtocolError ClRequest :=
  if opcode = ClOp.createContext then .ok .createContext
  else if opcode = ClOp.createBuffer then .createBuffer <$> Cl.CreateBufferRequest.decode body
  else if opcode = ClOp.releaseBuffer then .releaseBuffer <$> Cl.ReleaseBufferRequest.decode body
  else .error (.unknownOpcode opcode)

def ClBackend.exec (b : ClBackend) (opcode : UInt32) : ClRequest → Answer ClBackend
  | .createContext =>
    create b ClFamily.context { created := true } fun context =>
      Cl.CreateContextResponse.encode { context }
  | .createBuffer req =>
    if (b.contexts.get req.context).isNone then refuse b opcode
    else create b ClFamily.mem { context := req.context, size := req.size } fun mem =>
      Cl.CreateBufferResponse.encode { mem }
  | .releaseBuffer req => destroy b opcode ClFamily.mem req.mem

instance : Backend ClBackend where
  api := .openCl
  Request := ClRequest
  decode := ClRequest.decode
  exec := ClBackend.exec

namespace ClRequest

def uses : ClRequest → List (ClFamily × Handle)
  | .createContext => []
  | .createBuffer req => [(.context, req.context)]
  | .releaseBuffer req => [(.mem, req.mem)]

def effect : ClRequest → Effect ClFamily
  | .createContext => .create .context
  | .createBuffer _ => .create .mem
  | .releaseBuffer req => .destroy .mem req.mem

def returned : ClRequest → Bytes → List (ClFamily × Handle)
  | .createContext, reply => carried .context (Cl.CreateContextResponse.decode reply) (·.context)
  | .createBuffer _, reply => carried .mem (Cl.CreateBufferResponse.decode reply) (·.mem)
  | _, _ => []

theorem exec_did (b : ClBackend) (opcode : UInt32) (r : ClRequest) :
    Did returned b r r.effect (b.exec opcode r) := by
  unfold effect ClBackend.exec
  cases r with
  | createContext =>
    refine .created _ _ _ fun h => ?_
    exact carried_ok _ _ _ _ (Cl.CreateContextResponse.decode_exact.self _ trivial)
  | createBuffer req =>
    refine .guard (.created _ _ _ fun h => ?_)
    exact carried_ok _ _ _ _ (Cl.CreateBufferResponse.decode_exact.self _ trivial)
  | releaseBuffer req => exact .destroy _ _ _ rfl

theorem exec_ok_iff (b : ClBackend) (opcode : UInt32) (r : ClRequest) :
    (∃ reply, (b.exec opcode r).1 = .ok reply) ↔ admitted (fun _ => uses) (fun _ _ => true) b r := by
  cases r <;> simp [ClBackend.exec, admitted, uses, HandleTable.isLive, Option.isSome_iff_ne_none]

end ClRequest

instance : Described ClBackend where
  uses _ := ClRequest.uses
  extra _ _ := true
  effect _ := ClRequest.effect
  returned := ClRequest.returned
  destroy_used b r f h he := by
    cases r <;> cases he
    exact List.mem_singleton.mpr rfl
  did := ClRequest.exec_did
  ok_iff := ClRequest.exec_ok_iff

/-! ### Level Zero -/

structure L0CtxState where
  created : Bool

structure L0MemState where
  context : Handle
  size : UInt64

structure L0Backend where
  contexts : HandleTable L0CtxState
  mems : HandleTable L0MemState

inductive L0Family where
  | context | deviceMem
  deriving DecidableEq

def L0Family.kind : L0Family → UInt8
  | .context => 50
  | .deviceMem => 51

abbrev L0Family.Object : L0Family → Type
  | .context => L0CtxState
  | .deviceMem => L0MemState

@[simp] def L0Backend.table (b : L0Backend) : (f : L0Family) → HandleTable f.Object
  | .context => b.contexts
  | .deviceMem => b.mems

def L0Backend.setTable (b : L0Backend) : (f : L0Family) → HandleTable f.Object → L0Backend
  | .context, t => { b with contexts := t }
  | .deviceMem, t => { b with mems := t }

instance : Tables L0Backend where
  Family := L0Family
  decFamily := inferInstance
  Object := L0Family.Object
  kind := L0Family.kind
  kind_inj f g h := by cases f <;> cases g <;> first | rfl | exact absurd h (by decide)
  empty := ⟨.new, .new⟩
  table := L0Backend.table
  setTable := L0Backend.setTable
  table_empty f := by cases f <;> rfl
  table_set_self b f t := by cases f <;> rfl
  table_set_ne b f t g h := by cases f <;> cases g <;> first | rfl | exact absurd rfl h

@[simp] theorem table_l0 (b : L0Backend) (f : L0Family) : Tables.table b f = b.table f := rfl

inductive L0Request where
  | contextCreate
  | memAllocDevice (req : L0.MemAllocDeviceRequest)
  | memFree (req : L0.MemFreeRequest)

def L0Request.decode (opcode : UInt32) (body : Bytes) : Except ProtocolError L0Request :=
  if opcode = L0Op.contextCreate then .ok .contextCreate
  else if opcode = L0Op.memAllocDevice then .memAllocDevice <$> L0.MemAllocDeviceRequest.decode body
  else if opcode = L0Op.memFree then .memFree <$> L0.MemFreeRequest.decode body
  else .error (.unknownOpcode opcode)

def L0Backend.exec (b : L0Backend) (opcode : UInt32) : L0Request → Answer L0Backend
  | .contextCreate =>
    create b L0Family.context { created := true } fun context =>
      L0.ContextCreateResponse.encode { context }
  | .memAllocDevice req =>
    if (b.contexts.get req.context).isNone then refuse b opcode
    else create b L0Family.deviceMem { context := req.context, size := req.size } fun ptr =>
      L0.MemAllocDeviceResponse.encode { ptr }
  | .memFree req => destroy b opcode L0Family.deviceMem req.ptr

instance : Backend L0Backend where
  api := .levelZero
  Request := L0Request
  decode := L0Request.decode
  exec := L0Backend.exec

namespace L0Request

def uses : L0Request → List (L0Family × Handle)
  | .contextCreate => []
  | .memAllocDevice req => [(.context, req.context)]
  | .memFree req => [(.deviceMem, req.ptr)]

def effect : L0Request → Effect L0Family
  | .contextCreate => .create .context
  | .memAllocDevice _ => .create .deviceMem
  | .memFree req => .destroy .deviceMem req.ptr

def returned : L0Request → Bytes → List (L0Family × Handle)
  | .contextCreate, reply => carried .context (L0.ContextCreateResponse.decode reply) (·.context)
  | .memAllocDevice _, reply => carried .deviceMem (L0.MemAllocDeviceResponse.decode reply) (·.ptr)
  | _, _ => []

theorem exec_did (b : L0Backend) (opcode : UInt32) (r : L0Request) :
    Did returned b r r.effect (b.exec opcode r) := by
  unfold effect L0Backend.exec
  cases r with
  | contextCreate =>
    refine .created _ _ _ fun h => ?_
    exact carried_ok _ _ _ _ (L0.ContextCreateResponse.decode_exact.self _ trivial)
  | memAllocDevice req =>
    refine .guard (.created _ _ _ fun h => ?_)
    exact carried_ok _ _ _ _ (L0.MemAllocDeviceResponse.decode_exact.self _ trivial)
  | memFree req => exact .destroy _ _ _ rfl

theorem exec_ok_iff (b : L0Backend) (opcode : UInt32) (r : L0Request) :
    (∃ reply, (b.exec opcode r).1 = .ok reply) ↔ admitted (fun _ => uses) (fun _ _ => true) b r := by
  cases r <;> simp [L0Backend.exec, admitted, uses, HandleTable.isLive, Option.isSome_iff_ne_none]

end L0Request

instance : Described L0Backend where
  uses _ := L0Request.uses
  extra _ _ := true
  effect _ := L0Request.effect
  returned := L0Request.returned
  destroy_used b r f h he := by
    cases r <;> cases he
    exact List.mem_singleton.mpr rfl
  did := L0Request.exec_did
  ok_iff := L0Request.exec_ok_iff

/-! ### SYCL -/

structure SyclQueueState where
  created : Bool

structure SyclPtrState where
  queue : Handle
  size : UInt64

structure SyclBackend where
  queues : HandleTable SyclQueueState
  ptrs : HandleTable SyclPtrState

inductive SyclFamily where
  | queue | devicePtr
  deriving DecidableEq

def SyclFamily.kind : SyclFamily → UInt8
  | .queue => 90
  | .devicePtr => 91

abbrev SyclFamily.Object : SyclFamily → Type
  | .queue => SyclQueueState
  | .devicePtr => SyclPtrState

@[simp] def SyclBackend.table (b : SyclBackend) : (f : SyclFamily) → HandleTable f.Object
  | .queue => b.queues
  | .devicePtr => b.ptrs

def SyclBackend.setTable (b : SyclBackend) : (f : SyclFamily) → HandleTable f.Object → SyclBackend
  | .queue, t => { b with queues := t }
  | .devicePtr, t => { b with ptrs := t }

instance : Tables SyclBackend where
  Family := SyclFamily
  decFamily := inferInstance
  Object := SyclFamily.Object
  kind := SyclFamily.kind
  kind_inj f g h := by cases f <;> cases g <;> first | rfl | exact absurd h (by decide)
  empty := ⟨.new, .new⟩
  table := SyclBackend.table
  setTable := SyclBackend.setTable
  table_empty f := by cases f <;> rfl
  table_set_self b f t := by cases f <;> rfl
  table_set_ne b f t g h := by cases f <;> cases g <;> first | rfl | exact absurd rfl h

@[simp] theorem table_sycl (b : SyclBackend) (f : SyclFamily) : Tables.table b f = b.table f := rfl

inductive SyclRequest where
  | queueCreate
  | mallocDevice (req : Sycl.MallocDeviceRequest)
  | free (req : Sycl.FreeRequest)

def SyclRequest.decode (opcode : UInt32) (body : Bytes) : Except ProtocolError SyclRequest :=
  if opcode = SyclOp.queueCreate then .ok .queueCreate
  else if opcode = SyclOp.mallocDevice then .mallocDevice <$> Sycl.MallocDeviceRequest.decode body
  else if opcode = SyclOp.free then .free <$> Sycl.FreeRequest.decode body
  else .error (.unknownOpcode opcode)

def SyclBackend.exec (b : SyclBackend) (opcode : UInt32) : SyclRequest → Answer SyclBackend
  | .queueCreate =>
    create b SyclFamily.queue { created := true } fun queue =>
      Sycl.QueueCreateResponse.encode { queue }
  | .mallocDevice req =>
    if (b.queues.get req.queue).isNone then refuse b opcode
    else create b SyclFamily.devicePtr { queue := req.queue, size := req.size } fun ptr =>
      Sycl.MallocDeviceResponse.encode { ptr }
  | .free req => destroy b opcode SyclFamily.devicePtr req.ptr

instance : Backend SyclBackend where
  api := .sycl
  Request := SyclRequest
  decode := SyclRequest.decode
  exec := SyclBackend.exec

namespace SyclRequest

def uses : SyclRequest → List (SyclFamily × Handle)
  | .queueCreate => []
  | .mallocDevice req => [(.queue, req.queue)]
  | .free req => [(.devicePtr, req.ptr)]

def effect : SyclRequest → Effect SyclFamily
  | .queueCreate => .create .queue
  | .mallocDevice _ => .create .devicePtr
  | .free req => .destroy .devicePtr req.ptr

def returned : SyclRequest → Bytes → List (SyclFamily × Handle)
  | .queueCreate, reply => carried .queue (Sycl.QueueCreateResponse.decode reply) (·.queue)
  | .mallocDevice _, reply => carried .devicePtr (Sycl.MallocDeviceResponse.decode reply) (·.ptr)
  | _, _ => []

theorem exec_did (b : SyclBackend) (opcode : UInt32) (r : SyclRequest) :
    Did returned b r r.effect (b.exec opcode r) := by
  unfold effect SyclBackend.exec
  cases r with
  | queueCreate =>
    refine .created _ _ _ fun h => ?_
    exact carried_ok _ _ _ _ (Sycl.QueueCreateResponse.decode_exact.self _ trivial)
  | mallocDevice req =>
    refine .guard (.created _ _ _ fun h => ?_)
    exact carried_ok _ _ _ _ (Sycl.MallocDeviceResponse.decode_exact.self _ trivial)
  | free req => exact .destroy _ _ _ rfl

theorem exec_ok_iff (b : SyclBackend) (opcode : UInt32) (r : SyclRequest) :
    (∃ reply, (b.exec opcode r).1 = .ok reply) ↔ admitted (fun _ => uses) (fun _ _ => true) b r := by
  cases r <;> simp [SyclBackend.exec, admitted, uses, HandleTable.isLive, Option.isSome_iff_ne_none]

end SyclRequest

instance : Described SyclBackend where
  uses _ := SyclRequest.uses
  extra _ _ := true
  effect _ := SyclRequest.effect
  returned := SyclRequest.returned
  destroy_used b r f h he := by
    cases r <;> cases he
    exact List.mem_singleton.mpr rfl
  did := SyclRequest.exec_did
  ok_iff := SyclRequest.exec_ok_iff

end Graftx.Server
