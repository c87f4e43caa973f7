import Graftx.Server.Backend
import Graftx.Protocol.Apis

/-! The OptiX backend. One opcode destroys both contexts and pipelines: it tries the
pipeline table first, and the two tables hand out the same slots and generations. -/
namespace Graftx.Server
open Graftx.Protocol Graftx.Handles

structure OptixCtxState where
  created : Bool

structure OptixPipelineState where
  context : Handle

structure OptixBackend where
  contexts : HandleTable OptixCtxState
  pipelines : HandleTable OptixPipelineState

inductive OptixFamily where
  | context | pipeline
  deriving DecidableEq

def OptixFamily.kind : OptixFamily → UInt8
  | .context => 80
  | .pipeline => 81

abbrev OptixFamily.Object : OptixFamily → Type
  | .context => OptixCtxState
  | .pipeline => OptixPipelineState

@[simp] def OptixBackend.table (b : OptixBackend) : (f : OptixFamily) → HandleTable f.Object
  | .context => b.contexts
  | .pipeline => b.pipelines

def OptixBackend.setTable (b : OptixBackend) : (f : OptixFamily) → HandleTable f.Object → OptixBackend
  | .context, t => { b with contexts := t }
  | .pipeline, t => { b with pipelines := t }

instance : Tables OptixBackend where
  Family := OptixFamily
  decFamily := inferInstance
  Object := OptixFamily.Object
  kind := OptixFamily.kind
  kind_inj f g h := by cases f <;> cases g <;> first | rfl | exact absurd h (by decide)
  empty := ⟨.new, .new⟩
  table := OptixBackend.table
  setTable := OptixBackend.setTable
  table_empty f := by cases f <;> rfl
  table_set_self b f t := by cases f <;> rfl
  table_set_ne b f t g h := by cases f <;> cases g <;> first | rfl | exact absurd rfl h

@[simp] theorem table_optix (b : OptixBackend) (f : OptixFamily) : Tables.table b f = b.table f := rfl

inductive OptixRequest where
  | contextCreate
  | pipelineCreate (req : Optix.PipelineCreateRequest)
  | destroy (req : Optix.DestroyRequest)

def OptixRequest.decode (opcode : UInt32) (body : Bytes) : Except ProtocolError OptixRequest :=
  if opcode = OptixOp.contextCreate then .ok .contextCreate
  else if opcode = OptixOp.pipelineCreate then
    .pipelineCreate <$> Optix.PipelineCreateRequest.decode body
  else if opcode = OptixOp.destroy then .destroy <$> Optix.DestroyRequest.decode body
  else .error (.unknownOpcode opcode)

def OptixBackend.exec (b : OptixBackend) (opcode : UInt32) : OptixRequest → Answer OptixBackend
  | .contextCreate =>
    create b OptixFamily.context { created := true } fun context =>
      Optix.ContextCreateResponse.encode { context }
  | .pipelineCreate req =>
    if (b.contexts.get req.context).isNone then refuse b opcode
    else create b OptixFamily.pipeline { context := req.context } fun pipeline =>
      Optix.PipelineCreateResponse.encode { pipeline }
  | .destroy req =>
    match b.pipelines.remove req.handle with
    | (some _, pipelines) => (.ok [], { b with pipelines })
    | (none, pipelines) =>
      match b.contexts.remove req.handle with
      | (some _, contexts) => (.ok [], { b with pipelines, contexts })
      | (none, contexts) => (.error (.unknownOpcode opcode), { b with pipelines, contexts })

instance : Backend OptixBackend where
  api := .optiX
  Request := OptixRequest
  decode := OptixRequest.decode
  exec := OptixBackend.exec

/-- The table a destroy of `h` takes effect in. -/
def OptixBackend.destroyed (b : OptixBackend) (h : Handle) : OptixFamily :=
  if b.pipelines.isLive h then .pipeline else .context

theorem OptixBackend.destroyed_of_some (b : OptixBackend) (h : Handle) (v : OptixPipelineState)
    (hp : b.pipelines.get h = some v) : b.destroyed h = .pipeline := by
  rw [destroyed, HandleTable.isLive, hp]
  rfl

theorem OptixBackend.destroyed_of_none (b : OptixBackend) (h : Handle)
    (hp : b.pipelines.get h = none) : b.destroyed h = .context := by
  rw [destroyed, HandleTable.isLive, hp]
  rfl

/-- The two probes together are one removal, from the pipelines if the handle resolves
there and from the contexts otherwise. -/
theorem OptixBackend.exec_destroy (b : OptixBackend) (opcode : UInt32)
    (req : Optix.DestroyRequest) : b.exec opcode (.destroy req) =
      Server.destroy b opcode (b.destroyed req.handle) req.handle := by
  have hexec : b.exec opcode (.destroy req) = match b.pipelines.remove req.handle with
      | (some _, pipelines) => (.ok [], { b with pipelines })
      | (none, pipelines) =>
        match b.contexts.remove req.handle with
        | (some _, contexts) => (.ok [], { b with pipelines, contexts })
        | (none, contexts) =>
          (.error (.unknownOpcode opcode), { b with pipelines, contexts }) := rfl
  rw [hexec]
  cases hp : b.pipelines.get req.handle with
  | some v =>
    rw [b.destroyed_of_some _ v hp, Server.destroy, table_optix, OptixBackend.table,
      b.pipelines.remove_of_get_some _ v hp]
    rfl
  | none =>
    rw [b.destroyed_of_none _ hp, Server.destroy, table_optix, OptixBackend.table,
      b.pipelines.remove_of_get_none _ hp]
    cases hc : b.contexts.get req.handle with
    | some v =>
      rw [b.contexts.remove_of_get_some _ v hc]
      rfl
    | none =>
      rw [b.contexts.remove_of_get_none _ hc]
      rfl

namespace OptixRequest

def uses (b : OptixBackend) : OptixRequest → List (OptixFamily × Handle)
  | .contextCreate => []
  | .pipelineCreate req => [(.context, req.context)]
  | .destroy req => [(b.destroyed req.handle, req.handle)]

def effect (b : OptixBackend) : OptixRequest → Effect OptixFamily
  | .contextCreate => .create .context
  | .pipelineCreate _ => .create .pipeline
  | .destroy req => .destroy (b.destroyed req.handle) req.handle

def returned : OptixRequest → Bytes → List (OptixFamily × Handle)
  | .contextCreate, reply => carried .context (Optix.ContextCreateResponse.decode reply) (·.context)
  | .pipelineCreate _, reply =>
    carried .pipeline (Optix.PipelineCreateResponse.decode reply) (·.pipeline)
  | _, _ => []

theorem exec_did (b : OptixBackend) (opcode : UInt32) (r : OptixRequest) :
    Did returned b r (r.effect b) (b.exec opcode r) := by
  cases r with
  | contextCreate =>
    unfold effect OptixBackend.exec
    refine .created _ _ _ fun h => ?_
    exact carried_ok _ _ _ _ (Optix.ContextCreateResponse.decode_exact.self _ trivial)
  | pipelineCreate req =>
    unfold effect OptixBackend.exec
    refine .guard (.created _ _ _ fun h => ?_)
    exact carried_ok _ _ _ _ (Optix.PipelineCreateResponse.decode_exact.self _ trivial)
  | destroy req =>
    rw [b.exec_destroy, effect]
    exact .destroy _ _ _ rfl

theorem exec_ok_iff (b : OptixBackend) (opcode : UInt32) (r : OptixRequest) :
    (∃ reply, (b.exec opcode r).1 = .ok reply) ↔ admitted uses (fun _ _ => true) b r := by
  cases r with
  | contextCreate => simp [OptixBackend.exec, admitted, uses]
  | pipelineCreate req =>
    simp [OptixBackend.exec, admitted, uses, HandleTable.isLive, Option.isSome_iff_ne_none]
  | destroy req => simp [b.exec_destroy, admitted, uses]

end OptixRequest

instance : Described OptixBackend where
  uses := OptixRequest.uses
  extra _ _ := true
  effect := OptixRequest.effect
  returned := OptixRequest.returned
  destroy_used b r f h he := by
    cases r <;> cases he
    exact List.mem_singleton.mpr rfl
  did := OptixRequest.exec_did
  ok_iff := OptixRequest.exec_ok_iff

end Graftx.Server
