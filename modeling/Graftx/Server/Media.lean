import Graftx.Server.Backend
import Graftx.Protocol.Apis

/-! The graphics and media backends: OpenGL, WebGPU, Video and AMF. -/
namespace Graftx.Server
open Graftx.Protocol Graftx.Handles

/-! ### OpenGL -/

structure CtxState where
  created : Bool

structure BufState where
  context : Handle

structure GlBackend where
  contexts : HandleTable CtxState
  buffers : HandleTable BufState

inductive GlFamily where
  | context | buffer
  deriving DecidableEq

def GlFamily.kind : GlFamily → UInt8
  | .context => 10
  | .buffer => 11

abbrev GlFamily.Object : GlFamily → Type
  | .context => CtxState
  | .buffer => BufState

@[simp] def GlBackend.table (b : GlBackend) : (f : GlFamily) → HandleTable f.Object
  | .context => b.contexts
  | .buffer => b.buffers

def GlBackend.setTable (b : GlBackend) : (f : GlFamily) → HandleTable f.Object → GlBackend
  | .context, t => { b with contexts := t }
  | .buffer, t => { b with buffers := t }

instance : Tables GlBackend where
  Family := GlFamily
  decFamily := inferInstance
  Object := GlFamily.Object
  kind := GlFamily.kind
  kind_inj f g h := by cases f <;> cases g <;> first | rfl | exact absurd h (by decide)
  empty := ⟨.new, .new⟩
  table := GlBackend.table
  setTable := GlBackend.setTable
  table_empty f := by cases f <;> rfl
  table_set_self b f t := by cases f <;> rfl
  table_set_ne b f t g h := by cases f <;> cases g <;> first | rfl | exact absurd rfl h

@[simp] theorem table_gl (b : GlBackend) (f : GlFamily) : Tables.table b f = b.table f := rfl

inductive GlRequest where
  | createContext
  | makeCurrent (req : Gl.MakeCurrentRequest)
  | genBuffer (req : Gl.GenBufferRequest)
  | swapBuffers (req : Gl.SwapBuffersRequest)
  | deleteBuffer (req : Gl.DeleteBufferRequest)

def GlRequest.decode (opcode : UInt32) (body : Bytes) : Except ProtocolError GlRequest :=
  if opcode = GlOp.createContext then .ok .createContext
  else if opcode = GlOp.makeCurrent then .makeCurrent <$> Gl.MakeCurrentRequest.decode body
  else if opcode = GlOp.genBuffer then .genBuffer <$> Gl.GenBufferRequest.decode body
  else if opcode = GlOp.swapBuffers then .swapBuffers <$> Gl.SwapBuffersRequest.decode body
  else if opcode = GlOp.deleteBuffer then .deleteBuffer <$> Gl.DeleteBufferRequest.decode body
  else .error (.unknownOpcode opcode)

def GlBackend.exec (b : GlBackend) (opcode : UInt32) : GlRequest → Answer GlBackend
  | .createContext =>
    create b GlFamily.context { created := true } fun context =>
      Gl.CreateContextResponse.encode { context }
  | .makeCurrent req =>
    if ¬ (b.contexts.get req.context).any (·.created) then refuse b opcode
    else (.ok [], b)
  | .genBuffer req =>
    if ¬ (b.contexts.get req.context).any (·.created) then refuse b opcode
    else create b GlFamily.buffer { context := req.context } fun buffer =>
      Gl.GenBufferResponse.encode { buffer }
  | .swapBuffers req =>
    if ¬ (b.contexts.get req.context).any (·.created) then refuse b opcode
    else (.ok [], b)
  | .deleteBuffer req => destroy b opcode GlFamily.buffer req.buffer

instance : Backend GlBackend where
  api := .openGl
  Request := GlRequest
  decode := GlRequest.decode
  exec := GlBackend.exec

namespace GlRequest

def uses : GlRequest → List (GlFamily × Handle)
  | .createContext => []
  | .makeCurrent req => [(.context, req.context)]
  | .genBuffer req => [(.context, req.context)]
  | .swapBuffers req => [(.context, req.context)]
  | .deleteBuffer req => [(.buffer, req.buffer)]

def extra (b : GlBackend) : GlRequest → Bool
  | .makeCurrent req => (b.contexts.get req.context).any (·.created)
  | .genBuffer req => (b.contexts.get req.context).any (·.created)
  | .swapBuffers req => (b.contexts.get req.context).any (·.created)
  | _ => true

def effect : GlRequest → Effect GlFamily
  | .createContext => .create .context
  | .makeCurrent _ => .keep
  | .genBuffer _ => .create .buffer
  | .swapBuffers _ => .keep
  | .deleteBuffer req => .destroy .buffer req.buffer

def returned : GlRequest → Bytes → List (GlFamily × Handle)
  | .createContext, reply => carried .context (Gl.CreateContextResponse.decode reply) (·.context)
  | .genBuffer _, reply => carried .buffer (Gl.GenBufferResponse.decode reply) (·.buffer)
  | _, _ => []

theorem exec_did (b : GlBackend) (opcode : UInt32) (r : GlRequest) :
    Did returned b r r.effect (b.exec opcode r) := by
  unfold effect GlBackend.exec
  cases r with
  | createContext =>
    refine .created _ _ _ fun h => ?_
    exact carried_ok _ _ _ _ (Gl.CreateContextResponse.decode_exact.self _ trivial)
  | makeCurrent req => exact .guard (.kept [] rfl)
  | genBuffer req =>
    refine .guard (.created _ _ _ fun h => ?_)
    exact carried_ok _ _ _ _ (Gl.GenBufferResponse.decode_exact.self _ trivial)
  | swapBuffers req => exact .guard (.kept [] rfl)
  | deleteBuffer req => exact .destroy _ _ _ rfl

theorem exec_ok_iff (b : GlBackend) (opcode : UInt32) (r : GlRequest) :
    (∃ reply, (b.exec opcode r).1 = .ok reply) ↔ admitted (fun _ => uses) extra b r := by
  have hany (h : Handle) (hc : (b.contexts.get h).any (·.created)) : b.contexts.get h ≠ none := by
    cases hg : b.contexts.get h <;> simp_all
  cases r <;> simp [GlBackend.exec, admitted, uses, extra, HandleTable.isLive,
    Option.isSome_iff_ne_none]
  all_goals exact hany _

end GlRequest

instance : Described GlBackend where
  uses _ := GlRequest.uses
  extra := GlRequest.extra
  effect _ := GlRequest.effect
  returned := GlRequest.returned
  destroy_used b r f h he := by
    cases r <;> cases he
    exact List.mem_singleton.mpr rfl
  did := GlRequest.exec_did
  ok_iff := GlRequest.exec_ok_iff

/-! ### WebGPU -/

structure WgpuDevState

structure WgpuBufState where
  device : Handle
  size : UInt64
  usage : UInt32

structure WebGpuBackend where
  devices : HandleTable WgpuDevState
  buffers : HandleTable WgpuBufState

inductive WgpuFamily where
  | device | buffer
  deriving DecidableEq

def WgpuFamily.kind : WgpuFamily → UInt8
  | .device => 70
  | .buffer => 71

abbrev WgpuFamily.Object : WgpuFamily → Type
  | .device => WgpuDevState
  | .buffer => WgpuBufState

@[simp] def WebGpuBackend.table (b : WebGpuBackend) : (f : WgpuFamily) → HandleTable f.Object
  | .device => b.devices
  | .buffer => b.buffers

def WebGpuBackend.setTable (b : WebGpuBackend) : (f : WgpuFamily) → HandleTable f.Object → WebGpuBackend
  | .device, t => { b with devices := t }
  | .buffer, t => { b with buffers := t }

instance : Tables WebGpuBackend where
  Family := WgpuFamily
  decFamily := inferInstance
  Object := WgpuFamily.Object
  kind := WgpuFamily.kind
  kind_inj f g h := by cases f <;> cases g <;> first | rfl | exact absurd h (by decide)
  empty := ⟨.new, .new⟩
  table := WebGpuBackend.table
  setTable := WebGpuBackend.setTable
  table_empty f := by cases f <;> rfl
  table_set_self b f t := by cases f <;> rfl
  table_set_ne b f t g h := by cases f <;> cases g <;> first | rfl | exact absurd rfl h

@[simp] theorem table_wgpu (b : WebGpuBackend) (f : WgpuFamily) : Tables.table b f = b.table f := rfl

inductive WgpuRequest where
  | requestDevice
  | createBuffer (req : Wgpu.CreateBufferRequest)
  | destroyBuffer (req : Wgpu.DestroyBufferRequest)

def WgpuRequest.decode (opcode : UInt32) (body : Bytes) : Except ProtocolError WgpuRequest :=
  if opcode = WgpuOp.requestDevice then .ok .requestDevice
  else if opcode = WgpuOp.createBuffer then .createBuffer <$> Wgpu.CreateBufferRequest.decode body
  else if opcode = WgpuOp.destroyBuffer then
    .destroyBuffer <$> Wgpu.DestroyBufferRequest.decode body
  else .error (.unknownOpcode opcode)

def WebGpuBackend.exec (b : WebGpuBackend) (opcode : UInt32) : WgpuRequest → Answer WebGpuBackend
  | .requestDevice =>
    create b WgpuFamily.device {} fun device => Wgpu.RequestDeviceResponse.encode { device }
  | .createBuffer req =>
    if (b.devices.get req.device).isNone then refuse b opcode
    else
      create b WgpuFamily.buffer { device := req.device, size := req.size, usage := req.usage }
        fun buffer => Wgpu.CreateBufferResponse.encode { buffer }
  | .destroyBuffer req => destroy b opcode WgpuFamily.buffer req.buffer

instance : Backend WebGpuBackend where
  api := .webGpu
  Request := WgpuRequest
  decode := WgpuRequest.decode
  exec := WebGpuBackend.exec

namespace WgpuRequest

def uses : WgpuRequest → List (WgpuFamily × Handle)
  | .requestDevice => []
  | .createBuffer req => [(.device, req.device)]
  | .destroyBuffer req => [(.buffer, req.buffer)]

def effect : WgpuRequest → Effect WgpuFamily
  | .requestDevice => .create .device
  | .createBuffer _ => .create .buffer
  | .destroyBuffer req => .destroy .buffer req.buffer

def returned : WgpuRequest → Bytes → List (WgpuFamily × Handle)
  | .requestDevice, reply => carried .device (Wgpu.RequestDeviceResponse.decode reply) (·.device)
  | .createBuffer _, reply => carried .buffer (Wgpu.CreateBufferResponse.decode reply) (·.buffer)
  | _, _ => []

theorem exec_did (b : WebGpuBackend) (opcode : UInt32) (r : WgpuRequest) :
    Did returned b r r.effect (b.exec opcode r) := by
  unfold effect WebGpuBackend.exec
  cases r with
  | requestDevice =>
    refine .created _ _ _ fun h => ?_
    exact carried_ok _ _ _ _ (Wgpu.RequestDeviceResponse.decode_exact.self _ trivial)
  | createBuffer req =>
    refine .guard (.created _ _ _ fun h => ?_)
    exact carried_ok _ _ _ _ (Wgpu.CreateBufferResponse.decode_exact.self _ trivial)
  | destroyBuffer req => exact .destroy _ _ _ rfl

theorem exec_ok_iff (b : WebGpuBackend) (opcode : UInt32) (r : WgpuRequest) :
    (∃ reply, (b.exec opcode r).1 = .ok reply) ↔ admitted (fun _ => uses) (fun _ _ => true) b r := by
  cases r <;> simp [WebGpuBackend.exec, admitted, uses, HandleTable.isLive, Option.isSome_iff_ne_none]

end WgpuRequest

instance : Described WebGpuBackend where
  uses _ := WgpuRequest.uses
  extra _ _ := true
  effect _ := WgpuRequest.effect
  returned := WgpuRequest.returned
  destroy_used b r f h he := by
    cases r <;> cases he
    exact List.mem_singleton.mpr rfl
  did := WgpuRequest.exec_did
  ok_iff := WgpuRequest.exec_ok_iff

/-! ### Video -/

structure VideoSessionState where
  codec : UInt32
  width : UInt32
  height : UInt32
  frames : UInt32

structure VideoBackend where
  sessions : HandleTable VideoSessionState

inductive VideoFamily where
  | session
  deriving DecidableEq

def VideoFamily.kind : VideoFamily → UInt8
  | .session => 60

abbrev VideoFamily.Object : VideoFamily → Type
  | .session => VideoSessionState

@[simp] def VideoBackend.table (b : VideoBackend) : (f : VideoFamily) → HandleTable f.Object
  | .session => b.sessions

def VideoBackend.setTable (b : VideoBackend) : (f : VideoFamily) → HandleTable f.Object → VideoBackend
  | .session, t => { b with sessions := t }

instance : Tables VideoBackend where
  Family := VideoFamily
  decFamily := inferInstance
  Object := VideoFamily.Object
  kind := VideoFamily.kind
  kind_inj f g _ := by cases f; cases g; rfl
  empty := ⟨.new⟩
  table := VideoBackend.table
  setTable := VideoBackend.setTable
  table_empty f := by cases f; rfl
  table_set_self b f t := by cases f; rfl
  table_set_ne b f t g h := by cases f; cases g; exact absurd rfl h

@[simp] theorem table_video (b : VideoBackend) (f : VideoFamily) : Tables.table b f = b.table f := rfl

inductive VideoRequest where
  | createDecodeSession (req : Video.CreateDecodeSessionRequest)
  | decodeFrame (req : Video.DecodeFrameRequest)
  | destroySession (req : Video.DestroySessionRequest)

def VideoRequest.decode (opcode : UInt32) (body : Bytes) : Except ProtocolError VideoRequest :=
  if opcode = VideoOp.createDecodeSession then
    .createDecodeSession <$> Video.CreateDecodeSessionRequest.decode body
  else if opcode = VideoOp.decodeFrame then .decodeFrame <$> Video.DecodeFrameRequest.decode body
  else if opcode = VideoOp.destroySession then
    .destroySession <$> Video.DestroySessionRequest.decode body
  else .error (.unknownOpcode opcode)

def VideoBackend.exec (b : VideoBackend) (opcode : UInt32) : VideoRequest → Answer VideoBackend
  | .createDecodeSession req =>
    create b VideoFamily.session
      { codec := req.codec, width := req.width, height := req.height, frames := 0 }
      fun session => Video.CreateDecodeSessionResponse.encode { session }
  | .decodeFrame req =>
    update b opcode VideoFamily.session req.session fun state =>
      some ({ state with frames := saturatingSucc state.frames },
        Video.DecodeFrameResponse.encode { frameIndex := state.frames })
  | .destroySession req => destroy b opcode VideoFamily.session req.session

instance : Backend VideoBackend where
  api := .video
  Request := VideoRequest
  decode := VideoRequest.decode
  exec := VideoBackend.exec

namespace VideoRequest

def uses : VideoRequest → List (VideoFamily × Handle)
  | .createDecodeSession _ => []
  | .decodeFrame req => [(.session, req.session)]
  | .destroySession req => [(.session, req.session)]

def effect : VideoRequest → Effect VideoFamily
  | .createDecodeSession _ => .create .session
  | .decodeFrame req => .write .session req.session
  | .destroySession req => .destroy .session req.session

def returned : VideoRequest → Bytes → List (VideoFamily × Handle)
  | .createDecodeSession _, reply =>
    carried .session (Video.CreateDecodeSessionResponse.decode reply) (·.session)
  | _, _ => []

theorem exec_did (b : VideoBackend) (opcode : UInt32) (r : VideoRequest) :
    Did returned b r r.effect (b.exec opcode r) := by
  unfold effect VideoBackend.exec
  cases r with
  | createDecodeSession req =>
    refine .created _ _ _ fun h => ?_
    exact carried_ok _ _ _ _ (Video.CreateDecodeSessionResponse.decode_exact.self _ trivial)
  | decodeFrame req => exact .update _ _ _ _ fun _ _ _ _ => rfl
  | destroySession req => exact .destroy _ _ _ rfl

theorem exec_ok_iff (b : VideoBackend) (opcode : UInt32) (r : VideoRequest) :
    (∃ reply, (b.exec opcode r).1 = .ok reply) ↔ admitted (fun _ => uses) (fun _ _ => true) b r := by
  cases r <;> simp [VideoBackend.exec, admitted, uses, HandleTable.isLive, Option.isSome_iff_ne_none]

end VideoRequest

instance : Described VideoBackend where
  uses _ := VideoRequest.uses
  extra _ _ := true
  effect _ := VideoRequest.effect
  returned := VideoRequest.returned
  destroy_used b r f h he := by
    cases r <;> cases he
    exact List.mem_singleton.mpr rfl
  did := VideoRequest.exec_did
  ok_iff := VideoRequest.exec_ok_iff

/-! ### AMF -/

structure AmfEncoderState where
  codec : UInt32
  width : UInt32
  height : UInt32
  frames : UInt32

structure AmfBackend where
  encoders : HandleTable AmfEncoderState

inductive AmfFamily where
  | encoder
  deriving DecidableEq

def AmfFamily.kind : AmfFamily → UInt8
  | .encoder => 100

abbrev AmfFamily.Object : AmfFamily → Type
  | .encoder => AmfEncoderState

@[simp] def AmfBackend.table (b : AmfBackend) : (f : AmfFamily) → HandleTable f.Object
  | .encoder => b.encoders

def AmfBackend.setTable (b : AmfBackend) : (f : AmfFamily) → HandleTable f.Object → AmfBackend
  | .encoder, t => { b with encoders := t }

instance : Tables AmfBackend where
  Family := AmfFamily
  decFamily := inferInstance
  Object := AmfFamily.Object
  kind := AmfFamily.kind
  kind_inj f g _ := by cases f; cases g; rfl
  empty := ⟨.new⟩
  table := AmfBackend.table
  setTable := AmfBackend.setTable
  table_empty f := by cases f; rfl
  table_set_self b f t := by cases f; rfl
  table_set_ne b f t g h := by cases f; cases g; exact absurd rfl h

@[simp] theorem table_amf (b : AmfBackend) (f : AmfFamily) : Tables.table b f = b.table f := rfl

inductive AmfRequest where
  | createEncoder (req : Amf.CreateEncoderRequest)
  | encodeFrame (req : Amf.EncodeFrameRequest)
  | destroyEncoder (req : Amf.DestroyEncoderRequest)

def AmfRequest.decode (opcode : UInt32) (body : Bytes) : Except ProtocolError AmfRequest :=
  if opcode = AmfOp.createEncoder then .createEncoder <$> Amf.CreateEncoderRequest.decode body
  else if opcode = AmfOp.encodeFrame then .encodeFrame <$> Amf.EncodeFrameRequest.decode body
  else if opcode = AmfOp.destroyEncoder then
    .destroyEncoder <$> Amf.DestroyEncoderRequest.decode body
  else .error (.unknownOpcode opcode)

def AmfBackend.exec (b : AmfBackend) (opcode : UInt32) : AmfRequest → Answer AmfBackend
  | .createEncoder req =>
    create b AmfFamily.encoder
      { codec := req.codec, width := req.width, height := req.height, frames := 0 }
      fun encoder => Amf.CreateEncoderResponse.encode { encoder }
  | .encodeFrame req =>
    update b opcode AmfFamily.encoder req.encoder fun state =>
      some ({ state with frames := saturatingSucc state.frames },
        Amf.EncodeFrameResponse.encode { packetLen := req.frameLen })
  | .destroyEncoder req => destroy b opcode AmfFamily.encoder req.encoder

instance : Backend AmfBackend where
  api := .amf
  Request := AmfRequest
  decode := AmfRequest.decode
  exec := AmfBackend.exec

namespace AmfRequest

def uses : AmfRequest → List (AmfFamily × Handle)
  | .createEncoder _ => []
  | .encodeFrame req => [(.encoder, req.encoder)]
  | .destroyEncoder req => [(.encoder, req.encoder)]

def effect : AmfRequest → Effect AmfFamily
  | .createEncoder _ => .create .encoder
  | .encodeFrame req => .write .encoder req.encoder
  | .destroyEncoder req => .destroy .encoder req.encoder

def returned : AmfRequest → Bytes → List (AmfFamily × Handle)
  | .createEncoder _, reply => carried .encoder (Amf.CreateEncoderResponse.decode reply) (·.encoder)
  | _, _ => []

theorem exec_did (b : AmfBackend) (opcode : UInt32) (r : AmfRequest) :
    Did returned b r r.effect (b.exec opcode r) := by
  unfold effect AmfBackend.exec
  cases r with
  | createEncoder req =>
    refine .created _ _ _ fun h => ?_
    exact carried_ok _ _ _ _ (Amf.CreateEncoderResponse.decode_exact.self _ trivial)
  | encodeFrame req => exact .update _ _ _ _ fun _ _ _ _ => rfl
  | destroyEncoder req => exact .destroy _ _ _ rfl

theorem exec_ok_iff (b : AmfBackend) (opcode : UInt32) (r : AmfRequest) :
    (∃ reply, (b.exec opcode r).1 = .ok reply) ↔ admitted (fun _ => uses) (fun _ _ => true) b r := by
  cases r <;> simp [AmfBackend.exec, admitted, uses, HandleTable.isLive, Option.isSome_iff_ne_none]

end AmfRequest

instance : Described AmfBackend where
  uses _ := AmfRequest.uses
  extra _ _ := true
  effect _ := AmfRequest.effect
  returned := AmfRequest.returned
  destroy_used b r f h he := by
    cases r <;> cases he
    exact List.mem_singleton.mpr rfl
  did := AmfRequest.exec_did
  ok_iff := AmfRequest.exec_ok_iff

end Graftx.Server
