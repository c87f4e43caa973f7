import Graftx.Server.Vulkan
import Graftx.Server.Compute
import Graftx.Server.Media
import Graftx.Server.Optix
import Graftx.Server.History
import Graftx.Protocol.Frame

/-! One client's session on the server: the negotiated cap, the outbound counter and the
backends registered for the API namespaces. Whether the handshake took place is recorded
here but never asked for. -/
namespace Graftx.Server
open Graftx.Protocol Graftx.Handles

inductive AnyBackend where
  | vulkan (b : VulkanBackend)
  | gl (b : GlBackend)
  | cuda (b : CudaBackend)
  | cl (b : ClBackend)
  | hip (b : HipBackend)
  | l0 (b : L0Backend)
  | video (b : VideoBackend)
  | webGpu (b : WebGpuBackend)
  | optix (b : OptixBackend)
  | sycl (b : SyclBackend)
  | amf (b : AmfBackend)

namespace AnyBackend

def api : AnyBackend → ApiId
  | .vulkan _ => Backend.api VulkanBackend
  | .gl _ => Backend.api GlBackend
  | .cuda _ => Backend.api CudaBackend
  | .cl _ => Backend.api ClBackend
  | .hip _ => Backend.api HipBackend
  | .l0 _ => Backend.api L0Backend
  | .video _ => Backend.api VideoBackend
  | .webGpu _ => Backend.api WebGpuBackend
  | .optix _ => Backend.api OptixBackend
  | .sycl _ => Backend.api SyclBackend
  | .amf _ => Backend.api AmfBackend

def wrap {B : Type} (mk : B → AnyBackend) (a : Answer B) : Answer AnyBackend := (a.1, mk a.2)

def handle (opcode : UInt32) (body : Bytes) : AnyBackend → Answer AnyBackend
  | .vulkan b => wrap .vulkan (Server.handle b opcode body)
  | .gl b => wrap .gl (Server.handle b opcode body)
  | .cuda b => wrap .cuda (Server.handle b opcode body)
  | .cl b => wrap .cl (Server.handle b opcode body)
  | .hip b => wrap .hip (Server.handle b opcode body)
  | .l0 b => wrap .l0 (Server.handle b opcode body)
  | .video b => wrap .video (Server.handle b opcode body)
  | .webGpu b => wrap .webGpu (Server.handle b opcode body)
  | .optix b => wrap .optix (Server.handle b opcode body)
  | .sycl b => wrap .sycl (Server.handle b opcode body)
  | .amf b => wrap .amf (Server.handle b opcode body)

@[simp] theorem api_handle (opcode : UInt32) (body : Bytes) (b : AnyBackend) :
    (b.handle opcode body).2.api = b.api := by
  cases b <;> rfl

theorem wrap_error {B : Type} [Backend B] [Described B] (mk : B → AnyBackend) (b : B)
    (opcode : UInt32) (body : Bytes) (e : ProtocolError)
    (h : (wrap mk (Server.handle b opcode body)).1 = .error e) :
    (wrap mk (Server.handle b opcode body)).2 = mk b :=
  congrArg mk (step_error b (opcode, body) e h)

/-- Whatever backend it is, a request it does not answer leaves it as it was. -/
theorem handle_error (opcode : UInt32) (body : Bytes) (b : AnyBackend) (e : ProtocolError)
    (h : (b.handle opcode body).1 = .error e) : (b.handle opcode body).2 = b := by
  cases b <;> exact wrap_error _ _ opcode body e h

end AnyBackend

inductive BackendKind where
  | vulkan | gl | cuda | cl | hip | l0 | video | webGpu | optix | sycl | amf
  deriving DecidableEq

namespace BackendKind

def new : BackendKind → AnyBackend
  | .vulkan => .vulkan Tables.empty
  | .gl => .gl Tables.empty
  | .cuda => .cuda Tables.empty
  | .cl => .cl Tables.empty
  | .hip => .hip Tables.empty
  | .l0 => .l0 Tables.empty
  | .video => .video Tables.empty
  | .webGpu => .webGpu Tables.empty
  | .optix => .optix Tables.empty
  | .sycl => .sycl Tables.empty
  | .amf => .amf Tables.empty

def all : List BackendKind :=
  [.vulkan, .gl, .cuda, .cl, .hip, .l0, .video, .webGpu, .optix, .sycl, .amf]

end BackendKind

/-- The backends of a session by namespace byte. Each sits under its own byte. -/
structure Registry where
  get : UInt8 → Option AnyBackend
  keyed : ∀ k b, get k = some b → b.api.byte = k

namespace Registry

def empty : Registry := ⟨fun _ => none, nofun⟩

def insert (r : Registry) (b : AnyBackend) : Registry where
  get k := if k = b.api.byte then some b else r.get k
  keyed k b' h := by
    split at h
    · rename_i hk
      cases h
      exact hk.symm
    · exact r.keyed k b' h

theorem get_core (r : Registry) : r.get 0 = none := by
  refine Option.eq_none_iff_forall_ne_some.mpr fun b hb => ?_
  have hcore : b.api = .core := ApiId.byte_inj (r.keyed 0 b hb)
  cases b <;> cases hcore

theorem ext_get (r r' : Registry) (h : ∀ k, r.get k = r'.get k) : r = r' := by
  cases r
  cases r'
  cases funext h
  rfl

theorem insert_of_get (r : Registry) (k : UInt8) (b : AnyBackend) (h : r.get k = some b) :
    r.insert b = r := by
  refine ext_get _ _ fun k' => ?_
  change (if k' = b.api.byte then some b else r.get k') = r.get k'
  rw [r.keyed k b h]
  split
  · rename_i hk
    rw [hk, h]
  · rfl

end Registry

structure Session where
  sessionId : UInt64
  maxFrameBody : UInt32
  handshook : Bool
  nextSeq : UInt64
  backends : Registry

/-- The checks every frame goes through before its opcode is looked at. -/
def framed (maxFrameBody : UInt32) (frame : Bytes) : Except ProtocolError (FrameHeader × Bytes) := do
  let (h, body) ← decodeFrame frame
  if h.bodyLen > maxFrameBody then throw (.frameTooLarge h.bodyLen)
  if h.bodyLen.toNat ≠ body.length then throw (.bodyLenMismatch h.bodyLen body.length)
  return (h, body)

namespace Session

def new (sessionId : UInt64) : Session where
  sessionId
  maxFrameBody := defaultMaxFrameBody
  handshook := false
  nextSeq := 1
  backends := .empty

def register (s : Session) (backend : AnyBackend) : Session :=
  { s with backends := s.backends.insert backend }

def isHandshook (s : Session) : Bool := s.handshook

def replyHeader (s : Session) (opcode reqId : UInt32) (body : Bytes) : FrameHeader where
  version := protocolMajor
  flags := 0
  kind := .response
  opcode
  reqId
  seq := s.nextSeq
  bodyLen := UInt32.ofNat body.length

/-- Frame a reply body and use up one sequence number. -/
def reply (s : Session) (opcode reqId : UInt32) (body : Bytes) : Answer Session :=
  (.ok (encodeFrame (s.replyHeader opcode reqId body) body), { s with nextSeq := s.nextSeq + 1 })

def negotiated (s : Session) (hello : Hello) : Session :=
  { s with maxFrameBody := min hello.maxFrameBody defaultMaxFrameBody, handshook := true }

def welcome (s : Session) : Welcome where
  protoMajor := protocolMajor
  protoMinor := protocolMinor
  features := 0
  maxFrameBody := s.maxFrameBody
  sessionId := s.sessionId

def greet (s : Session) (reqId : UInt32) (body : Bytes) : Answer Session :=
  match Hello.decode body with
  | .error e => (.error e, s)
  | .ok hello =>
    if hello.protoMajor ≠ protocolMajor then
      (.error (.badVersion hello.protoMajor hello.protoMinor), s)
    else
      let s' := s.negotiated hello
      s'.reply CoreOp.welcome reqId s'.welcome.encode

/-- Every opcode that is not a core one goes to the backend of its namespace. The backend
is called in place, so what it did to itself stays even if it then fails. -/
def route (s : Session) (opcode reqId : UInt32) (body : Bytes) : Answer Session :=
  match s.backends.get (opcodeApi opcode) with
  | none => (.error (.unknownOpcode opcode), s)
  | some backend =>
    match backend.handle opcode body with
    | (.error e, backend') => (.error e, s.register backend')
    | (.ok response, backend') => (s.register backend').reply opcode reqId response

def handle (s : Session) (frame : Bytes) : Answer Session :=
  -- neither the kind of the frame nor `handshook` is asked for
  match framed s.maxFrameBody frame with
  | .error e => (.error e, s)
  | .ok (h, body) =>
    if h.opcode = CoreOp.hello then s.greet h.reqId body
    else if h.opcode = CoreOp.noop then s.reply CoreOp.noop h.reqId []
    else s.route h.opcode h.reqId body

end Session
end Graftx.Server
