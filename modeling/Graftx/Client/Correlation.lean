import Graftx.Client.Catalog
import Graftx.Client.OverSession
import Graftx.Server.Framing
import Graftx.Transport.Loopback
import Graftx.Transport.Traced

/-! Which reply a call takes for its own. A shim looks at the opcode and the kind of the frame
it receives and at its body, and not at the identifier that says which request it answers. -/
namespace Graftx.Client
open Graftx.Protocol Graftx.Server Lib.Machine

inductive ShimCall where
  | handshake
  | noop (reqId : UInt32) (seq : UInt64)
  | vk (r : VkRequest) (reqId : UInt32) (seq : UInt64)
  | gl (r : GlRequest) (reqId : UInt32) (seq : UInt64)
  | cuda (r : CudaRequest) (reqId : UInt32) (seq : UInt64)
  | cl (r : ClRequest) (reqId : UInt32) (seq : UInt64)
  | hip (r : HipRequest) (reqId : UInt32) (seq : UInt64)
  | l0 (r : L0Request) (reqId : UInt32) (seq : UInt64)
  | video (r : VideoRequest) (reqId : UInt32) (seq : UInt64)
  | wgpu (r : WgpuRequest) (reqId : UInt32) (seq : UInt64)
  | optix (r : OptixRequest) (reqId : UInt32) (seq : UInt64)
  | sycl (r : SyclRequest) (reqId : UInt32) (seq : UInt64)
  | amf (r : AmfRequest) (reqId : UInt32) (seq : UInt64)

/-- What a shim sends, and what it takes for an answer. -/
structure Exchange (α : Type) where
  opcode : UInt32
  expected : UInt32
  body : Bytes
  read : Bytes → Except ClientError α
  reqId : UInt32
  seq : UInt64

def Exchange.ofRequest {B : Type} [Backend B] [Shaped B] [Wired B] [Shimmed B] (r : Request B)
    (reqId : UInt32) (seq : UInt64) : Exchange (Value (shape r)) :=
  ⟨(toWire r).1, (toWire r).1, (toWire r).2, Shimmed.read r, reqId, seq⟩

namespace ShimCall
variable {T : Type} [Transport T]

def Result : ShimCall → Type
  | .handshake => Welcome
  | .noop _ _ => Unit
  | .vk r _ _ => Value (shape (B := VulkanBackend) r)
  | .gl r _ _ => Value (shape (B := GlBackend) r)
  | .cuda r _ _ => Value (shape (B := CudaBackend) r)
  | .cl r _ _ => Value (shape (B := ClBackend) r)
  | .hip r _ _ => Value (shape (B := HipBackend) r)
  | .l0 r _ _ => Value (shape (B := L0Backend) r)
  | .video r _ _ => Value (shape (B := VideoBackend) r)
  | .wgpu r _ _ => Value (shape (B := WebGpuBackend) r)
  | .optix r _ _ => Value (shape (B := OptixBackend) r)
  | .sycl r _ _ => Value (shape (B := SyclBackend) r)
  | .amf r _ _ => Value (shape (B := AmfBackend) r)

def call : (c : ShimCall) → Call T c.Result
  | .handshake => Client.handshake
  | .noop reqId seq => Client.noop reqId seq
  | .vk r reqId seq => Shimmed.shim (B := VulkanBackend) r reqId seq
  | .gl r reqId seq => Shimmed.shim (B := GlBackend) r reqId seq
  | .cuda r reqId seq => Shimmed.shim (B := CudaBackend) r reqId seq
  | .cl r reqId seq => Shimmed.shim (B := ClBackend) r reqId seq
  | .hip r reqId seq => Shimmed.shim (B := HipBackend) r reqId seq
  | .l0 r reqId seq => Shimmed.shim (B := L0Backend) r reqId seq
  | .video r reqId seq => Shimmed.shim (B := VideoBackend) r reqId seq
  | .wgpu r reqId seq => Shimmed.shim (B := WebGpuBackend) r reqId seq
  | .optix r reqId seq => Shimmed.shim (B := OptixBackend) r reqId seq
  | .sycl r reqId seq => Shimmed.shim (B := SyclBackend) r reqId seq
  | .amf r reqId seq => Shimmed.shim (B := AmfBackend) r reqId seq

def exchange : (c : ShimCall) → Exchange c.Result
  | .handshake =>
    ⟨CoreOp.hello, CoreOp.welcome, hello.encode, fun b => fromProtocol (Welcome.decode b), 1, 1⟩
  | .noop reqId seq => ⟨CoreOp.noop, CoreOp.noop, [], readAck, reqId, seq⟩
  | .vk r reqId seq => .ofRequest (B := VulkanBackend) r reqId seq
  | .gl r reqId seq => .ofRequest (B := GlBackend) r reqId seq
  | .cuda r reqId seq => .ofRequest (B := CudaBackend) r reqId seq
  | .cl r reqId seq => .ofRequest (B := ClBackend) r reqId seq
  | .hip r reqId seq => .ofRequest (B := HipBackend) r reqId seq
  | .l0 r reqId seq => .ofRequest (B := L0Backend) r reqId seq
  | .video r reqId seq => .ofRequest (B := VideoBackend) r reqId seq
  | .wgpu r reqId seq => .ofRequest (B := WebGpuBackend) r reqId seq
  | .optix r reqId seq => .ofRequest (B := OptixBackend) r reqId seq
  | .sycl r reqId seq => .ofRequest (B := SyclBackend) r reqId seq
  | .amf r reqId seq => .ofRequest (B := AmfBackend) r reqId seq

theorem call_eq (c : ShimCall) : (c.call : Call T c.Result) = Client.exchange c.exchange.opcode
    c.exchange.expected c.exchange.body c.exchange.read c.exchange.reqId c.exchange.seq := by
  cases c with
  | handshake => rfl
  | noop reqId seq => rfl
  | vk r reqId seq => exact Shimmed.shim_eq (B := VulkanBackend) r reqId seq
  | gl r reqId seq => exact Shimmed.shim_eq (B := GlBackend) r reqId seq
  | cuda r reqId seq => exact Shimmed.shim_eq (B := CudaBackend) r reqId seq
  | cl r reqId seq => exact Shimmed.shim_eq (B := ClBackend) r reqId seq
  | hip r reqId seq => exact Shimmed.shim_eq (B := HipBackend) r reqId seq
  | l0 r reqId seq => exact Shimmed.shim_eq (B := L0Backend) r reqId seq
  | video r reqId seq => exact Shimmed.shim_eq (B := VideoBackend) r reqId seq
  | wgpu r reqId seq => exact Shimmed.shim_eq (B := WebGpuBackend) r reqId seq
  | optix r reqId seq => exact Shimmed.shim_eq (B := OptixBackend) r reqId seq
  | sycl r reqId seq => exact Shimmed.shim_eq (B := SyclBackend) r reqId seq
  | amf r reqId seq => exact Shimmed.shim_eq (B := AmfBackend) r reqId seq

def frame (c : ShimCall) : Bytes :=
  requestFrame c.exchange.opcode c.exchange.reqId c.exchange.seq c.exchange.body

theorem decode_frame (c : ShimCall) : ∃ header, decodeFrame c.frame =
    .ok (header, c.exchange.body) ∧ header.reqId = c.exchange.reqId :=
  ⟨_, decodeFrame_encodeFrame _ _, rfl⟩

/-- The transport takes the request of the call and then delivers a frame that the checks of
the shim let through: a response under the expected opcode, with a body that reads as `v`. -/
def Delivers (t : T) (c : ShimCall) (reply : Bytes) (h : FrameHeader) (v : c.Result) : Prop :=
  ∃ t' t'' b, Transport.send t c.frame = (.ok (), t') ∧ Transport.recv t' = (.ok reply, t'') ∧
    decodeFrame reply = .ok (h, b) ∧ h.opcode = c.exchange.expected ∧ h.kind = .response ∧
    c.exchange.read b = .ok v

theorem ok_iff (t : T) (c : ShimCall) (v : c.Result) :
    (c.call.run t).1 = .ok v ↔ ∃ reply h, Delivers t c reply h v := by
  rw [c.call_eq]
  rcases hs : Transport.send t c.frame with ⟨r, t'⟩
  cases r with
  | error e =>
    rw [run_exchange_unsent hs]
    simp [Delivers, hs]
  | ok u =>
    rcases hr : Transport.recv t' with ⟨r, t''⟩
    cases r with
    | error e =>
      rw [run_exchange_unanswered hs hr]
      simp [Delivers, hs, hr]
    | ok reply =>
      rw [run_exchange_answered hs hr]
      constructor
      · intro hok
        cases hb : readReply c.exchange.expected reply with
        | error e =>
          rw [hb] at hok
          cases hok
        | ok b =>
          rw [hb] at hok
          obtain ⟨h, hd, hop, hk⟩ := readReply_ok_iff.mp hb
          exact ⟨reply, h, t', t'', b, hs, hr, hd, hop, hk, hok⟩
      · rintro ⟨reply', h, q', q'', b, hs', hr', hd, hop, hk, hread⟩
        cases hs.symm.trans hs'
        cases hr.symm.trans hr'
        rw [readReply_ok_iff.mpr ⟨h, hd, hop, hk⟩]
        exact hread

theorem traced_of_delivers {t : T} {c : ShimCall} {reply : Bytes} {h : FrameHeader}
    {v : c.Result} (hd : Delivers t c reply h v) :
    (c.call.run (Traced.start t)).2.sends = [(c.frame, .ok ())] ∧
      (c.call.run (Traced.start t)).2.received = [reply] := by
  obtain ⟨t', t'', b, hs, hr, -⟩ := hd
  have hs' := (Traced.start t).send_eq hs
  have hr' := Traced.recv_eq ⟨t', [], [(c.frame, .ok ())]⟩ hr
  rw [c.call_eq, run_exchange_answered hs' hr']
  exact ⟨rfl, rfl⟩

/-- If the call returns a value, it received one frame and that frame carries the identifier
of the one request it sent. -/
def Correlated (t : T) (c : ShimCall) : Prop :=
  ∀ v, (c.call.run t).1 = .ok v → ∃ request reply sent answer,
    (c.call.run (Traced.start t)).2.sends = [(request, .ok ())] ∧
    (c.call.run (Traced.start t)).2.received = [reply] ∧
    decodeFrame request = .ok sent ∧ decodeFrame reply = .ok answer ∧
    answer.1.reqId = sent.1.reqId

/-- The transport delivers an acceptable answer to another request. -/
def StaleAnswer (t : T) (c : ShimCall) : Prop :=
  ∃ reply h v, Delivers t c reply h v ∧ h.reqId ≠ c.exchange.reqId

theorem correlated_iff (t : T) (c : ShimCall) : Correlated t c ↔ ¬ StaleAnswer t c := by
  obtain ⟨header, hframe, hid⟩ := c.decode_frame
  constructor
  · rintro hcor ⟨reply, h, v, hd, hne⟩
    obtain ⟨hsends, hreceived⟩ := traced_of_delivers hd
    obtain ⟨request, reply', sent, answer, hreq, hrep, hsent, hanswer, heq⟩ :=
      hcor v ((ok_iff t c v).mpr ⟨reply, h, hd⟩)
    cases hsends.symm.trans hreq
    cases hreceived.symm.trans hrep
    obtain ⟨t', t'', b, -, -, hdecode, -⟩ := hd
    cases hdecode.symm.trans hanswer
    cases hframe.symm.trans hsent
    exact hne (heq.trans hid)
  · intro hfresh v hok
    obtain ⟨reply, h, hd⟩ := (ok_iff t c v).mp hok
    obtain ⟨hsends, hreceived⟩ := traced_of_delivers hd
    have heq : h.reqId = c.exchange.reqId := by
      by_contra hne
      exact hfresh ⟨reply, h, v, hd, hne⟩
    obtain ⟨t', t'', b, -, -, hdecode, -⟩ := hd
    exact ⟨c.frame, reply, _, _, hsends, hreceived, hframe, hdecode, heq.trans hid.symm⟩

def after (t : T) (calls : List ShimCall) : T := calls.foldl (fun t c => (c.call.run t).2) t

/-- Every call that returns a value took the answer to its own request. -/
def AllCorrelated (t : T) (calls : List ShimCall) : Prop :=
  Along (fun before c => Correlated (after t before) c) calls

theorem not_staleAnswer_session (l : SessionLink) (c : ShimCall) : ¬ StaleAnswer l c := by
  rintro ⟨reply, h, v, ⟨l', l'', b, hs, hr, hdecode, -⟩, hne⟩
  obtain ⟨header, hframe, hid⟩ := c.decode_frame
  rcases hh : l.session.handle c.frame with ⟨a, s'⟩
  simp only [Transport.send, hh] at hs
  cases a with
  | error e =>
    cases hs
    cases hr
  | ok reply' =>
    cases hs
    cases hr
    obtain ⟨request, _, answer, _, hreq, hrep, hto⟩ :=
      l.session.answers_of_ok c.frame reply (by rw [hh])
    cases hframe.symm.trans hreq
    cases hrep.symm.trans hdecode
    exact hne (hto.reqId.trans hid)

theorem calls_correlate_session (l : SessionLink) (calls : List ShimCall) :
    AllCorrelated l calls := fun before c _ _ =>
  (correlated_iff _ c).mpr (not_staleAnswer_session (after l before) c)

end ShimCall
end Graftx.Client
