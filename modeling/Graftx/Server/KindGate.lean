import Graftx.Server.HandshakeGate
import Graftx.Trace.Recording

/-! The kind byte that the session does not read. A response or an event is served like a
request, so it stays without effect exactly when a request of that content would. -/
namespace Graftx.Server
open Graftx.Protocol Graftx.Handles Lib.Machine

/-- The header can be read and is that of a response or of an event. -/
def NotRequest (frame : Bytes) : Prop :=
  ∃ h body, decodeFrame frame = .ok (h, body) ∧ h.kind ≠ .request

theorem isRequest_eq_false (frame : Bytes) :
    isRequest frame = false ↔ NotRequest frame ∨ ∃ e, decodeFrame frame = .error e := by
  rw [isRequest, NotRequest]
  cases decodeFrame frame with
  | error e => simp
  | ok p =>
    obtain ⟨h, body⟩ := p
    simp

namespace Session

theorem unserved_of_decode_error (s : Session) (frame : Bytes) (e : ProtocolError)
    (h : decodeFrame frame = .error e) : s.Unserved frame := by
  have hnot (hd : FrameHeader) (body : Bytes) : ¬ framed s.maxFrameBody frame = .ok (hd, body) := by
    intro hf
    rw [(framed_ok _ _ _ _ hf).1] at h
    cases h
  refine ⟨?_, fun hd body hf => absurd hf (hnot hd body)⟩
  rintro ⟨hd, body, hello, hf, -⟩
  exact hnot hd body hf

/-- The gate over a run: responses and events are refused, no backend sees them and they
leave the session as it was. -/
def KindGated (s : Session) (frames : List Bytes) : Prop :=
  Along (fun before frame => NotRequest frame → (final handle s before).Ignores frame) frames

def SkippedIgnored (s : Session) (frames : List Bytes) : Prop :=
  Along (fun before frame => isRequest frame = false → (final handle s before).Ignores frame) frames

/-- Whatever is not a request meets a session with nothing to serve it. -/
def OthersUnserved (s : Session) (frames : List Bytes) : Prop :=
  Along (fun before frame => NotRequest frame → (final handle s before).Unserved frame) frames

/-- A run keeps to the gate, and ignores what a replay would skip, if and only if each of
its responses and events is one the session would not have served as a request either. -/
theorem kind_gated_iff (s : Session) (frames : List Bytes) :
    (s.KindGated frames ↔ s.OthersUnserved frames) ∧
      (s.SkippedIgnored frames ↔ s.OthersUnserved frames) := by
  refine ⟨⟨?_, ?_⟩, ⟨?_, ?_⟩⟩
  · intro h before frame after he hk
    exact (ignores_iff_unserved _ frame).mp (h before frame after he hk)
  · intro h before frame after he hk
    exact (ignores_iff_unserved _ frame).mpr (h before frame after he hk)
  · intro h before frame after he hk
    have hskip := (isRequest_eq_false frame).mpr (.inl hk)
    exact (ignores_iff_unserved _ frame).mp (h before frame after he hskip)
  · intro h before frame after he hskip
    refine (ignores_iff_unserved _ frame).mpr ?_
    obtain hk | ⟨e, herr⟩ := (isRequest_eq_false frame).mp hskip
    · exact h before frame after he hk
    · exact unserved_of_decode_error _ frame e herr

def createInstanceReply : Bytes :=
  encodeFrame
    { version := protocolMajor, flags := 0, kind := .response, opcode := VkOp.createInstance,
      reqId := 7, seq := 1, bodyLen := 8 }
    (Vk.CreateInstanceResponse.mk (Handle.new 1 0 0)).encode

example : ((opened 1 [.vulkan .new]).handle earlyCreateInstance).1 = .ok createInstanceReply := by
  decide +kernel

/-- The reply looped back to the server creates another instance. -/
theorem looped_reply_is_served :
    ¬ ∀ (sessionId : UInt64) (backends : List AnyBackend) (frames : List Bytes),
      (opened sessionId backends).KindGated frames := by
  intro h
  have hk : NotRequest createInstanceReply := ⟨_, _, decodeFrame_encodeFrame _ _, by decide⟩
  have hig := h 1 [.vulkan .new] [earlyCreateInstance, createInstanceReply] [earlyCreateInstance]
    createInstanceReply [] rfl hk
  obtain ⟨e, he⟩ := hig.refused
  have hok : ((final handle (opened 1 [.vulkan .new])
      [earlyCreateInstance]).handle createInstanceReply).1.toOption.isSome = true := by
    decide +kernel
  rw [he] at hok
  cases hok

end Session
end Graftx.Server
