import Graftx.Server.Served
import Graftx.Server.Requests

/-! One shim against a served session whose backend answers it. -/
namespace Graftx.Loadtest
open Graftx.Protocol Graftx.Obs Graftx.Server Graftx.Client

theorem length_requestFrame (opcode reqId : UInt32) (seq : UInt64) (body : Bytes) :
    (requestFrame opcode reqId seq body).length = headerLen + body.length := by
  rw [requestFrame, encodeFrame, List.length_append, FrameHeader.encode_length]

theorem apiOf_requestFrame (opcode reqId : UInt32) (seq : UInt64) (body : Bytes) :
    apiOf (requestFrame opcode reqId seq body) = some (apiName (opcodeApi opcode)) := by
  rw [apiOf, requestFrame, decodeFrame_encodeFrame]
  rfl

theorem framed_requestFrame {cap opcode reqId : UInt32} {seq : UInt64} {body : Bytes}
    (h : body.length ≤ cap.toNat) : framed cap (requestFrame opcode reqId seq body) =
      .ok (requestHeader opcode reqId seq body, body) := by
  have hlt := cap.toNat_lt
  have hlen : (UInt32.ofNat body.length).toNat = body.length :=
    UInt32.toNat_ofNat_of_lt' (by rw [UInt32.size]; omega)
  have hcap : ¬ (requestHeader opcode reqId seq body).bodyLen > cap := by
    change ¬ cap < UInt32.ofNat body.length
    rw [UInt32.not_lt, UInt32.le_iff_toNat_le, hlen]
    exact h
  have heq : ¬ (requestHeader opcode reqId seq body).bodyLen.toNat ≠ body.length := not_not.mpr hlen
  rw [framed, requestFrame, decodeFrame_encodeFrame]
  simp only [bind, Except.bind, pure, Except.pure, if_neg hcap, if_neg heq]

def answeredBy (s : Session) (backend : AnyBackend) : Session :=
  { s.register backend with nextSeq := s.nextSeq + 1 }

section
variable {s : Session} (registry : ObsRegistry) {opcode : UInt32} {body response : Bytes}
  {backend backend' : AnyBackend} (reqId : UInt32) (seq : UInt64)

theorem handle_requestFrame (hcap : body.length ≤ s.maxFrameBody.toNat)
    (hcore : opcode ≠ CoreOp.hello ∧ opcode ≠ CoreOp.noop)
    (hb : s.backends.get (opcodeApi opcode) = some backend)
    (hr : backend.handle opcode body = (.ok response, backend')) :
    s.handle (requestFrame opcode reqId seq body) =
      (.ok (encodeFrame (s.replyHeader opcode reqId response) response),
        answeredBy s backend') := by
  rw [Session.handle, framed_requestFrame hcap]
  simp only [requestHeader, if_neg hcore.1, if_neg hcore.2, Session.route, hb, hr]
  rfl

theorem run_asking_served {α : Type} (read : Bytes → Except ClientError α)
    (hcap : body.length ≤ s.maxFrameBody.toNat)
    (hcore : opcode ≠ CoreOp.hello ∧ opcode ≠ CoreOp.noop)
    (hb : s.backends.get (opcodeApi opcode) = some backend)
    (hr : backend.handle opcode body = (.ok response, backend')) :
    (asking opcode opcode body read reqId seq).run (Served.start s registry) =
      (read response, Served.start (answeredBy s backend')
        (registry.record (apiName (opcodeApi opcode)) (UInt64.ofNat (headerLen + body.length))
          (UInt64.ofNat (headerLen + response.length)))) := by
  have hh := handle_requestFrame reqId seq hcap hcore hb hr
  have hread : readReply opcode (encodeFrame (s.replyHeader opcode reqId response) response) =
      .ok response := readReply_encodeFrame (s.replyHeader opcode reqId response) response rfl
  have hlen : (encodeFrame (s.replyHeader opcode reqId response) response).length =
      headerLen + response.length := by
    rw [encodeFrame, List.length_append, FrameHeader.encode_length]
  rw [asking, Conversation.run_ask (Served.roundtrip_answered registry hh), apiOf_requestFrame,
    counted, length_requestFrame, hlen, Conversation.run]
  simp only [hread]
  rfl

end
end Graftx.Loadtest
