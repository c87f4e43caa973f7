import Graftx.Server.Replies
import Graftx.Server.Session

/-! What one call of `Session.handle` can do, and that a frame it refuses changes nothing. -/
namespace Graftx.Server
open Graftx.Protocol Graftx.Handles

theorem framed_ok (cap : UInt32) (frame body : Bytes) (h : FrameHeader)
    (hf : framed cap frame = .ok (h, body)) :
    decodeFrame frame = .ok (h, body) ∧ h.bodyLen ≤ cap ∧ h.bodyLen.toNat = body.length := by
  rw [framed] at hf
  cases hd : decodeFrame frame with
  | error e => rw [hd] at hf; cases hf
  | ok p =>
    obtain ⟨h', body'⟩ := p
    rw [hd] at hf
    simp only [bind, Except.bind, pure, Except.pure, throw, throwThe, MonadExceptOf.throw] at hf
    split at hf
    · cases hf
    · split at hf
      · cases hf
      · rename_i hcap hlen
        cases hf
        exact ⟨rfl, UInt32.not_lt.mp hcap, not_not.mp hlen⟩

theorem framed_encodeFrame {cap : UInt32} {h h' : FrameHeader} {body body' : Bytes}
    (hf : framed cap (encodeFrame h body) = .ok (h', body')) : h' = h ∧ body' = body := by
  have hd := (framed_ok _ _ _ _ hf).1
  rw [decodeFrame_encodeFrame] at hd
  cases hd
  exact ⟨rfl, rfl⟩

namespace AnyBackend

theorem fits_wrap {B : Type} [Backend B] [Shaped B] (mk : B → AnyBackend) (b : B)
    (opcode : UInt32) (body reply : Bytes)
    (h : (wrap mk (Server.handle b opcode body)).1 = .ok reply) : reply.length ≤ 12 := by
  obtain ⟨r, -, hfits⟩ := handle_fits b opcode body reply h
  exact hfits.length_le

/-- A backend type as one of the cases of `AnyBackend`, recognised by its namespace. -/
class Boxed (B : Type) [Backend B] where
  box : B → AnyBackend
  of_api : ∀ backend : AnyBackend, backend.api = Backend.api B → ∃ b, backend = box b
  handle_box : ∀ b opcode body, ((box b).handle opcode body).1 = (Server.handle b opcode body).1

theorem reply_length_le (opcode : UInt32) (body reply : Bytes) (b : AnyBackend)
    (h : (b.handle opcode body).1 = .ok reply) : reply.length ≤ 12 := by
  cases b <;> exact fits_wrap _ _ opcode body reply h

instance : Boxed VulkanBackend where
  box := .vulkan
  of_api b h := by cases b <;> first | exact ⟨_, rfl⟩ | cases h
  handle_box _ _ _ := rfl

instance : Boxed GlBackend where
  box := .gl
  of_api b h := by cases b <;> first | exact ⟨_, rfl⟩ | cases h
  handle_box _ _ _ := rfl

instance : Boxed CudaBackend where
  box := .cuda
  of_api b h := by cases b <;> first | exact ⟨_, rfl⟩ | cases h
  handle_box _ _ _ := rfl

instance : Boxed ClBackend where
  box := .cl
  of_api b h := by cases b <;> first | exact ⟨_, rfl⟩ | cases h
  handle_box _ _ _ := rfl

instance : Boxed HipBackend where
  box := .hip
  of_api b h := by cases b <;> first | exact ⟨_, rfl⟩ | cases h
  handle_box _ _ _ := rfl

instance : Boxed L0Backend where
  box := .l0
  of_api b h := by cases b <;> first | exact ⟨_, rfl⟩ | cases h
  handle_box _ _ _ := rfl

instance : Boxed VideoBackend where
  box := .video
  of_api b h := by cases b <;> first | exact ⟨_, rfl⟩ | cases h
  handle_box _ _ _ := rfl

instance : Boxed WebGpuBackend where
  box := .webGpu
  of_api b h := by cases b <;> first | exact ⟨_, rfl⟩ | cases h
  handle_box _ _ _ := rfl

instance : Boxed OptixBackend where
  box := .optix
  of_api b h := by cases b <;> first | exact ⟨_, rfl⟩ | cases h
  handle_box _ _ _ := rfl

instance : Boxed SyclBackend where
  box := .sycl
  of_api b h := by cases b <;> first | exact ⟨_, rfl⟩ | cases h
  handle_box _ _ _ := rfl

instance : Boxed AmfBackend where
  box := .amf
  of_api b h := by cases b <;> first | exact ⟨_, rfl⟩ | cases h
  handle_box _ _ _ := rfl

end AnyBackend

namespace Session

/-- Everything a call can do: refuse and leave the session alone, welcome, acknowledge a
`NOOP`, or pass on what a backend answered. -/
inductive Handled (s : Session) (frame : Bytes) : Answer Session → Prop where
  | refused (e : ProtocolError) : Handled s frame (.error e, s)
  | welcomed (h : FrameHeader) (body : Bytes) (hello : Hello)
      (hf : framed s.maxFrameBody frame = .ok (h, body)) (hop : h.opcode = CoreOp.hello)
      (hd : Hello.decode body = .ok hello) (hv : hello.protoMajor = protocolMajor) :
      Handled s frame ((s.negotiated hello).reply CoreOp.welcome h.reqId
        (s.negotiated hello).welcome.encode)
  | acknowledged (h : FrameHeader) (body : Bytes)
      (hf : framed s.maxFrameBody frame = .ok (h, body)) (hop : h.opcode = CoreOp.noop) :
      Handled s frame (s.reply CoreOp.noop h.reqId [])
  | answered (h : FrameHeader) (body : Bytes) (backend : AnyBackend) (response : Bytes)
      (hf : framed s.maxFrameBody frame = .ok (h, body))
      (hh : h.opcode ≠ CoreOp.hello) (hn : h.opcode ≠ CoreOp.noop)
      (hb : s.backends.get (opcodeApi h.opcode) = some backend)
      (hr : (backend.handle h.opcode body).1 = .ok response) :
      Handled s frame ((s.register (backend.handle h.opcode body).2).reply h.opcode h.reqId response)

theorem register_of_get (s : Session) (k : UInt8) (b : AnyBackend) (h : s.backends.get k = some b) :
    s.register b = s := by
  rw [register, s.backends.insert_of_get k b h]

theorem greet_handled (s : Session) (frame body : Bytes) (h : FrameHeader)
    (hf : framed s.maxFrameBody frame = .ok (h, body)) (hop : h.opcode = CoreOp.hello) :
    Handled s frame (s.greet h.reqId body) := by
  rw [greet]
  cases hd : Hello.decode body with
  | error e => exact .refused e
  | ok hello =>
    simp only
    split
    · exact .refused _
    · rename_i hv
      exact .welcomed h body hello hf hop hd (not_not.mp hv)

theorem route_handled (s : Session) (frame body : Bytes) (h : FrameHeader)
    (hf : framed s.maxFrameBody frame = .ok (h, body)) (hh : h.opcode ≠ CoreOp.hello)
    (hn : h.opcode ≠ CoreOp.noop) : Handled s frame (s.route h.opcode h.reqId body) := by
  rw [route]
  cases hb : s.backends.get (opcodeApi h.opcode) with
  | none => exact .refused _
  | some backend =>
    simp only
    split
    · rename_i e backend' hr
      -- the backend put back is the one that was taken out
      have hsame : backend' = backend := by
        have he := backend.handle_error h.opcode body e
        rw [hr] at he
        exact he rfl
      rw [hsame, s.register_of_get _ backend hb]
      exact .refused e
    · rename_i response backend' hr
      have ha := Handled.answered h body backend response hf hh hn hb (by rw [hr])
      rwa [hr] at ha

theorem handled (s : Session) (frame : Bytes) : Handled s frame (s.handle frame) := by
  rw [handle]
  cases hf : framed s.maxFrameBody frame with
  | error e => exact .refused e
  | ok p =>
    obtain ⟨h, body⟩ := p
    simp only
    split
    · rename_i hop
      exact s.greet_handled frame body h hf hop
    · rename_i hh
      split
      · rename_i hop
        exact .acknowledged h body hf hop
      · rename_i hn
        exact s.route_handled frame body h hf hh hn

theorem Handled.unchanged {s : Session} {frame : Bytes} {a : Answer Session} {e : ProtocolError}
    (h : Handled s frame a) (he : a.1 = .error e) : a.2 = s := by
  cases h with
  | refused => rfl
  | welcomed => cases he
  | acknowledged => cases he
  | answered => cases he

theorem answered_call (s s' : Session) (h : FrameHeader) (body reply : Bytes)
    (hh : h.opcode ≠ CoreOp.hello) (hn : h.opcode ≠ CoreOp.noop)
    (hs : s.handle (encodeFrame h body) = (.ok reply, s')) :
    ∃ backend response header, s.backends.get (opcodeApi h.opcode) = some backend ∧
      (backend.handle h.opcode body).1 = .ok response ∧ reply = encodeFrame header response ∧
      header.opcode = h.opcode ∧ header.kind = .response := by
  have hcases := s.handled (encodeFrame h body)
  generalize s.handle (encodeFrame h body) = a at hs hcases
  cases hcases with
  | refused e => cases hs
  | welcomed h' body' hello hf hop => exact absurd ((framed_encodeFrame hf).1 ▸ hop) hh
  | acknowledged h' body' hf hop => exact absurd ((framed_encodeFrame hf).1 ▸ hop) hn
  | answered h' body' backend response hf hhello hnoop hb hr =>
    obtain ⟨rfl, rfl⟩ := framed_encodeFrame hf
    cases hs
    exact ⟨backend, response, _, hb, hr, rfl, rfl, rfl⟩

theorem answered_hello (s s' : Session) (h : FrameHeader) (body reply : Bytes)
    (hh : h.opcode = CoreOp.hello) (hs : s.handle (encodeFrame h body) = (.ok reply, s')) :
    s'.sessionId = s.sessionId ∧ ∃ header, reply = encodeFrame header s'.welcome.encode ∧
      header.opcode = CoreOp.welcome ∧ header.kind = .response := by
  have hcases := s.handled (encodeFrame h body)
  generalize s.handle (encodeFrame h body) = a at hs hcases
  cases hcases with
  | refused e => cases hs
  | welcomed h' body' hello hf hop =>
    cases hs
    exact ⟨rfl, _, rfl, rfl, rfl⟩
  | acknowledged h' body' hf hop =>
    rw [(framed_encodeFrame hf).1, hh] at hop
    exact absurd hop (by decide)
  | answered h' body' backend response hf hhello =>
    exact absurd ((framed_encodeFrame hf).1 ▸ hh) hhello

theorem answered_noop (s s' : Session) (h : FrameHeader) (body reply : Bytes)
    (hn : h.opcode = CoreOp.noop) (hs : s.handle (encodeFrame h body) = (.ok reply, s')) :
    ∃ header, reply = encodeFrame header [] ∧ header.opcode = CoreOp.noop ∧
      header.kind = .response := by
  have hcases := s.handled (encodeFrame h body)
  generalize s.handle (encodeFrame h body) = a at hs hcases
  cases hcases with
  | refused e => cases hs
  | welcomed h' body' hello hf hop =>
    rw [(framed_encodeFrame hf).1, hn] at hop
    exact absurd hop (by decide)
  | acknowledged h' body' hf hop =>
    cases hs
    exact ⟨_, rfl, rfl, rfl⟩
  | answered h' body' backend response hf hhello hnoop =>
    exact absurd ((framed_encodeFrame hf).1 ▸ hn) hnoop

/-- A refused frame leaves the cap, the handshake flag, the counter and every table of
every backend as they were. -/
theorem error_changes_nothing (s : Session) (frame : Bytes) (e : ProtocolError)
    (h : (s.handle frame).1 = .error e) : (s.handle frame).2 = s :=
  (s.handled frame).unchanged h

/-- A Vulkan session refuses to free memory it never allocated. -/
theorem error_changes_nothing_free :
    let s := (Session.new 1).register (.vulkan .new)
    let frame := encodeFrame
      { version := 0, flags := 0, kind := .request, opcode := VkOp.freeMemory, reqId := 7, seq := 1,
        bodyLen := 8 }
      (Vk.FreeMemoryRequest.mk (Handle.new 5 0 0)).encode
    (s.handle frame).2 = s :=
  error_changes_nothing _ _ (.unknownOpcode VkOp.freeMemory) (by decide +kernel)

end Session
end Graftx.Server
