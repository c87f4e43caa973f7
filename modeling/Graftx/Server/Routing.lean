import Graftx.Lib.Components
import Graftx.Server.ApiIsolation

/-! A session as the sum of its backends. Each backend goes through a run of the session as if
it stood alone and were sent the requests of its namespace that get through the framing. -/
namespace Graftx.Server
open Graftx.Protocol Lib.Machine

namespace AnyBackend

def step (b : AnyBackend) (i : Input) : Answer AnyBackend := b.handle i.1 i.2

theorem final_wrap {B : Type} [Backend B] (mk : B → AnyBackend)
    (hmk : ∀ b opcode body, (mk b).handle opcode body = wrap mk (Server.handle b opcode body))
    (b : B) (is : List Input) : final step (mk b) is = mk (final Server.step b is) := by
  induction is generalizing b with
  | nil => rfl
  | cons i is ih =>
    rw [final, final, step, hmk]
    exact ih _

end AnyBackend

theorem final_step {B : Type} [Backend B] [Described B] (b : B) (is : List Input) :
    final step b is = final observe b is := by
  induction is generalizing b with
  | nil => rfl
  | cons i is ih => exact ih _

def BackendKind.after (is : List Input) : BackendKind → AnyBackend
  | .vulkan => .vulkan (stateAfter VulkanBackend is)
  | .gl => .gl (stateAfter GlBackend is)
  | .cuda => .cuda (stateAfter CudaBackend is)
  | .cl => .cl (stateAfter ClBackend is)
  | .hip => .hip (stateAfter HipBackend is)
  | .l0 => .l0 (stateAfter L0Backend is)
  | .video => .video (stateAfter VideoBackend is)
  | .webGpu => .webGpu (stateAfter WebGpuBackend is)
  | .optix => .optix (stateAfter OptixBackend is)
  | .sycl => .sycl (stateAfter SyclBackend is)
  | .amf => .amf (stateAfter AmfBackend is)

theorem final_new {B : Type} [Backend B] [Described B] (mk : B → AnyBackend)
    (hmk : ∀ b opcode body,
      (mk b).handle opcode body = AnyBackend.wrap mk (Server.handle b opcode body))
    (is : List Input) : final AnyBackend.step (mk Tables.empty) is = mk (stateAfter B is) := by
  rw [AnyBackend.final_wrap mk hmk, final_step]
  rfl

theorem BackendKind.final_new (kind : BackendKind) (is : List Input) :
    final AnyBackend.step kind.new is = kind.after is := by
  cases kind with
  | vulkan => exact Server.final_new .vulkan (fun _ _ _ => rfl) is
  | gl => exact Server.final_new .gl (fun _ _ _ => rfl) is
  | cuda => exact Server.final_new .cuda (fun _ _ _ => rfl) is
  | cl => exact Server.final_new .cl (fun _ _ _ => rfl) is
  | hip => exact Server.final_new .hip (fun _ _ _ => rfl) is
  | l0 => exact Server.final_new .l0 (fun _ _ _ => rfl) is
  | video => exact Server.final_new .video (fun _ _ _ => rfl) is
  | webGpu => exact Server.final_new .webGpu (fun _ _ _ => rfl) is
  | optix => exact Server.final_new .optix (fun _ _ _ => rfl) is
  | sycl => exact Server.final_new .sycl (fun _ _ _ => rfl) is
  | amf => exact Server.final_new .amf (fun _ _ _ => rfl) is

namespace Session

/-- The request a frame carries to the backend under `k`, if the session lets it through. -/
def delivered (k : UInt8) (s : Session) (frame : Bytes) : Option Input :=
  match framed s.maxFrameBody frame with
  | .error _ => none
  | .ok (h, body) =>
    if h.opcode = CoreOp.hello ∨ h.opcode = CoreOp.noop ∨ opcodeApi h.opcode ≠ k then none
    else some (h.opcode, body)

def replyBody (a : Except ProtocolError Bytes) : Except ProtocolError Bytes :=
  a.map fun reply => reply.drop headerLen

theorem replyBody_reply (s : Session) (opcode reqId : UInt32) (body : Bytes) :
    replyBody (s.reply opcode reqId body).1 = .ok body := by
  rw [reply, replyBody, Except.map, encodeFrame]
  exact congrArg _ (List.drop_left' (FrameHeader.encode_length _))

theorem delivered_eq_some {k : UInt8} {s : Session} {frame : Bytes} {i : Input}
    (h : delivered k s frame = some i) : ∃ hd : FrameHeader,
      framed s.maxFrameBody frame = .ok (hd, i.2) ∧ hd.opcode = i.1 ∧
        i.1 ≠ CoreOp.hello ∧ i.1 ≠ CoreOp.noop ∧ opcodeApi i.1 = k := by
  rw [delivered] at h
  split at h
  · cases h
  · rename_i hd body hf
    split at h
    · cases h
    · rename_i hno
      cases h
      simp only [not_or, not_not] at hno
      exact ⟨hd, hf, rfl, hno⟩

theorem get_of_not_delivered {k : UInt8} {s : Session} {frame : Bytes}
    (h : delivered k s frame = none) : (s.handle frame).2.backends.get k = s.backends.get k := by
  have hh := s.handled frame
  generalize s.handle frame = a at hh
  cases hh with
  | refused => rfl
  | welcomed => rfl
  | acknowledged => rfl
  | answered hd body backend response hf hhello hnoop hb hr =>
    have hne : opcodeApi hd.opcode ≠ k := by
      intro hk
      rw [delivered, hf] at h
      simp [hhello, hnoop, hk] at h
    change (s.register _).backends.get k = _
    rw [get_register, AnyBackend.api_handle, s.backends.keyed _ backend hb, if_neg hne.symm]

theorem get_of_delivered {k : UInt8} {s : Session} {frame : Bytes} {i : Input} {b : AnyBackend}
    (hb : s.backends.get k = some b) (h : delivered k s frame = some i) :
    (s.handle frame).2.backends.get k = some (b.step i).2 ∧
      replyBody (s.handle frame).1 = (b.step i).1 := by
  obtain ⟨hd, hf, hop, hhello, hnoop, hk⟩ := delivered_eq_some h
  have hput : (s.register (b.step i).2).backends.get k = some (b.step i).2 := by
    rw [get_register, AnyBackend.step, AnyBackend.api_handle, s.backends.keyed k b hb, if_pos rfl]
  rw [handle, hf]
  simp only [hop, if_neg hhello, if_neg hnoop]
  rw [route, hk, hb]
  simp only
  rw [show b.handle i.1 i.2 = b.step i from rfl]
  rcases hstep : b.step i with ⟨answer, b'⟩
  rw [hstep] at hput
  cases answer with
  | error e => exact ⟨hput, rfl⟩
  | ok response => exact ⟨hput, replyBody_reply _ _ _ _⟩

theorem component (k : UInt8) : Component handle (delivered k)
    (fun s (b : AnyBackend) => s.backends.get k = some b) AnyBackend.step replyBody id where
  quiet _ _ _ hb h := (get_of_not_delivered h).trans hb
  reached _ _ _ _ hb h := get_of_delivered hb h

theorem get_none (k : UInt8) (s : Session) (frames : List Bytes) (h : s.backends.get k = none) :
    (final handle s frames).backends.get k = none := by
  induction frames generalizing s with
  | nil => exact h
  | cons frame frames ih =>
    refine ih _ ?_
    have hh := s.handled frame
    generalize s.handle frame = a at hh
    cases hh with
    | refused => exact h
    | welcomed => exact h
    | acknowledged => exact h
    | answered hd body backend response hf hhello hnoop hb hr =>
      change (s.register _).backends.get k = _
      rw [get_register, AnyBackend.api_handle, s.backends.keyed _ backend hb, if_neg, h]
      rintro rfl
      rw [hb] at h
      cases h

/-- Over any frames, `HELLO`s and refused ones among them, the backend under `k` ends up as it
does when it is sent nothing but the requests that reach it, and what the session answers to
those carries what that backend answers; no backend comes or goes. -/
theorem backends_run_alone (s : Session) (k : UInt8) (frames : List Bytes) :
    (final handle s frames).backends.get k =
        (s.backends.get k).map (fun b => final AnyBackend.step b
          (inbox handle (delivered k) s frames)) ∧
      ∀ b, s.backends.get k = some b →
        answersTo handle (delivered k) replyBody s frames =
          (log AnyBackend.step b (inbox handle (delivered k) s frames)).map Prod.snd := by
  constructor
  · cases hb : s.backends.get k with
    | none => exact get_none k s frames hb
    | some b => exact ((component k).runs_alone s b hb frames).1
  · intro b hb
    exact ((component k).runs_alone s b hb frames).2

/-- In particular what is known of the runs of a new backend is known of it in a session. -/
theorem backend_after (s : Session) (k : UInt8) (kind : BackendKind) (frames : List Bytes)
    (h : s.backends.get k = some kind.new) : (final handle s frames).backends.get k =
      some (kind.after (inbox handle (delivered k) s frames)) := by
  rw [(component k).runs_alone s kind.new h frames |>.1, kind.final_new]

end Session
end Graftx.Server
