import Graftx.Lib.Noninterference
import Graftx.Server.HandshakeGate

/-! Isolation of the APIs that share a session. A `HELLO` aside, the frames of one namespace
see the cap, which stays, and the backend of that namespace, which no other frame reaches;
the only thing they share is the running number of the replies. -/
namespace Graftx.Server
open Graftx.Protocol Lib.Machine

def namespaceOf (frame : Bytes) : Option UInt8 :=
  match decodeFrame frame with
  | .error _ => none
  | .ok (h, _) => some (opcodeApi h.opcode)

def ofApi (k : UInt8) (frame : Bytes) : Bool := namespaceOf frame = some k

/-- An answer as the peer reads it, the running number aside: refused for a reason, or a
reply with its header and body. -/
def unnumbered (a : Except ProtocolError Bytes) :
    Except ProtocolError (Option (FrameHeader × Bytes)) :=
  a.map fun reply => (decodeFrame reply).toOption.map fun p => ({ p.1 with seq := 0 }, p.2)

theorem ofApi_of_framed {cap : UInt32} {frame body : Bytes} {h : FrameHeader} (k : UInt8)
    (hf : framed cap frame = .ok (h, body)) : ofApi k frame = decide (opcodeApi h.opcode = k) := by
  rw [ofApi, namespaceOf, (framed_ok cap frame body h hf).1]
  simp

namespace Session

/-- All that the frames of namespace `k` depend on. -/
def view (k : UInt8) (s : Session) : UInt32 × Option AnyBackend :=
  (s.maxFrameBody, s.backends.get k)

theorem get_register (s : Session) (b : AnyBackend) (k : UInt8) :
    (s.register b).backends.get k = if k = b.api.byte then some b else s.backends.get k := rfl

theorem unnumbered_reply (s s' : Session) (opcode reqId : UInt32) (body : Bytes) :
    unnumbered (s.reply opcode reqId body).1 = unnumbered (s'.reply opcode reqId body).1 := by
  simp [unnumbered, reply, replyHeader, Except.map, Except.toOption]

theorem view_of_foreign (k : UInt8) (s : Session) (frame : Bytes) (hne : ¬ IsHello frame)
    (hk : ofApi k frame = false) : view k (s.handle frame).2 = view k s := by
  have hh := s.handled frame
  generalize s.handle frame = a at hh
  cases hh with
  | refused e => rfl
  | welcomed h body hello hf hop =>
    exact absurd ((isHello_of_framed _ frame body h hf).mpr hop) hne
  | acknowledged => rfl
  | answered h body backend response hf hhello hnoop hb hr =>
    have hother : k ≠ opcodeApi h.opcode := by
      rw [ofApi_of_framed k hf] at hk
      exact fun he => of_decide_eq_false hk he.symm
    have hkey := s.backends.keyed _ _ hb
    change (s.maxFrameBody, (s.register _).backends.get k) = _
    rw [get_register, AnyBackend.api_handle, hkey, if_neg hother]
    rfl

theorem route_of_view (k : UInt8) (s s' : Session) (opcode reqId : UInt32) (body : Bytes)
    (hk : opcodeApi opcode = k) (hv : view k s = view k s') :
    unnumbered (s.route opcode reqId body).1 = unnumbered (s'.route opcode reqId body).1 ∧
      view k (s.route opcode reqId body).2 = view k (s'.route opcode reqId body).2 := by
  obtain ⟨hcap, hget⟩ := Prod.mk.inj hv
  have hput (b b' : AnyBackend) (hb : s.backends.get k = some b) (hapi : b'.api = b.api) :
      view k (s.register b') = view k (s'.register b') := by
    have hkey : k = b'.api.byte := by rw [hapi, s.backends.keyed k b hb]
    rw [view, view, get_register, get_register, if_pos hkey, if_pos hkey]
    exact congrArg (·, some b') hcap
  rw [route, route, hk, ← hget]
  cases hb : s.backends.get k with
  | none => exact ⟨rfl, hv⟩
  | some b =>
    have hnext := hput b _ hb (b.api_handle opcode body)
    simp only
    cases hr : b.handle opcode body with
    | mk answer b' =>
      rw [hr] at hnext
      cases answer with
      | error e => exact ⟨rfl, hnext⟩
      | ok response => exact ⟨unnumbered_reply _ _ _ _ _, hnext⟩

/-- What a frame of namespace `k` does, as seen from `k`, is determined by the view. -/
theorem handle_of_view (k : UInt8) (s s' : Session) (frame : Bytes) (hne : ¬ IsHello frame)
    (hk : ofApi k frame) (hv : view k s = view k s') :
    unnumbered (s.handle frame).1 = unnumbered (s'.handle frame).1 ∧
      view k (s.handle frame).2 = view k (s'.handle frame).2 := by
  have hcap : s.maxFrameBody = s'.maxFrameBody := (Prod.mk.inj hv).1
  rw [handle, handle, ← hcap]
  cases hf : framed s.maxFrameBody frame with
  | error e => exact ⟨rfl, hv⟩
  | ok p =>
    obtain ⟨h, body⟩ := p
    have hhello : h.opcode ≠ CoreOp.hello := mt (isHello_of_framed _ frame body h hf).mpr hne
    rw [ofApi_of_framed k hf] at hk
    simp only [if_neg hhello]
    by_cases hnoop : h.opcode = CoreOp.noop
    · rw [if_pos hnoop, if_pos hnoop]
      exact ⟨unnumbered_reply _ _ _ _ _, hv⟩
    · rw [if_neg hnoop, if_neg hnoop]
      exact route_of_view k s s' h.opcode h.reqId body (of_decide_eq_true hk) hv

theorem unwinds (k : UInt8) :
    Unwinds handle (fun frame => ¬ IsHello frame) (ofApi k) (view k) unnumbered where
  respect s frame hne hk := view_of_foreign k s frame hne hk
  output s s' frame hne hk hv := (handle_of_view k s s' frame hne hk hv).1
  consistent s s' frame hne hk hv := (handle_of_view k s s' frame hne hk hv).2

/-- Two runs with the same frames of one namespace, in the same order among any others but
`HELLO`s, answer these frames alike and leave the same tables behind. -/
theorem apis_do_not_interfere (s : Session) (k : UInt8) (frames frames' : List Bytes)
    (hne : ∀ f ∈ frames, ¬ IsHello f) (hne' : ∀ f ∈ frames', ¬ IsHello f)
    (hsame : frames.filter (ofApi k) = frames'.filter (ofApi k)) :
    observed (ofApi k) unnumbered (log handle s frames) =
        observed (ofApi k) unnumbered (log handle s frames') ∧
      (final handle s frames).backends.get k = (final handle s frames').backends.get k := by
  obtain ⟨hobs, hview⟩ := (unwinds k).noninterference s frames frames' hne hne' hsame
  exact ⟨hobs, (Prod.mk.inj hview).2⟩

/-- A session for every API. CUDA creates a context, with a Vulkan call after it in one run
and a refused one before it in the other. -/
theorem apis_do_not_interfere_cuda :
    let s := opened 1 (BackendKind.all.map BackendKind.new)
    let frame (opcode : UInt32) (body : Bytes) := encodeFrame
      { version := protocolMajor, flags := 0, kind := .request, opcode, reqId := 7, seq := 1,
        bodyLen := 4 } body
    let ctx := frame CudaOp.ctxCreate (Cuda.CtxCreateRequest.mk 0).encode
    let inst := frame VkOp.createInstance (Vk.CreateInstanceRequest.mk 0).encode
    let short := frame VkOp.createInstance [0]
    observed (ofApi ApiId.cuda.byte) unnumbered (log handle s [ctx, inst]) =
        observed (ofApi ApiId.cuda.byte) unnumbered (log handle s [short, ctx]) ∧
      (final handle s [ctx, inst]).backends.get ApiId.cuda.byte =
        (final handle s [short, ctx]).backends.get ApiId.cuda.byte := by
  intro s frame ctx inst short
  refine apis_do_not_interfere s ApiId.cuda.byte [ctx, inst] [short, ctx] ?_ ?_ (by decide +kernel)
  · simp only [List.mem_cons, List.not_mem_nil, or_false, forall_eq_or_imp, forall_eq]
    exact ⟨mt (isHello_encodeFrame _ _).mp (by decide), mt (isHello_encodeFrame _ _).mp (by decide)⟩
  · simp only [List.mem_cons, List.not_mem_nil, or_false, forall_eq_or_imp, forall_eq]
    exact ⟨mt (isHello_encodeFrame _ _).mp (by decide), mt (isHello_encodeFrame _ _).mp (by decide)⟩

end Session
end Graftx.Server
