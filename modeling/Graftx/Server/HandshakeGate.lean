import Graftx.Server.Framing

/-! The handshake gate that the session does not have. Before a `HELLO` has been accepted
every frame is served as afterwards, so a run keeps to the gate exactly when nothing in it
could have been served anyway. -/
namespace Graftx.Server
open Graftx.Protocol Graftx.Handles Lib.Machine

def IsHello (frame : Bytes) : Prop :=
  ∃ h body, decodeFrame frame = .ok (h, body) ∧ h.opcode = CoreOp.hello

/-- The body reads as a request of the backend, and that is one it serves as it stands. -/
def Serviceable {B : Type} [Backend B] [Described B] (b : B) (opcode : UInt32) (body : Bytes) :
    Prop :=
  ∃ r, request B opcode body = .ok r ∧ admits b r

theorem not_serviceable_iff {B : Type} [Backend B] [Described B] (b : B) (opcode : UInt32)
    (body : Bytes) : (∃ e, (Server.handle b opcode body).1 = .error e) ↔
      ¬ Serviceable b opcode body := by
  rw [Serviceable]
  cases hr : request B opcode body with
  | error e => simp [handle_of_request_error b opcode body e hr]
  | ok r =>
    have hok := Described.ok_iff b opcode r
    rw [handle_of_request_ok b opcode body r hr]
    rw [← admits] at hok
    cases he : (Backend.exec b opcode r).1 with
    | error e =>
      rw [he] at hok
      simpa using hok
    | ok reply =>
      rw [he] at hok
      simpa using hok

def AnyBackend.Admits (opcode : UInt32) (body : Bytes) : AnyBackend → Prop
  | .vulkan b => Serviceable b opcode body
  | .gl b => Serviceable b opcode body
  | .cuda b => Serviceable b opcode body
  | .cl b => Serviceable b opcode body
  | .hip b => Serviceable b opcode body
  | .l0 b => Serviceable b opcode body
  | .video b => Serviceable b opcode body
  | .webGpu b => Serviceable b opcode body
  | .optix b => Serviceable b opcode body
  | .sycl b => Serviceable b opcode body
  | .amf b => Serviceable b opcode body

theorem AnyBackend.refused_iff (backend : AnyBackend) (opcode : UInt32) (body : Bytes) :
    (∃ e, (backend.handle opcode body).1 = .error e) ↔ ¬ backend.Admits opcode body := by
  cases backend with
  | _ b => exact not_serviceable_iff b opcode body

namespace Session

def Reaches (s : Session) (frame : Bytes) : Prop :=
  ∃ h body backend, framed s.maxFrameBody frame = .ok (h, body) ∧ h.opcode ≠ CoreOp.hello ∧
    h.opcode ≠ CoreOp.noop ∧ s.backends.get (opcodeApi h.opcode) = some backend

/-- The frame is refused, no backend sees it, and the session is as before. -/
structure Ignores (s : Session) (frame : Bytes) : Prop where
  refused : ∃ e, (s.handle frame).1 = .error e
  unseen : ¬ s.Reaches frame
  unchanged : (s.handle frame).2 = s

def Accepts (s : Session) (frame : Bytes) : Prop :=
  IsHello frame ∧ ∃ reply, (s.handle frame).1 = .ok reply

/-- The gate over a run: as long as no `HELLO` was accepted, every other frame is ignored. -/
def Gated (s : Session) (frames : List Bytes) : Prop :=
  ∀ before frame after, frames = before ++ frame :: after →
    (∀ earlier hello later, before = earlier ++ hello :: later →
      ¬ (final handle s earlier).Accepts hello) →
    ¬ IsHello frame → (final handle s before).Ignores frame

/-- A `HELLO` that is well framed and of the session's major version. -/
def Opens (s : Session) (frame : Bytes) : Prop :=
  ∃ h body hello, framed s.maxFrameBody frame = .ok (h, body) ∧ h.opcode = CoreOp.hello ∧
    Hello.decode body = .ok hello ∧ hello.protoMajor = protocolMajor

/-- The frame is malformed, too long, or a call of a namespace without a backend. -/
def TurnsAway (s : Session) (frame : Bytes) : Prop :=
  ∀ h body, framed s.maxFrameBody frame = .ok (h, body) →
    h.opcode ≠ CoreOp.noop ∧ s.backends.get (opcodeApi h.opcode) = none

/-- Before the first opening `HELLO`, every frame but a `HELLO` is turned away. -/
def NothingToServe (s : Session) (frames : List Bytes) : Prop :=
  ∀ before frame after, frames = before ++ frame :: after → (∀ f ∈ before, ¬ s.Opens f) →
    ¬ IsHello frame → s.TurnsAway frame

theorem isHello_of_framed (cap : UInt32) (frame body : Bytes) (h : FrameHeader)
    (hf : framed cap frame = .ok (h, body)) : IsHello frame ↔ h.opcode = CoreOp.hello := by
  have hd := (framed_ok cap frame body h hf).1
  constructor
  · rintro ⟨h', body', hd', hop⟩
    rw [hd] at hd'
    cases hd'
    exact hop
  · exact fun hop => ⟨h, body, hd, hop⟩

theorem isHello_encodeFrame (h : FrameHeader) (body : Bytes) :
    IsHello (encodeFrame h body) ↔ h.opcode = CoreOp.hello := by
  constructor
  · rintro ⟨h', body', hd, hop⟩
    rw [decodeFrame_encodeFrame] at hd
    cases hd
    exact hop
  · exact fun hop => ⟨h, body, decodeFrame_encodeFrame h body, hop⟩

theorem accepts_iff (s : Session) (frame : Bytes) : s.Accepts frame ↔ s.Opens frame := by
  constructor
  · rintro ⟨hhello, reply, hok⟩
    have hh := s.handled frame
    generalize s.handle frame = a at hok hh
    cases hh with
    | refused e => cases hok
    | welcomed h body hello hf hop hd hv => exact ⟨h, body, hello, hf, hop, hd, hv⟩
    | acknowledged h body hf hop =>
      rw [isHello_of_framed _ frame body h hf, hop] at hhello
      exact absurd hhello (by decide)
    | answered h body backend response hf hne =>
      rw [isHello_of_framed _ frame body h hf] at hhello
      exact absurd hhello hne
  · rintro ⟨h, body, hello, hf, hop, hd, hv⟩
    refine ⟨(isHello_of_framed _ frame body h hf).mpr hop, ?_⟩
    simp [handle, hf, hop, greet, hd, hv, reply]

/-- Nothing in the session takes the frame, or the backend it is for would not serve what it
asks: it cannot be read as one of the backend's requests, an object it names is not there, or
more is asked of that object than it has. -/
def Declines (s : Session) (frame : Bytes) : Prop :=
  ¬ s.Opens frame ∧ ∀ h body, framed s.maxFrameBody frame = .ok (h, body) →
    h.opcode ≠ CoreOp.noop ∧ ∀ backend, s.backends.get (opcodeApi h.opcode) = some backend →
      ¬ backend.Admits h.opcode body

theorem refused_iff (s : Session) (frame : Bytes) :
    (∃ e, (s.handle frame).1 = .error e) ↔ s.Declines frame := by
  constructor
  · rintro ⟨e, he⟩
    have hopens : ¬ s.Opens frame := by
      intro h
      obtain ⟨-, reply, hr⟩ := (s.accepts_iff frame).mpr h
      rw [hr] at he
      cases he
    refine ⟨hopens, fun h body hf => ?_⟩
    by_cases hhello : h.opcode = CoreOp.hello
    · rw [hhello]
      refine ⟨by decide, fun backend hb => ?_⟩
      cases s.backends.get_core.symm.trans hb
    · have hnoop : h.opcode ≠ CoreOp.noop := by
        intro hop
        simp [handle, hf, hop, hop ▸ hhello, reply] at he
      refine ⟨hnoop, fun backend hb => (backend.refused_iff h.opcode body).mp ?_⟩
      simp only [handle, hf, hhello, hnoop, if_false, route, hb] at he
      split at he
      · rename_i e' backend' hr
        exact ⟨e', congrArg Prod.fst hr⟩
      · cases he
  · rintro ⟨hopens, hnone⟩
    have hh := s.handled frame
    generalize s.handle frame = a at hh
    cases hh with
    | refused e => exact ⟨e, rfl⟩
    | welcomed h body hello hf hop hd hv =>
      exact absurd ⟨h, body, hello, hf, hop, hd, hv⟩ hopens
    | acknowledged h body hf hop => exact absurd hop (hnone h body hf).1
    | answered h body backend response hf hhello hnoop hb hr =>
      obtain ⟨e, he⟩ := (backend.refused_iff h.opcode body).mpr ((hnone h body hf).2 backend hb)
      rw [hr] at he
      cases he

/-- Nothing in the session answers to the frame: it is malformed, too long or of another
length than declared, a `HELLO` that does not open the session, or a call of a namespace
without a backend. -/
def Unserved (s : Session) (frame : Bytes) : Prop := ¬ s.Opens frame ∧ s.TurnsAway frame

theorem ignores_iff_unserved (s : Session) (frame : Bytes) :
    s.Ignores frame ↔ s.Unserved frame := by
  constructor
  · intro hig
    obtain ⟨hopens, hnone⟩ := (s.refused_iff frame).mp hig.refused
    refine ⟨hopens, fun h body hf => ⟨(hnone h body hf).1, ?_⟩⟩
    refine Option.eq_none_iff_forall_ne_some.mpr fun backend hb => ?_
    by_cases hhello : h.opcode = CoreOp.hello
    · rw [hhello] at hb
      cases s.backends.get_core.symm.trans hb
    · exact hig.unseen ⟨h, body, backend, hf, hhello, (hnone h body hf).1, hb⟩
  · intro hun
    obtain ⟨hopens, haway⟩ := hun
    have hnobody (h : FrameHeader) (body : Bytes) (backend : AnyBackend)
        (hf : framed s.maxFrameBody frame = .ok (h, body)) :
        s.backends.get (opcodeApi h.opcode) ≠ some backend := by
      rw [(haway h body hf).2]
      exact (Option.some_ne_none backend).symm
    obtain ⟨e, he⟩ := (s.refused_iff frame).mpr ⟨hopens, fun h body hf =>
      ⟨(haway h body hf).1, fun backend hb => absurd hb (hnobody h body backend hf)⟩⟩
    refine ⟨⟨e, he⟩, ?_, s.error_changes_nothing frame e he⟩
    rintro ⟨h, body, backend, hf, -, -, hb⟩
    exact hnobody h body backend hf hb

theorem ignores_iff (s : Session) (frame : Bytes) (hne : ¬ IsHello frame) :
    s.Ignores frame ↔ s.TurnsAway frame := by
  have hopens : ¬ s.Opens frame := fun h => hne ((s.accepts_iff frame).mpr h).1
  rw [s.ignores_iff_unserved frame, Unserved]
  exact and_iff_right hopens

def SameDoor (s s' : Session) : Prop :=
  s'.maxFrameBody = s.maxFrameBody ∧ ∀ k, s'.backends.get k = none ↔ s.backends.get k = none

theorem SameDoor.opens {s s' : Session} (h : SameDoor s s') (frame : Bytes) :
    s'.Opens frame ↔ s.Opens frame := by
  rw [Opens, Opens, h.1]

theorem SameDoor.turnsAway {s s' : Session} (h : SameDoor s s') (frame : Bytes) :
    s'.TurnsAway frame ↔ s.TurnsAway frame := by
  simp only [TurnsAway, h.1, h.2]

theorem sameDoor_handle (s : Session) (frame : Bytes) (h : ¬ s.Opens frame) :
    SameDoor s (s.handle frame).2 := by
  have hh := s.handled frame
  generalize s.handle frame = a at hh
  cases hh with
  | refused e => exact ⟨rfl, fun k => Iff.rfl⟩
  | welcomed hd body hello hf hop hdec hv => exact absurd ⟨hd, body, hello, hf, hop, hdec, hv⟩ h
  | acknowledged => exact ⟨rfl, fun k => Iff.rfl⟩
  | answered hd body backend response hf hhello hnoop hb hr =>
    refine ⟨rfl, fun k => ?_⟩
    have hkey := s.backends.keyed _ _ hb
    change (if k = (backend.handle hd.opcode body).2.api.byte then _ else s.backends.get k) =
      none ↔ _
    rw [AnyBackend.api_handle, hkey]
    split
    · rename_i hk
      simp [hk, hb]
    · exact Iff.rfl

theorem sameDoor_final (s : Session) (frames : List Bytes) (h : ∀ f ∈ frames, ¬ s.Opens f) :
    SameDoor s (final handle s frames) := by
  induction frames using List.reverseRecOn with
  | nil => exact ⟨rfl, fun k => Iff.rfl⟩
  | append_singleton frames f ih =>
    have hs := ih fun g hg => h g (List.mem_append_left _ hg)
    have hf : ¬ s.Opens f := h f (List.mem_append_right _ (List.mem_singleton.mpr rfl))
    rw [final_snoc]
    have hstep := sameDoor_handle (final handle s frames) f (mt (hs.opens f).mp hf)
    exact ⟨hstep.1.trans hs.1, fun k => (hstep.2 k).trans (hs.2 k)⟩

theorem accepted_iff (s : Session) (frames : List Bytes) :
    (∀ earlier hello later, frames = earlier ++ hello :: later →
      ¬ (final handle s earlier).Accepts hello) ↔ ∀ f ∈ frames, ¬ s.Opens f := by
  induction frames using List.reverseRecOn with
  | nil =>
    refine iff_of_true (fun earlier hello later h => ?_) fun f hf => absurd hf List.not_mem_nil
    exact absurd h (by simp)
  | append_singleton frames g ih =>
    constructor
    · intro h
      have hbefore := ih.mp fun earlier hello later he =>
        h earlier hello (later ++ [g]) (by rw [he]; simp)
      have hs := s.sameDoor_final frames hbefore
      have hg := h frames g [] rfl
      rw [accepts_iff, hs.opens] at hg
      intro f hf
      obtain hf | hf := List.mem_append.mp hf
      · exact hbefore f hf
      · rwa [List.mem_singleton.mp hf]
    · intro h earlier hello later he
      have hmem : ∀ f ∈ earlier ++ hello :: later, ¬ s.Opens f := he ▸ h
      have hs := s.sameDoor_final earlier fun f hf => hmem f (List.mem_append_left _ hf)
      rw [accepts_iff, hs.opens]
      exact hmem hello (List.mem_append_right _ List.mem_cons_self)

/-- In every run from a fresh session the gate holds if and only if, up to the first
opening `HELLO`, the session is given nothing it could serve. -/
theorem gated_iff_nothing_to_serve (sessionId : UInt64) (backends : List AnyBackend)
    (frames : List Bytes) : (opened sessionId backends).Gated frames ↔
      (opened sessionId backends).NothingToServe frames := by
  generalize opened sessionId backends = s
  have hpoint (before : List Bytes) (frame : Bytes) (hb : ∀ f ∈ before, ¬ s.Opens f)
      (hne : ¬ IsHello frame) : (final handle s before).Ignores frame ↔ s.TurnsAway frame :=
    (ignores_iff _ frame hne).trans ((s.sameDoor_final before hb).turnsAway frame)
  constructor
  · intro h before frame after he hb hne
    have hig := h before frame after he ((s.accepted_iff before).mpr hb) hne
    exact (hpoint before frame hb hne).mp hig
  · intro h before frame after he hacc hne
    have hb := (s.accepted_iff before).mp hacc
    exact (hpoint before frame hb hne).mpr (h before frame after he hb hne)

def earlyCreateInstance : Bytes :=
  encodeFrame
    { version := protocolMajor, flags := 0, kind := .request, opcode := VkOp.createInstance,
      reqId := 7, seq := 1, bodyLen := 4 }
    (Vk.CreateInstanceRequest.mk 0).encode

/-- A session that has seen no `HELLO` creates an instance all the same. -/
theorem create_instance_passes_the_gate :
    ¬ ∀ (sessionId : UInt64) (backends : List AnyBackend) (frames : List Bytes),
      (opened sessionId backends).Gated frames := by
  intro h
  have hne : ¬ IsHello earlyCreateInstance := mt (isHello_encodeFrame _ _).mp (by decide)
  have hig := h 1 [.vulkan .new] [earlyCreateInstance] [] earlyCreateInstance [] rfl
    (fun earlier hello later he => absurd he (by simp)) hne
  obtain ⟨e, he⟩ := hig.refused
  have hok : (((opened 1 [.vulkan .new]).handle earlyCreateInstance).1.toOption).isSome = true := by
    decide +kernel
  change ((opened 1 [.vulkan .new]).handle earlyCreateInstance).1 = .error e at he
  rw [he] at hok
  cases hok

end Session
end Graftx.Server
