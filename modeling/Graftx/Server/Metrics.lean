import Graftx.Obs.Registry
import Graftx.Server.FrameCap
import Graftx.Server.Serve

/-! The serve loop that keeps metrics, a second loop beside the first. It does the same to the
transport and to the session, and counts each frame whose reply was sent. -/
namespace Graftx.Server
open Graftx.Protocol Graftx.Obs Lib.Machine

def apiName (api : UInt8) : String :=
  if api = 0x00 then "core"
  else if api = 0x01 then "vulkan"
  else if api = 0x02 then "opengl"
  else if api = 0x03 then "cuda"
  else if api = 0x04 then "opencl"
  else if api = 0x05 then "hip"
  else if api = 0x06 then "level_zero"
  else if api = 0x07 then "video"
  else if api = 0x08 then "webgpu"
  else if api = 0x09 then "optix"
  else if api = 0x0A then "sycl"
  else if api = 0x0B then "amf"
  else "unknown"

section
variable {T : Type} [Transport T]

def meteredTurn (t : T) (s : Session) (registry : ObsRegistry) :
    Option (Except IoError Unit) × T × Session × ObsRegistry :=
  match Transport.recv t with
  | (.error e, t) => (some (if closes e then .ok () else .error e), t, s, registry)
  | (.ok frame, t) =>
    let api := (decodeFrame frame).toOption.map fun p => apiName (opcodeApi p.1.opcode)
    match s.handle frame with
    | (.error _, s) => (some (.ok ()), t, s, registry)
    | (.ok reply, s) =>
      match Transport.send t reply with
      -- the call is recorded only after its reply went out
      | (.error e, t) => (some (.error e), t, s, registry)
      | (.ok (), t) =>
        match api with
        | none => (none, t, s, registry)
        | some api =>
          (none, t, s,
            registry.record api (UInt64.ofNat frame.length) (UInt64.ofNat reply.length))

def serveWithMetrics : Nat → T → Session → ObsRegistry →
    Option (Except IoError Unit) × T × Session × ObsRegistry
  | 0, t, s, registry => (none, t, s, registry)
  | n + 1, t, s, registry =>
    match meteredTurn t s registry with
    | (some result, t, s, registry) => (some result, t, s, registry)
    | (none, t, s, registry) => serveWithMetrics n t s registry

/-- What a handled frame counts as. It has a readable header, or it would not be handled. -/
def callOf (frame reply : Bytes) : CallRecord where
  api :=
    match decodeFrame frame with
    | .ok (h, _) => apiName (opcodeApi h.opcode)
    | .error _ => apiName 0xFF
  requestLen := frame.length
  replyLen := reply.length

theorem meteredTurn_eq (t : T) (s : Session) (registry : ObsRegistry) :
    ∃ registry', meteredTurn t s registry =
      ((serveTurn t s).1, (serveTurn t s).2.1, (serveTurn t s).2.2, registry') ∧
      ((serveTurn t s).1 ≠ none → registry' = registry) ∧
      ∀ frame reply t' s', Transport.recv t = (.ok frame, t') → s.handle frame = (.ok reply, s') →
        (serveTurn t s).1 = none → registry' = registry.record (callOf frame reply).api
          (UInt64.ofNat frame.length) (UInt64.ofNat reply.length) := by
  rw [meteredTurn, serveTurn, takeIn]
  rcases hr : Transport.recv t with ⟨r, t'⟩
  cases r with
  | error e => exact ⟨registry, rfl, fun _ => rfl, fun _ _ _ _ h => by cases h⟩
  | ok frame =>
    simp only
    rcases hh : s.handle frame with ⟨a, s'⟩
    cases a with
    | error e =>
      refine ⟨registry, rfl, fun _ => rfl, fun frame' reply t'' s'' h h' => ?_⟩
      cases h
      rw [hh] at h'
      cases h'
    | ok reply =>
      simp only [giveOut]
      rcases hs : Transport.send t' reply with ⟨r, t''⟩
      cases r with
      | error e => exact ⟨registry, rfl, fun _ => rfl, fun _ _ _ _ _ _ h => by cases h⟩
      | ok u =>
        obtain ⟨h, body, -, -, hd, -⟩ := s.answers_of_ok frame reply (by rw [hh])
        refine ⟨registry.record (callOf frame reply).api (UInt64.ofNat frame.length)
          (UInt64.ofNat reply.length), ?_, fun h => absurd rfl h, ?_⟩
        · simp only [hd, Except.toOption, Option.map_some, callOf]
        · intro frame' reply' t₂ s₂ h h' _
          cases h
          rw [hh] at h'
          cases h'
          rfl

/-- What the two loops do is the same, turn by turn, whatever the transport does. -/
theorem metered_refines_plain (n : Nat) (t : T) (s : Session) (registry : ObsRegistry) :
    ∃ registry', serveWithMetrics n t s registry =
      ((serve n t s).1, (serve n t s).2.1, (serve n t s).2.2, registry') := by
  induction n generalizing t s registry with
  | zero => exact ⟨registry, rfl⟩
  | succ n ih =>
    obtain ⟨r', heq, -⟩ := meteredTurn_eq t s registry
    rw [serveWithMetrics, serve, heq]
    rcases serveTurn t s with ⟨result, t', s'⟩
    cases result with
    | none => exact ih t' s' r'
    | some result => exact ⟨r', rfl⟩

end

/-- The calls that count: of the frames handled one by one, those whose reply was sent. -/
def completed : List Bytes → List (Bytes × Except IoError Unit) → List CallRecord
  | frame :: frames, (reply, .ok ()) :: outs => callOf frame reply :: completed frames outs
  | _ :: frames, (_, .error _) :: outs => completed frames outs
  | _, _ => []

section
variable {T : Type}

/-- A stretch of the loop over a traced transport: the frames it received, what it handed
over for sending, and what both leave behind. -/
structure Ran (t : Traced T) (s : Session) (registry : ObsRegistry) (t' : Traced T) (s' : Session)
    (registry' : ObsRegistry) (frames : List Bytes) (outs : List (Bytes × Except IoError Unit)) :
    Prop where
  received : t'.received = t.received ++ frames
  sends : t'.sends = t.sends ++ outs
  replied : outs.map Prod.fst = repliesTo Session.handle s frames
  session : s' = final Session.handle s frames
  counts : Counts registry registry' (completed frames outs)

theorem Ran.still (t t' : Traced T) (s : Session) (registry : ObsRegistry)
    (hreceived : t'.received = t.received) (hsends : t'.sends = t.sends) :
    Ran t s registry t' s registry [] [] where
  received := by rw [hreceived, List.append_nil]
  sends := by rw [hsends, List.append_nil]
  replied := rfl
  session := rfl
  counts := .nil registry

variable [Transport T]

theorem Ran.cons {t t₁ t₂ t' : Traced T} {s s₁ s' : Session} {registry registry' : ObsRegistry}
    {frame reply : Bytes} {frames : List Bytes} {outs : List (Bytes × Except IoError Unit)}
    (hr : Transport.recv t = (.ok frame, t₁)) (hh : s.handle frame = (.ok reply, s₁))
    (hs : Transport.send t₁ reply = (.ok (), t₂))
    (h : Ran t₂ s₁ (registry.record (callOf frame reply).api (UInt64.ofNat frame.length)
      (UInt64.ofNat reply.length)) t' s' registry' frames outs) :
    Ran t s registry t' s' registry' (frame :: frames) ((reply, .ok ()) :: outs) := by
  obtain ⟨-, hreceived₁, hsends₁⟩ := Traced.of_recv_ok hr
  obtain ⟨-, hreceived₂, hsends₂⟩ := Traced.of_send hs
  obtain ⟨hout, hin⟩ := s.lengths_of_accepted frame reply (by rw [hh])
  refine ⟨?_, ?_, ?_, ?_, ?_⟩
  · rw [h.received, hreceived₂, hreceived₁, List.append_assoc, List.singleton_append]
  · rw [h.sends, hsends₂, hsends₁, List.append_assoc, List.singleton_append]
  · rw [repliesTo_cons_ok s s₁ frame frames reply hh, List.map_cons, h.replied]
  · rw [final, hh, h.session]
  · exact .cons registry registry' (callOf frame reply) _ hout hin h.counts

theorem serve_ran (n : Nat) (t : Traced T) (s : Session) (registry : ObsRegistry) :
    ∃ frames outs, Ran t s registry (serve n t s).2.1 (serve n t s).2.2
      (serveWithMetrics n t s registry).2.2.2 frames outs := by
  induction n generalizing t s registry with
  | zero => exact ⟨[], [], .still t t s registry rfl rfl⟩
  | succ n ih =>
    obtain ⟨registry', hmeter, hstop, hnext⟩ := meteredTurn_eq t s registry
    have hturn := turned t s
    rw [serveWithMetrics, serve, hmeter]
    rcases hserve : serveTurn t s with ⟨result, t', s'⟩
    rw [hserve] at hturn hstop hnext
    cases hturn with
    | closed e _ hr =>
      obtain ⟨-, hreceived, hsends⟩ := Traced.of_recv_error hr
      obtain rfl := hstop (by simp)
      exact ⟨[], [], .still t t' _ _ hreceived hsends⟩
    | refused frame e _ hr hh =>
      obtain ⟨-, hreceived, hsends⟩ := Traced.of_recv_ok hr
      obtain rfl := hstop (by simp)
      refine ⟨[frame], [], hreceived, by rw [hsends, List.append_nil], ?_, ?_, .nil _⟩
      · rw [repliesTo_cons_error _ _ frame [] e hh, List.map_nil]
      · rw [final, hh, final]
    | failed frame reply e t₁ _ _ hr hh hs =>
      obtain ⟨-, hreceived₁, hsends₁⟩ := Traced.of_recv_ok hr
      obtain ⟨-, hreceived₂, hsends₂⟩ := Traced.of_send hs
      obtain rfl := hstop (by simp)
      refine ⟨[frame], [(reply, .error e)], ?_, ?_, ?_, ?_, .nil _⟩
      · rw [hreceived₂, hreceived₁]
      · rw [hsends₂, hsends₁]
      · rw [repliesTo_cons_ok s _ frame [] reply hh]
        rfl
      · rw [final, hh, final]
    | answered frame reply t₁ _ _ hr hh hs =>
      obtain rfl := hnext frame reply t₁ s' hr hh rfl
      obtain ⟨frames, outs, h⟩ := ih t' s' (registry.record (callOf frame reply).api
        (UInt64.ofNat frame.length) (UInt64.ofNat reply.length))
      exact ⟨frame :: frames, (reply, .ok ()) :: outs, .cons hr hh hs h⟩

theorem serve_traced (n : Nat) (t : Traced T) (s : Session) :
    serve n t.inner s = ((serve n t s).1, (serve n t s).2.1.inner, (serve n t s).2.2) := by
  induction n generalizing t s with
  | zero => rfl
  | succ n ih =>
    have hturn := turned t s
    rw [serve, serve]
    rcases hserve : serveTurn t s with ⟨result, t', s'⟩
    rw [hserve] at hturn
    have hinner : serveTurn t.inner s = (result, t'.inner, s') := by
      cases hturn with
      | closed e _ hr => simp only [serveTurn, takeIn, (Traced.of_recv_error hr).1]
      | refused frame e _ hr hh => simp only [serveTurn, takeIn, (Traced.of_recv_ok hr).1, hh]
      | failed frame reply e t₁ _ _ hr hh hs =>
        simp only [serveTurn, takeIn, giveOut, (Traced.of_recv_ok hr).1, hh, (Traced.of_send hs).1]
      | answered frame reply t₁ _ _ hr hh hs =>
        simp only [serveTurn, takeIn, giveOut, (Traced.of_recv_ok hr).1, hh, (Traced.of_send hs).1]
    rw [hinner]
    cases result with
    | none => exact ih t' s'
    | some result => rfl

/-- Whatever the transport does, both loops do the same to it and to the session: they hand
over the replies to the frames received up to the first refused one. The registry counts
those whose reply was sent, each once and under its API, and nothing else. -/
theorem metrics_refine_serve (n : Nat) (t : T) (s : Session) (registry : ObsRegistry) :
    let (result, t', s') := serve n (Traced.start t) s
    let (metered, tₘ, sₘ, registry') := serveWithMetrics n (Traced.start t) s registry
    serve n t s = (result, t'.inner, s') ∧ (metered, tₘ, sₘ) = (result, t', s') ∧
      t'.sends.map Prod.fst = repliesTo Session.handle s t'.received ∧
      s' = final Session.handle s t'.received ∧
      Counts registry registry' (completed t'.received t'.sends) := by
  obtain ⟨frames, outs, h⟩ := serve_ran n (Traced.start t) s registry
  obtain ⟨registry', hmeter⟩ := metered_refines_plain n (Traced.start t) s registry
  have htraced := serve_traced n (Traced.start t) s
  obtain ⟨hreceived, hsends, hreplied, hsession, hcounts⟩ := h
  rw [hmeter] at hcounts ⊢
  have hframes : (serve n (Traced.start t) s).2.1.received = frames := hreceived
  have houts : (serve n (Traced.start t) s).2.1.sends = outs := hsends
  rw [← hframes, ← houts] at hreplied hcounts
  rw [← hframes] at hsession
  exact ⟨htraced, rfl, hreplied, hsession, hcounts⟩

end
end Graftx.Server
