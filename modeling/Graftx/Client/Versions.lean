import Graftx.Client.Shims
import Graftx.Server.HandshakeGate
import Graftx.Transport.Loopback

/-! Versions that nobody compares. Only the major version inside a `HELLO` is checked; the
version in a frame header, and what a `WELCOME` says, pass unread on both sides. -/
namespace Graftx.Server
open Graftx.Protocol

def OtherVersion (frame : Bytes) : Prop :=
  ∃ h body, decodeFrame frame = .ok (h, body) ∧ h.version ≠ protocolMajor

namespace Session

/-- A frame of another major version is refused. -/
def KeepsVersion (s : Session) (frame : Bytes) : Prop :=
  OtherVersion frame → ∃ e, (s.handle frame).1 = .error e

def foreignNoop : Bytes :=
  encodeFrame
    { version := 7, flags := 0, kind := .request, opcode := CoreOp.noop, reqId := 1, seq := 1,
      bodyLen := 0 }
    []

theorem foreign_noop_answered : ¬ (Session.new 1).KeepsVersion foreignNoop := by
  intro h
  obtain ⟨e, he⟩ := h ⟨_, _, decodeFrame_encodeFrame _ _, by decide⟩
  have hok : ((Session.new 1).handle foreignNoop).1.toOption.isSome = true := by decide +kernel
  rw [he] at hok
  cases hok

end Session
end Graftx.Server

namespace Graftx.Client
open Graftx.Protocol Graftx.Server

section
variable {T : Type} [Transport T]

def helloFrame : Bytes := requestFrame CoreOp.hello 1 1 hello.encode

def Replies (t : T) (reply : Bytes) : Prop :=
  ∃ t' t'', Transport.send t helloFrame = (.ok (), t') ∧ Transport.recv t' = (.ok reply, t'')

def Welcomes (reply : Bytes) (h : FrameHeader) (w : Welcome) : Prop :=
  ∃ b, decodeFrame reply = .ok (h, b) ∧ h.opcode = CoreOp.welcome ∧ h.kind = .response ∧
    Welcome.decode b = .ok w

/-- The reply is of the client's major version, and its cap is one the client can take. -/
structure Matching (h : FrameHeader) (w : Welcome) : Prop where
  version : h.version = protocolMajor
  major : w.protoMajor = protocolMajor
  cap : w.maxFrameBody ≤ hello.maxFrameBody

theorem Replies.unique {t : T} {reply reply' : Bytes} (h : Replies t reply)
    (h' : Replies t reply') : reply' = reply := by
  obtain ⟨t₁, t₂, hs, hr⟩ := h
  obtain ⟨t₁', t₂', hs', hr'⟩ := h'
  cases hs.symm.trans hs'
  cases hr.symm.trans hr'
  rfl

theorem readWelcome_ok_iff (reply : Bytes) (w : Welcome) :
    (readReply CoreOp.welcome reply >>= fun b => fromProtocol (Welcome.decode b)) = .ok w ↔
      ∃ h, Welcomes reply h w := by
  constructor
  · intro h
    cases hr : readReply CoreOp.welcome reply with
    | error e => rw [hr] at h; cases h
    | ok b =>
      obtain ⟨hd, hdec, hop, hk⟩ := readReply_ok_iff.mp hr
      rw [hr] at h
      change fromProtocol (Welcome.decode b) = .ok w at h
      cases hw : Welcome.decode b with
      | error e => rw [hw] at h; cases h
      | ok w' =>
        rw [hw] at h
        cases h
        exact ⟨hd, b, hdec, hop, hk, hw⟩
  · rintro ⟨hd, b, hdec, hop, hk, hw⟩
    rw [readReply_ok_iff.mpr ⟨hd, hdec, hop, hk⟩]
    change fromProtocol (Welcome.decode b) = .ok w
    rw [hw]
    rfl

theorem handshake_ok_iff (t : T) (w : Welcome) :
    (Call.run handshake t).1 = .ok w ↔ ∃ reply h, Replies t reply ∧ Welcomes reply h w := by
  rw [handshake]
  rcases hs : Transport.send t helloFrame with ⟨sent, t'⟩
  have hreplies (reply : Bytes) : Replies t reply → sent = .ok () ∧
      (Transport.recv t').1 = .ok reply := by
    rintro ⟨t₁, t₂, hs', hr⟩
    cases hs.symm.trans hs'
    exact ⟨rfl, congrArg Prod.fst hr⟩
  cases sent with
  | error e =>
    rw [run_exchange_unsent hs]
    refine iff_of_false (fun h => by cases h) ?_
    rintro ⟨reply, h, hr, -⟩
    cases (hreplies reply hr).1
  | ok =>
    rcases hr : Transport.recv t' with ⟨received, t''⟩
    rw [hr] at hreplies
    cases received with
    | error e =>
      rw [run_exchange_unanswered hs hr]
      refine iff_of_false (fun h => by cases h) ?_
      rintro ⟨reply, h, hr', -⟩
      cases (hreplies reply hr').2
    | ok reply =>
      rw [run_exchange_answered hs hr, readWelcome_ok_iff]
      constructor
      · rintro ⟨h, hw⟩
        exact ⟨reply, h, ⟨t', t'', hs, hr⟩, hw⟩
      · rintro ⟨reply', h, hr', hw⟩
        cases (hreplies reply' hr').2
        exact ⟨h, hw⟩

/-- A handshake that succeeds does so on a reply that matches the client. -/
def KeepsVersion (t : T) : Prop :=
  ∀ w, (Call.run handshake t).1 = .ok w →
    ∃ reply h b, Replies t reply ∧ decodeFrame reply = .ok (h, b) ∧ Matching h w

/-- What passes for a `WELCOME` among the peer's replies matches the client. -/
def PeerMatches (t : T) : Prop :=
  ∀ reply h w, Replies t reply → Welcomes reply h w → Matching h w

theorem keepsVersion_iff (t : T) : KeepsVersion t ↔ PeerMatches t := by
  constructor
  · intro hkeeps reply h w hr hw
    obtain ⟨reply', h', b', hr', hd', hm⟩ :=
      hkeeps w ((handshake_ok_iff t w).mpr ⟨reply, h, hr, hw⟩)
    obtain ⟨b, hd, -⟩ := hw
    rw [hr.unique hr', hd] at hd'
    cases hd'
    exact hm
  · intro hpeer w hok
    obtain ⟨reply, h, hr, hw⟩ := (handshake_ok_iff t w).mp hok
    have hm := hpeer reply h w hr hw
    obtain ⟨b, hd, -⟩ := hw
    exact ⟨reply, h, b, hr, hd, hm⟩

/-- A session refuses a frame of another version exactly when it declines what the frame
says, and a handshake keeps to the client's version exactly when its peer does. -/
theorem versions_kept_iff (s : Session) (frame : Bytes) (t : T) :
    (s.KeepsVersion frame ↔ (OtherVersion frame → s.Declines frame)) ∧
      (KeepsVersion t ↔ PeerMatches t) :=
  ⟨imp_congr_right fun _ => s.refused_iff frame, keepsVersion_iff t⟩

end

def foreignWelcome : Welcome where
  protoMajor := 9
  protoMinor := 0
  features := 0
  maxFrameBody := 0xFFFFFFFF
  sessionId := 1

def foreignReply : Bytes :=
  encodeFrame
    { version := 7, flags := 0, kind := .response, opcode := CoreOp.welcome, reqId := 1, seq := 1,
      bodyLen := 20 }
    foreignWelcome.encode

/-- Neither the server nor the client notices the other version. -/
theorem other_versions_pass :
    (¬ ∀ (s : Session) (frame : Bytes), s.KeepsVersion frame) ∧
      ¬ ∀ (T : Type) [Transport T] (t : T), KeepsVersion t := by
  refine ⟨fun h => Session.foreign_noop_answered (h _ _), fun h => ?_⟩
  have hpeer := (keepsVersion_iff (Loopback.mk [foreignReply] [] true)).mp (h Loopback _)
  have hm := hpeer foreignReply _ foreignWelcome ⟨_, _, rfl, rfl⟩
    ⟨_, decodeFrame_encodeFrame _ _, rfl, rfl, Welcome.decode_exact.self foreignWelcome trivial⟩
  exact absurd hm.version (by decide)

end Graftx.Client
