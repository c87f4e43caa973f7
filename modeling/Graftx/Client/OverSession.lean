import Graftx.Client.Shims
import Graftx.Server.SessionLaws

/-! A client whose transport is a session: what it sends is handled at once, and the reply,
if there is one, is what it receives next. -/
namespace Graftx.Client
open Graftx.Protocol Graftx.Server

structure SessionLink where
  session : Session
  inbox : Option Bytes

instance : Transport SessionLink where
  send l frame :=
    match l.session.handle frame with
    | (.ok reply, session) => (.ok (), { session, inbox := some reply })
    | (.error _, session) => (.ok (), { session, inbox := none })
  recv l :=
    match l.inbox with
    | some reply => (.ok reply, { l with inbox := none })
    | none => (.error .unexpectedEof, l)

/-- A shim run against a session, with nothing left over from an earlier call. -/
def overSession {α : Type} (s : Session) (c : Call SessionLink α) : Except ClientError α × Session :=
  let (result, l) := c.run { session := s, inbox := none }
  (result, l.session)

section
variable {α : Type} (s : Session) (opcode expected : UInt32) (body : Bytes)
  (read : Bytes → Except ClientError α) (reqId : UInt32) (seq : UInt64)

theorem over_exchange_refused {e : ProtocolError} {s' : Session}
    (h : s.handle (requestFrame opcode reqId seq body) = (.error e, s')) :
    overSession s (exchange opcode expected body read reqId seq) =
      (.error (.transport .unexpectedEof), s') := by
  have hs : Transport.send (SessionLink.mk s none) (requestFrame opcode reqId seq body) =
      (.ok (), ⟨s', none⟩) := by
    simp only [Transport.send, h]
  rw [overSession, run_exchange_unanswered hs rfl]

theorem over_exchange_answered {reply : Bytes} {s' : Session}
    (h : s.handle (requestFrame opcode reqId seq body) = (.ok reply, s')) :
    overSession s (exchange opcode expected body read reqId seq) =
      ((readReply expected reply >>= read : Except ClientError α), s') := by
  have hs : Transport.send (SessionLink.mk s none) (requestFrame opcode reqId seq body) =
      (.ok (), ⟨s', some reply⟩) := by
    simp only [Transport.send, h]
  rw [overSession, run_exchange_answered hs rfl]

end

/-- The shim and the session agree about one call: the shim returns a value exactly when the
session answers its frame, that value is what the session's reply was made from, and the
session is left as the frame leaves it. -/
structure Agrees {α : Type} (s : Session) (c : Call SessionLink α) (frame : Bytes)
    (produced : α → Prop) : Prop where
  ok_iff : (∃ v, (overSession s c).1 = .ok v) ↔ ∃ reply, (s.handle frame).1 = .ok reply
  value : ∀ v, (overSession s c).1 = .ok v → produced v
  state : (overSession s c).2 = (s.handle frame).2

theorem Agrees.of_replies {α : Type} {s : Session} {opcode expected : UInt32} {body : Bytes}
    {read : Bytes → Except ClientError α} {reqId : UInt32} {seq : UInt64} {produced : α → Prop}
    (h : ∀ reply s', s.handle (requestFrame opcode reqId seq body) = (.ok reply, s') →
      ∃ v, (readReply expected reply >>= read : Except ClientError α) = .ok v ∧ produced v) :
    Agrees s (exchange opcode expected body read reqId seq) (requestFrame opcode reqId seq body)
      produced := by
  rcases hs : s.handle (requestFrame opcode reqId seq body) with ⟨answer, s'⟩
  cases answer with
  | error e =>
    have ho := over_exchange_refused s opcode expected body read reqId seq hs
    refine ⟨?_, ?_, ?_⟩
    · rw [ho, hs]
      simp
    · rw [ho]
      nofun
    · rw [ho, hs]
  | ok reply =>
    obtain ⟨v, hv, hp⟩ := h reply s' hs
    have ho := over_exchange_answered s opcode expected body read reqId seq hs
    rw [hv] at ho
    refine ⟨?_, ?_, ?_⟩
    · rw [ho, hs]
      simp
    · rw [ho]
      rintro w ⟨⟩
      exact hp
    · rw [ho, hs]

end Graftx.Client
