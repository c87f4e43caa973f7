import Graftx.Protocol.Core
import Graftx.Lib.Machine

/-! The channel the two sides talk over: whole messages, sent and received one at a time. -/
namespace Graftx
open Graftx.Protocol Lib.Machine

/-- The error kinds of `std::io` that a transport reports here. -/
inductive IoError where
  | unexpectedEof | brokenPipe | invalidData | invalidInput
  | other (kind : Nat)
  deriving DecidableEq, Repr

/-- A message channel; each call may also change the channel. -/
class Transport (T : Type) where
  send : T → Bytes → Except IoError Unit × T
  recv : T → Except IoError Bytes × T

variable {T : Type} [Transport T]

def roundtrip (t : T) (frame : Bytes) : Except IoError Bytes × T :=
  match Transport.send t frame with
  | (.error e, t) => (.error e, t)
  | (.ok (), t) => Transport.recv t

theorem roundtrip_unsent {t t' : T} {frame : Bytes} {e : IoError}
    (h : Transport.send t frame = (.error e, t')) : roundtrip t frame = (.error e, t') := by
  rw [roundtrip, h]

theorem roundtrip_sent {t t' : T} {frame : Bytes} (h : Transport.send t frame = (.ok (), t')) :
    roundtrip t frame = Transport.recv t' := by
  rw [roundtrip, h]

def recvs : Nat → T → List (Except IoError Bytes)
  | 0, _ => []
  | n + 1, t => (Transport.recv t).1 :: recvs n (Transport.recv t).2

theorem recvs_succ (n : Nat) (t t' : T) (r : Except IoError Bytes)
    (h : Transport.recv t = (r, t')) : recvs (n + 1) t = r :: recvs n t' := by
  rw [recvs, h]

def accepted (t : T) (frames : List Bytes) : List Bytes :=
  (log Transport.send t frames).filterMap fun e =>
    match e.2 with
    | .ok () => some e.1
    | .error _ => none

theorem accepted_cons_ok (t t' : T) (frame : Bytes) (frames : List Bytes)
    (h : Transport.send t frame = (.ok (), t')) :
    accepted t (frame :: frames) = frame :: accepted t' frames := by
  simp [accepted, log, h]

theorem accepted_cons_error (t t' : T) (frame : Bytes) (frames : List Bytes) (e : IoError)
    (h : Transport.send t frame = (.error e, t')) :
    accepted t (frame :: frames) = accepted t' frames := by
  simp [accepted, log, h]

end Graftx
