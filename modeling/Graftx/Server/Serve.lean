import Graftx.Lib.Replies
import Graftx.Server.SessionLaws
import Graftx.Transport.Traced

/-! The serve loop. It runs for as long as the peer sends frames that the session accepts,
so it is modelled with a bound on its turns; without a result it is still running. -/
namespace Graftx.Server
open Graftx.Protocol Lib.Machine

inductive Turn where
  | stop (result : Except IoError Unit)
  | answer (reply : Bytes)

def closes (e : IoError) : Bool := e = .unexpectedEof ∨ e = .brokenPipe

section
variable {T : Type} [Transport T]

/-- The first half of a turn: receive a frame and let the session handle it. -/
def takeIn (t : T) (s : Session) : Turn × T × Session :=
  match Transport.recv t with
  | (.error e, t) => (.stop (if closes e then .ok () else .error e), t, s)
  | (.ok frame, t) =>
    match s.handle frame with
    | (.error _, s) => (.stop (.ok ()), t, s)
    | (.ok reply, s) => (.answer reply, t, s)

def giveOut (t : T) (reply : Bytes) : Option (Except IoError Unit) × T :=
  match Transport.send t reply with
  | (.error e, t) => (some (.error e), t)
  | (.ok (), t) => (none, t)

def serveTurn (t : T) (s : Session) : Option (Except IoError Unit) × T × Session :=
  match takeIn t s with
  | (.stop result, t, s) => (some result, t, s)
  | (.answer reply, t, s) =>
    let (result, t) := giveOut t reply
    (result, t, s)

def serve : Nat → T → Session → Option (Except IoError Unit) × T × Session
  | 0, t, s => (none, t, s)
  | n + 1, t, s =>
    match serveTurn t s with
    | (some result, t, s) => (some result, t, s)
    | (none, t, s) => serve n t s

/-- The four ways a turn goes, with everything it leaves behind. -/
inductive Turned (t : T) (s : Session) : Option (Except IoError Unit) → T → Session → Prop where
  | closed (e : IoError) (t' : T) (hr : Transport.recv t = (.error e, t')) :
      Turned t s (some (if closes e then .ok () else .error e)) t' s
  | refused (frame : Bytes) (e : ProtocolError) (t' : T) (hr : Transport.recv t = (.ok frame, t'))
      (hh : s.handle frame = (.error e, s)) : Turned t s (some (.ok ())) t' s
  | failed (frame reply : Bytes) (e : IoError) (t' t'' : T) (s' : Session)
      (hr : Transport.recv t = (.ok frame, t')) (hh : s.handle frame = (.ok reply, s'))
      (hs : Transport.send t' reply = (.error e, t'')) : Turned t s (some (.error e)) t'' s'
  | answered (frame reply : Bytes) (t' t'' : T) (s' : Session)
      (hr : Transport.recv t = (.ok frame, t')) (hh : s.handle frame = (.ok reply, s'))
      (hs : Transport.send t' reply = (.ok (), t'')) : Turned t s none t'' s'

theorem turned (t : T) (s : Session) :
    Turned t s (serveTurn t s).1 (serveTurn t s).2.1 (serveTurn t s).2.2 := by
  rw [serveTurn, takeIn]
  rcases hr : Transport.recv t with ⟨r, t'⟩
  cases r with
  | error e => exact .closed e t' hr
  | ok frame =>
    simp only
    rcases hh : s.handle frame with ⟨a, s'⟩
    cases a with
    | error e =>
      have hsame : s' = s := by
        have hu := (s.handled frame).unchanged (by rw [hh])
        rwa [hh] at hu
      rw [hsame] at hh ⊢
      exact .refused frame e t' hr hh
    | ok reply =>
      simp only [giveOut]
      rcases hs : Transport.send t' reply with ⟨r, t''⟩
      cases r with
      | error e => exact .failed frame reply e t' t'' s' hr hh hs
      | ok u => exact .answered frame reply t' t'' s' hr hh hs

end

def noopFrame (reqId : UInt32) : Bytes :=
  encodeFrame
    { version := protocolMajor, flags := 0, kind := .request, opcode := CoreOp.noop, reqId,
      seq := 1, bodyLen := 0 }
    []

end Graftx.Server
