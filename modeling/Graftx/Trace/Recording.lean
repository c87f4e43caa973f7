import Graftx.Protocol.Frame
import Graftx.Transport.Core

/-! Frame traces: a transport that keeps a copy of every frame that goes through it, and a
loop that sends the requests of a trace again. -/
namespace Graftx
open Graftx.Protocol

structure FrameTrace where
  frames : List Bytes
  deriving DecidableEq

namespace FrameTrace

def new : FrameTrace := ⟨[]⟩

def record (trace : FrameTrace) (frame : Bytes) : FrameTrace := ⟨trace.frames ++ [frame]⟩

end FrameTrace

structure RecordingTransport (T : Type) where
  inner : T
  trace : FrameTrace

namespace RecordingTransport
variable {T : Type} [Transport T]

def new (inner : T) : RecordingTransport T := ⟨inner, .new⟩

/-- A frame is recorded only after the call inside has succeeded. -/
instance : Transport (RecordingTransport T) where
  send t frame :=
    match Transport.send t.inner frame with
    | (.error e, inner) => (.error e, { t with inner })
    | (.ok (), inner) => (.ok (), { inner, trace := t.trace.record frame })
  recv t :=
    match Transport.recv t.inner with
    | (.error e, inner) => (.error e, { t with inner })
    | (.ok frame, inner) => (.ok frame, { inner, trace := t.trace.record frame })

theorem send_ok (t : RecordingTransport T) (frame : Bytes) (inner : T)
    (h : Transport.send t.inner frame = (.ok (), inner)) :
    Transport.send t frame = (.ok (), ⟨inner, t.trace.record frame⟩) := by
  simp only [Transport.send, h]

theorem send_error (t : RecordingTransport T) (frame : Bytes) (inner : T) (e : IoError)
    (h : Transport.send t.inner frame = (.error e, inner)) :
    Transport.send t frame = (.error e, ⟨inner, t.trace⟩) := by
  simp only [Transport.send, h]

theorem recv_ok (t : RecordingTransport T) (frame : Bytes) (inner : T)
    (h : Transport.recv t.inner = (.ok frame, inner)) :
    Transport.recv t = (.ok frame, ⟨inner, t.trace.record frame⟩) := by
  simp only [Transport.recv, h]

theorem recv_error (t : RecordingTransport T) (inner : T) (e : IoError)
    (h : Transport.recv t.inner = (.error e, inner)) :
    Transport.recv t = (.error e, ⟨inner, t.trace⟩) := by
  simp only [Transport.recv, h]

end RecordingTransport

def isRequest (frame : Bytes) : Bool :=
  match decodeFrame frame with
  | .ok (header, _) => header.kind = .request
  | .error _ => false

section
variable {T : Type} [Transport T]

/-- The loop of `replay`. The first failing send ends it. -/
def replayFrames : T → List Bytes → Except IoError Unit × T
  | t, [] => (.ok (), t)
  | t, frame :: frames =>
    if isRequest frame then
      match Transport.send t frame with
      | (.error e, t) => (.error e, t)
      | (.ok (), t) => replayFrames t frames
    else replayFrames t frames

def replay (t : T) (trace : FrameTrace) : Except IoError Unit × T := replayFrames t trace.frames

def sendAll : T → List Bytes → Except IoError Unit × T
  | t, [] => (.ok (), t)
  | t, frame :: frames =>
    match Transport.send t frame with
    | (.error e, t) => (.error e, t)
    | (.ok (), t) => sendAll t frames

theorem sendAll_cons_ok (t t' : T) (frame : Bytes) (frames : List Bytes)
    (h : Transport.send t frame = (.ok (), t')) :
    sendAll t (frame :: frames) = sendAll t' frames := by
  rw [sendAll, h]

theorem replayFrames_eq (t : T) (frames : List Bytes) :
    replayFrames t frames = sendAll t (frames.filter isRequest) := by
  induction frames generalizing t with
  | nil => rfl
  | cons frame frames ih =>
    rw [replayFrames]
    by_cases hr : isRequest frame = true
    · rw [if_pos hr, List.filter_cons_of_pos hr, sendAll]
      rcases Transport.send t frame with ⟨r, t'⟩
      cases r with
      | error e => rfl
      | ok u => exact ih t'
    · rw [if_neg hr, List.filter_cons_of_neg hr]
      exact ih t

/-- Replay sends the requests of the trace in capture order and nothing else. -/
theorem replay_eq (t : T) (trace : FrameTrace) :
    replay t trace = sendAll t (trace.frames.filter isRequest) := replayFrames_eq t trace.frames

end
end Graftx
