import Graftx.Lib.Bookkeeping
import Graftx.Lib.Saturation
import Graftx.Obs.Registry
import Graftx.Transport.Core

/-! A transport that counts the frames and the bytes that go through the one inside, in each
direction. Only what succeeded counts, and no counter wraps. -/
namespace Graftx
open Graftx.Protocol Lib.Machine Lib.Saturation

structure CountingTransport (T : Type) where
  inner : T
  bytesSent : UInt64
  bytesRecv : UInt64
  framesSent : UInt64
  framesRecv : UInt64

namespace CountingTransport
variable {T : Type}

def new (inner : T) : CountingTransport T := ⟨inner, 0, 0, 0, 0⟩

def intoInner (t : CountingTransport T) : T := t.inner

variable [Transport T]

instance : Transport (CountingTransport T) where
  send t frame :=
    match Transport.send t.inner frame with
    | (.error e, inner) => (.error e, { t with inner })
    | (.ok (), inner) =>
      (.ok (),
        { t with
          inner
          bytesSent := Obs.saturatingAdd t.bytesSent (UInt64.ofNat frame.length)
          framesSent := Obs.saturatingAdd t.framesSent 1 })
  recv t :=
    match Transport.recv t.inner with
    | (.error e, inner) => (.error e, { t with inner })
    | (.ok frame, inner) =>
      (.ok frame,
        { t with
          inner
          bytesRecv := Obs.saturatingAdd t.bytesRecv (UInt64.ofNat frame.length)
          framesRecv := Obs.saturatingAdd t.framesRecv 1 })

end CountingTransport

inductive TransportCall where
  | send (frame : Bytes)
  | recv

abbrev Outcome := Except IoError Bytes

def perform {T : Type} [Transport T] (t : T) : TransportCall → Outcome × T
  | .send frame =>
    let (r, t) := Transport.send t frame
    (r.map fun _ => frame, t)
  | .recv => Transport.recv t

def sentIn (l : List (TransportCall × Outcome)) : List Bytes :=
  l.filterMap fun e =>
    match e with
    | (.send _, .ok frame) => some frame
    | _ => none

def receivedIn (l : List (TransportCall × Outcome)) : List Bytes :=
  l.filterMap fun e =>
    match e with
    | (.recv, .ok frame) => some frame
    | _ => none

namespace CountingTransport
variable {T : Type}

structure Tally where
  bytesSent : UInt64
  bytesRecv : UInt64
  framesSent : UInt64
  framesRecv : UInt64

def tally (t : CountingTransport T) : Tally := ⟨t.bytesSent, t.bytesRecv, t.framesSent, t.framesRecv⟩

def Tally.note (c : Tally) : TransportCall × Outcome → Tally
  | (.send _, .ok frame) =>
    { c with
      bytesSent := Obs.saturatingAdd c.bytesSent (UInt64.ofNat frame.length)
      framesSent := Obs.saturatingAdd c.framesSent 1 }
  | (.recv, .ok frame) =>
    { c with
      bytesRecv := Obs.saturatingAdd c.bytesRecv (UInt64.ofNat frame.length)
      framesRecv := Obs.saturatingAdd c.framesRecv 1 }
  | (_, .error _) => c

def withTally (inner : T) (c : Tally) : CountingTransport T :=
  ⟨inner, c.bytesSent, c.bytesRecv, c.framesSent, c.framesRecv⟩

section
variable [Transport T]

theorem perform_eq (t : CountingTransport T) (call : TransportCall) :
    perform t call = ((perform t.inner call).1,
      withTally (perform t.inner call).2 (t.tally.note (call, (perform t.inner call).1))) := by
  cases call with
  | send frame =>
    simp only [perform, Transport.send]
    rcases Transport.send t.inner frame with ⟨r, inner⟩
    cases r <;> rfl
  | recv =>
    simp only [perform, Transport.recv]
    rcases Transport.recv t.inner with ⟨r, inner⟩
    cases r <;> rfl

theorem keeps :
    Keeps (perform (T := CountingTransport T)) (perform (T := T)) inner tally Tally.note where
  answer t call := by rw [perform_eq]
  inside_step t call := by
    rw [perform_eq]
    rfl
  books_step t call := by
    rw [perform_eq]
    rfl

end

def frameLen (frame : Bytes) : Nat := (UInt64.ofNat frame.length).toNat

/-- The counters show the exact sums over a log, each cut off once. -/
structure Shows (c : Tally) (l : List (TransportCall × Outcome)) : Prop where
  framesSent : c.framesSent.toNat = min (2 ^ 64 - 1) (sentIn l).length
  bytesSent : c.bytesSent.toNat = min (2 ^ 64 - 1) (weight frameLen (sentIn l))
  framesRecv : c.framesRecv.toNat = min (2 ^ 64 - 1) (receivedIn l).length
  bytesRecv : c.bytesRecv.toNat = min (2 ^ 64 - 1) (weight frameLen (receivedIn l))

theorem toNat_foldl_note (field : Tally → UInt64) (w : Bytes → Nat)
    (frames : TransportCall × Outcome → Option Bytes) (h0 : field ⟨0, 0, 0, 0⟩ = 0)
    (hnote : ∀ c e, (field (c.note e)).toNat =
      min (2 ^ 64 - 1) ((field c).toNat + ((frames e).map w).getD 0))
    (l : List (TransportCall × Outcome)) :
    (field (l.foldl Tally.note ⟨0, 0, 0, 0⟩)).toNat =
      min (2 ^ 64 - 1) (weight w (l.filterMap frames)) := by
  have hval := val_foldl (fun c => (field c).toNat) (fun e => ((frames e).map w).getD 0) hnote l
    ⟨0, 0, 0, 0⟩ (by rw [h0]; decide)
  rw [hval, h0, UInt64.toNat_zero, Nat.zero_add, weight_filterMap]

theorem toNat_le_top (x : UInt64) : x.toNat = min (2 ^ 64 - 1) (x.toNat + 0) := by
  have h := x.toNat_lt
  omega

theorem shows_foldl (l : List (TransportCall × Outcome)) :
    Shows (l.foldl Tally.note ⟨0, 0, 0, 0⟩) l where
  framesSent := by
    rw [← weight_one]
    refine toNat_foldl_note (·.framesSent) _ _ rfl (fun c e => ?_) l
    obtain ⟨call, r⟩ := e
    cases call <;> cases r <;>
      first | exact toNat_le_top _ | exact Obs.toNat_saturatingAdd _ _
  bytesSent := by
    refine toNat_foldl_note (·.bytesSent) _ _ rfl (fun c e => ?_) l
    obtain ⟨call, r⟩ := e
    cases call <;> cases r <;>
      first | exact toNat_le_top _ | exact Obs.toNat_saturatingAdd _ _
  framesRecv := by
    rw [← weight_one]
    refine toNat_foldl_note (·.framesRecv) _ _ rfl (fun c e => ?_) l
    obtain ⟨call, r⟩ := e
    cases call <;> cases r <;>
      first | exact toNat_le_top _ | exact Obs.toNat_saturatingAdd _ _
  bytesRecv := by
    refine toNat_foldl_note (·.bytesRecv) _ _ rfl (fun c e => ?_) l
    obtain ⟨call, r⟩ := e
    cases call <;> cases r <;>
      first | exact toNat_le_top _ | exact Obs.toNat_saturatingAdd _ _

/-- Counting changes nothing: over any transport, every call in every run has the result it
has without, and the transport inside is left the same. The counters then show how many frames
and bytes went through in each direction, failed calls apart. -/
theorem counts_and_passes_on [Transport T] (t : T) (calls : List TransportCall) :
    log perform (new t) calls = log perform t calls ∧
      (final perform (new t) calls).intoInner = final perform t calls ∧
      Shows (final perform (new t) calls).tally (log perform t calls) :=
  ⟨keeps.log_eq (new t) calls, keeps.inside_final (new t) calls, by
    rw [keeps.books_final (new t) calls]
    exact shows_foldl (log perform t calls)⟩

end CountingTransport
end Graftx
