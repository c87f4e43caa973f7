import Graftx.Lib.Chunks
import Graftx.Protocol.Reader
import Graftx.Transport.Core

/-! Frames over a byte stream, each behind a header with its length. The stream itself is
the standard library's: what is used of it is named here, and it may deliver its bytes in
chunks of any size. -/
namespace Graftx
open Graftx.Protocol Lib.LittleEndian Lib.Machine

/-- What the framing calls of `Read + Write`. -/
class ByteStream (S : Type) where
  writeAll : S → Bytes → Except IoError Unit × S
  flush : S → Except IoError Unit × S
  readExact : S → Nat → Except IoError Bytes × S

/-- `read_exact` fills the buffer with the next bytes, or there are too few left. -/
class Readable (S : Type) [ByteStream S] where
  unread : S → Bytes
  fills : ∀ s n, n ≤ (unread s).length →
    ∃ s', ByteStream.readExact s n = (.ok ((unread s).take n), s') ∧ unread s' = (unread s).drop n
  ends : ∀ s n, (unread s).length < n →
    ∃ s', ByteStream.readExact s n = (.error .unexpectedEof, s')

/-- `write_all` writes all bytes, behind those written before. -/
class Writable (S : Type) [ByteStream S] where
  written : S → Bytes
  writes : ∀ s b, ∃ s', ByteStream.writeAll s b = (.ok (), s') ∧ written s' = written s ++ b
  flushes : ∀ s, ∃ s', ByteStream.flush s = (.ok (), s') ∧ written s' = written s

export Readable (unread)
export Writable (written)

/-- A read that fails has used up what was left, as `read_exact` does unless a stream
overrides it. -/
def Drains (S : Type) [ByteStream S] [Readable S] : Prop :=
  ∀ (s : S) n, (unread s).length < n → unread (ByteStream.readExact s n).2 = []

/-- One end of a connection: what arrives, chunk by chunk, and what was written. -/
structure ChunkedStream where
  arriving : List Bytes
  sent : Bytes

instance : ByteStream ChunkedStream where
  writeAll s b := (.ok (), { s with sent := s.sent ++ b })
  flush s := (.ok (), s)
  readExact s n :=
    match Lib.Chunks.fill n s.arriving with
    | (none, arriving) => (.error .unexpectedEof, { s with arriving })
    | (some b, arriving) => (.ok b, { s with arriving })

instance : Readable ChunkedStream where
  unread s := s.arriving.flatten
  fills s n h := by
    obtain ⟨rest, hfill, hrest⟩ := Lib.Chunks.fill_of_le n s.arriving h
    exact ⟨{ s with arriving := rest }, by simp only [ByteStream.readExact, hfill], hrest⟩
  ends s n h := by
    have hfill := Lib.Chunks.fill_of_lt n s.arriving h
    exact ⟨{ s with arriving := [] }, by simp only [ByteStream.readExact, hfill]⟩

theorem drains_chunkedStream : Drains ChunkedStream := by
  intro s n h
  have hfill := Lib.Chunks.fill_of_lt n s.arriving h
  simp only [ByteStream.readExact, hfill, unread, List.flatten_nil]

instance : Writable ChunkedStream where
  written s := s.sent
  writes _ _ := ⟨_, rfl, rfl⟩
  flushes s := ⟨s, rfl, rfl⟩

def maxFrameDefault : UInt32 := 64 * 1024 * 1024

structure StreamTransport (S : Type) where
  inner : S
  maxFrame : UInt32

namespace StreamTransport
variable {S : Type}

def new (inner : S) : StreamTransport S := ⟨inner, maxFrameDefault⟩

def withMaxFrame (inner : S) (maxFrame : UInt32) : StreamTransport S := ⟨inner, maxFrame⟩

variable [ByteStream S]

/-- The length is checked against its 32-bit field only. -/
def send (t : StreamTransport S) (frame : Bytes) : Except IoError Unit × StreamTransport S :=
  if frame.length < 2 ^ 32 then
    match ByteStream.writeAll t.inner (le32 (UInt32.ofNat frame.length)) with
    | (.error e, inner) => (.error e, { t with inner })
    | (.ok (), inner) =>
      match ByteStream.writeAll inner frame with
      | (.error e, inner) => (.error e, { t with inner })
      | (.ok (), inner) =>
        let (r, inner) := ByteStream.flush inner
        (r, { t with inner })
  else (.error .invalidInput, t)

/-- A header that does not come is reported under the kind the stream gives it. -/
def recv (t : StreamTransport S) : Except IoError Bytes × StreamTransport S :=
  match ByteStream.readExact t.inner 4 with
  | (.error e, inner) => (.error e, { t with inner })
  | (.ok header, inner) =>
    let len := UInt32.ofNat (leValue header)
    if len > t.maxFrame then (.error .invalidData, { t with inner })
    else
      let (r, inner) := ByteStream.readExact inner len.toNat
      (r, { t with inner })

instance : Transport (StreamTransport S) := ⟨send, recv⟩

end StreamTransport

def fitsHeader (frame : Bytes) : Bool := frame.length < 2 ^ 32

def prefixed (frame : Bytes) : Bytes := le32 (UInt32.ofNat frame.length) ++ frame

def wire : List Bytes → Bytes
  | [] => []
  | frame :: frames => prefixed frame ++ wire frames

theorem length_prefixed (frame : Bytes) : (prefixed frame).length = 4 + frame.length := by
  simp [prefixed, le32]

/-- The frames that are wholly within the first `cut` bytes of their wire. -/
def wholeBefore : Nat → List Bytes → List Bytes
  | _, [] => []
  | cut, frame :: frames =>
    if 4 + frame.length ≤ cut then frame :: wholeBefore (cut - (4 + frame.length)) frames else []

theorem wholeBefore_of_le (cut : Nat) (frames : List Bytes) (h : (wire frames).length ≤ cut) :
    wholeBefore cut frames = frames := by
  induction frames generalizing cut with
  | nil => rfl
  | cons frame frames ih =>
    rw [wire, List.length_append, length_prefixed] at h
    rw [wholeBefore, if_pos (by omega), ih _ (by omega)]

end Graftx
