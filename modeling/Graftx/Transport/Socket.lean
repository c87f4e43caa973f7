import Graftx.Transport.Unframe

/-! A connection that may fail on both sides: the client sends some bytes, after which reading
fails, and at some point of the answers writing may fail. -/
namespace Graftx
open Graftx.Protocol Lib.LittleEndian Lib.Machine

/-- The server's end of a connection. Reading fails with `readError` once all that arrives is
used up, `unexpectedEof` for a client that hangs up, and writing fails with `writeError` behind
`room` more bytes. -/
structure Socket where
  arriving : List Bytes
  readError : IoError
  room : Nat
  writeError : IoError
  sent : Bytes

-- A write that fails has written what there was room for.
instance : ByteStream Socket where
  writeAll s b :=
    if b.length ≤ s.room then
      (.ok (), { s with room := s.room - b.length, sent := s.sent ++ b })
    else (.error s.writeError, { s with room := 0, sent := s.sent ++ b.take s.room })
  flush s := (.ok (), s)
  readExact s n :=
    match Lib.Chunks.fill n s.arriving with
    | (none, arriving) => (.error s.readError, { s with arriving })
    | (some b, arriving) => (.ok b, { s with arriving })

namespace Socket
variable (s : Socket)

theorem readExact_of_le (n : Nat) (h : n ≤ s.arriving.flatten.length) : ∃ arriving,
    ByteStream.readExact s n = (.ok (s.arriving.flatten.take n), { s with arriving }) ∧
      arriving.flatten = s.arriving.flatten.drop n := by
  obtain ⟨rest, hfill, hrest⟩ := Lib.Chunks.fill_of_le n s.arriving h
  exact ⟨rest, by simp only [ByteStream.readExact, hfill], hrest⟩

theorem readExact_of_lt (n : Nat) (h : s.arriving.flatten.length < n) :
    ByteStream.readExact s n = (.error s.readError, { s with arriving := [] }) := by
  simp only [ByteStream.readExact, Lib.Chunks.fill_of_lt n s.arriving h]

theorem writeAll_of_le (b : Bytes) (h : b.length ≤ s.room) : ByteStream.writeAll s b =
    (.ok (), { s with room := s.room - b.length, sent := s.sent ++ b }) := by
  simp only [ByteStream.writeAll, if_pos h]

theorem writeAll_of_lt (b : Bytes) (h : s.room < b.length) : ByteStream.writeAll s b =
    (.error s.writeError, { s with room := 0, sent := s.sent ++ b.take s.room }) := by
  simp only [ByteStream.writeAll, if_neg (Nat.not_le.mpr h)]

end Socket

namespace StreamTransport

/-- What a call of `recv` does, read off the bytes that are left; it writes nothing. -/
inductive Received (t : StreamTransport Socket) : List Bytes × IoError → Prop
  | none (e : IoError) (arriving : List Bytes)
      (hr : Transport.recv t = (.error e, { t with inner := { t.inner with arriving } })) :
      Received t ([], e)
  | frame (f : Bytes) (fs : List Bytes) (e : IoError) (arriving : List Bytes)
      (hr : Transport.recv t = (.ok f, { t with inner := { t.inner with arriving } }))
      (hrest : unframe t.maxFrame t.inner.readError arriving.flatten = (fs, e)) :
      Received t (f :: fs, e)

theorem received (t : StreamTransport Socket) :
    Received t (unframe t.maxFrame t.inner.readError t.inner.arriving.flatten) := by
  have hrecv : Transport.recv t = recv t := rfl
  by_cases hlen : t.inner.arriving.flatten.length < 4
  · rw [recv, t.inner.readExact_of_lt 4 hlen] at hrecv
    rw [unframe_short _ _ _ hlen]
    exact .none _ _ hrecv
  · obtain ⟨len, rest, hb⟩ := eq_le32_append _ (Nat.not_lt.mp hlen)
    obtain ⟨arriving, hread, hrest⟩ := t.inner.readExact_of_le 4 (Nat.not_lt.mp hlen)
    have h4 := length_le32 len
    rw [hb, ← h4, List.drop_left] at hrest
    rw [hb, ← h4, List.take_left, h4] at hread
    rw [recv, hread] at hrecv
    simp only [leValue_le32, UInt32.ofNat_toNat] at hrecv
    rw [hb, unframe_header]
    by_cases hcap : t.maxFrame < len
    · rw [if_pos hcap] at hrecv ⊢
      exact .none _ _ hrecv
    · rw [if_neg hcap] at hrecv ⊢
      by_cases hshort : rest.length < len.toNat
      · rw [Socket.readExact_of_lt _ _ (by rw [hrest]; exact hshort)] at hrecv
        rw [if_pos hshort]
        exact .none _ _ hrecv
      · obtain ⟨arriving', hread', hrest'⟩ := Socket.readExact_of_le
          { t.inner with arriving } len.toNat (by rw [hrest]; exact Nat.not_lt.mp hshort)
        rw [hrest] at hread' hrest'
        rw [hread'] at hrecv
        rw [if_neg hshort]
        exact .frame _ _ _ _ hrecv (by rw [hrest'])

theorem send_fits (t : StreamTransport Socket) (frame : Bytes) (h32 : frame.length < 2 ^ 32)
    (h : (prefixed frame).length ≤ t.inner.room) : Transport.send t frame = (.ok (),
      { t with inner := { t.inner with
          room := t.inner.room - (prefixed frame).length
          sent := t.inner.sent ++ prefixed frame } }) := by
  have h4 := length_le32 (UInt32.ofNat frame.length)
  rw [length_prefixed] at h
  change send t frame = _
  rw [send, if_pos h32, Socket.writeAll_of_le _ _ (by omega)]
  simp only
  rw [Socket.writeAll_of_le _ _ (by simp only [h4]; omega)]
  simp only [ByteStream.flush, h4, Nat.sub_sub, List.append_assoc, length_prefixed]
  rfl

/-- Any other is cut off where the room ends, be it within the length or behind it. -/
theorem send_cut (t : StreamTransport Socket) (frame : Bytes) (h32 : frame.length < 2 ^ 32)
    (h : t.inner.room < (prefixed frame).length) : Transport.send t frame =
      (.error t.inner.writeError, { t with inner := { t.inner with
          room := 0
          sent := t.inner.sent ++ (prefixed frame).take t.inner.room } }) := by
  have h4 := length_le32 (UInt32.ofNat frame.length)
  rw [length_prefixed] at h
  change send t frame = _
  rw [send, if_pos h32, prefixed, List.take_append, h4]
  by_cases hheader : t.inner.room < 4
  · rw [Socket.writeAll_of_lt _ _ (by rw [h4]; exact hheader),
      Nat.sub_eq_zero_of_le (Nat.le_of_lt hheader), List.take_zero, List.append_nil]
  · have hwhole : (le32 (UInt32.ofNat frame.length)).take t.inner.room =
        le32 (UInt32.ofNat frame.length) := List.take_of_length_le (by omega)
    rw [Socket.writeAll_of_le _ _ (by omega)]
    simp only
    rw [Socket.writeAll_of_lt _ _ (by simp only [h4]; omega), hwhole]
    simp only [h4, List.append_assoc]

end StreamTransport
end Graftx
