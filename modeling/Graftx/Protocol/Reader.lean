import Graftx.Lib.LittleEndian
import Graftx.Lib.ExactReader
import Graftx.Protocol.Handle
import Graftx.Protocol.Core

/-! The bounds-checked little-endian reader and the fixed-width encoders. -/
namespace Graftx.Protocol
open Lib.LittleEndian Lib.ExactReader

def le16 (v : UInt16) : Bytes := leBytes 2 v.toNat
def le32 (v : UInt32) : Bytes := leBytes 4 v.toNat
def le64 (v : UInt64) : Bytes := leBytes 8 v.toNat

/-- A cursor into a byte slice; it never passes the end. -/
structure Reader where
  buf : Bytes
  pos : Nat
  pos_le : pos ≤ buf.length

abbrev ReadM := StateT Reader (Except ProtocolError)

namespace Reader

def new (buf : Bytes) : Reader := ⟨buf, 0, Nat.zero_le _⟩

/-- The next `n` bytes. The slice is in memory, so `pos + n` does not overflow. -/
def arr (n : Nat) : ReadM Bytes := fun r =>
  if h : r.pos + n ≤ r.buf.length then
    .ok ((r.buf.drop r.pos).take n, ⟨r.buf, r.pos + n, h⟩)
  else .error .unexpectedEof

def u16 : ReadM UInt16 := do return UInt16.ofNat (leValue (← arr 2))
def u32 : ReadM UInt32 := do return UInt32.ofNat (leValue (← arr 4))
def u64 : ReadM UInt64 := do return UInt64.ofNat (leValue (← arr 8))

def handle : ReadM Handle := do return Handle.fromRaw (← u64)

def rest (r : Reader) : Bytes := r.buf.drop r.pos

@[simp] theorem rest_new (b : Bytes) : (new b).rest = b := rfl

abbrev Takes {α : Type} (P : α → Prop) (m : ReadM α) (enc : α → Bytes) (n : Nat) : Prop :=
  Reads rest ProtocolError.unexpectedEof P m enc n

theorem arr_takes (n : Nat) : Takes (fun bs => bs.length = n) (arr n) id n where
  width _ h := h
  hit r bs t hbs hr := by
    change r.buf.drop r.pos = bs ++ t at hr
    have hlen : r.buf.length - r.pos = n + t.length := by simpa [hbs] using congrArg List.length hr
    have hp := r.pos_le
    have hn : r.pos + n ≤ r.buf.length := by omega
    refine ⟨⟨r.buf, r.pos + n, hn⟩, ?_, ?_⟩
    · have htake : (r.buf.drop r.pos).take n = bs := by rw [hr, ← hbs, List.take_left]
      rw [arr, dif_pos hn, htake]
    · change r.buf.drop (r.pos + n) = t
      rw [← List.drop_drop, hr, ← hbs, List.drop_left]
  cover r hr := by
    have hp := r.pos_le
    have hlen : n ≤ r.buf.length - r.pos := by simpa [rest] using hr
    have hn : r.pos + n ≤ r.buf.length := by omega
    refine ⟨(r.buf.drop r.pos).take n, ⟨r.buf, r.pos + n, hn⟩, by rw [arr, dif_pos hn], ?_, ?_⟩
    · rw [List.length_take, List.length_drop]
      omega
    · change r.buf.drop r.pos = (r.buf.drop r.pos).take n ++ r.buf.drop (r.pos + n)
      rw [← List.drop_drop, List.take_append_drop]
  miss r hr := by
    have hlen : r.buf.length - r.pos < n := by simpa [rest] using hr
    rw [arr, dif_neg (by omega)]

theorem u16_takes : Takes (fun _ => True) u16 le16 2 := by
  refine (arr_takes 2).map (fun bs => UInt16.ofNat (leValue bs)) le16 (fun v => ⟨?_, ?_⟩) ?_
  · exact leBytes_length 2 v.toNat
  · rw [le16, leValue_leBytes_of_lt 2 _ v.toNat_lt, UInt16.ofNat_toNat]
  · intro bs hbs
    have hlt : leValue bs < 2 ^ 16 := by simpa [hbs] using leValue_lt bs
    rw [le16, UInt16.toNat_ofNat_of_lt' hlt, ← hbs, leBytes_leValue]

theorem u32_takes : Takes (fun _ => True) u32 le32 4 := by
  refine (arr_takes 4).map (fun bs => UInt32.ofNat (leValue bs)) le32 (fun v => ⟨?_, ?_⟩) ?_
  · exact leBytes_length 4 v.toNat
  · rw [le32, leValue_leBytes_of_lt 4 _ v.toNat_lt, UInt32.ofNat_toNat]
  · intro bs hbs
    have hlt : leValue bs < 2 ^ 32 := by simpa [hbs] using leValue_lt bs
    rw [le32, UInt32.toNat_ofNat_of_lt' hlt, ← hbs, leBytes_leValue]

theorem u64_takes : Takes (fun _ => True) u64 le64 8 := by
  refine (arr_takes 8).map (fun bs => UInt64.ofNat (leValue bs)) le64 (fun v => ⟨?_, ?_⟩) ?_
  · exact leBytes_length 8 v.toNat
  · rw [le64, leValue_leBytes_of_lt 8 _ v.toNat_lt, UInt64.ofNat_toNat]
  · intro bs hbs
    have hlt : leValue bs < 2 ^ 64 := by simpa [hbs] using leValue_lt bs
    rw [le64, UInt64.toNat_ofNat_of_lt' hlt, ← hbs, leBytes_leValue]

theorem handle_takes : Takes (fun _ => True) handle (fun h => le64 h.raw) 8 :=
  u64_takes.map Handle.fromRaw Handle.raw (fun _ => ⟨trivial, rfl⟩) fun _ _ => rfl

end Reader

/-- `Exact` at the wire format: bytes, protocol errors, short buffers as the failure. -/
abbrev ExactBody {α : Type} (dec : Bytes → Except ProtocolError α) (enc : α → Bytes)
    (n : Nat) : Prop :=
  Exact dec enc (fun _ => True) (fun _ => n) ProtocolError.unexpectedEof

/-- Decode one value from the front of `buf`, ignoring what follows it. -/
def ReadM.decode {α : Type} (m : ReadM α) (buf : Bytes) : Except ProtocolError α :=
  m.run' (Reader.new buf)

theorem ExactBody.length_encode {α : Type} {dec : Bytes → Except ProtocolError α} {enc : α → Bytes}
    {n : Nat} (h : ExactBody dec enc n) (x : α) : (enc x).length = n := by
  have hself := h.self x trivial
  have hle : n ≤ (enc x).length := (h.ok_iff (enc x)).mp ⟨x, hself⟩
  have htake := congrArg List.length (h.encode_decode (enc x) x hself).2
  rw [List.length_take] at htake
  omega

theorem exactBody {α : Type} {m : ReadM α} {enc : α → Bytes} {n : Nat}
    (h : Reader.Takes (fun _ => True) m enc n) : ExactBody m.decode enc n :=
  h.exact Reader.new Reader.rest_new

end Graftx.Protocol
