import Graftx.Protocol.Reader

/-! Frame header, handshake bodies and whole frames. A header is rejected for its
kind as soon as the kind has been read, before the rest of it is looked at. -/
namespace Graftx.Protocol
open Lib.LittleEndian Lib.ExactReader Reader

inductive FrameKind where
  | request | response | event
  deriving DecidableEq, Repr

def FrameKind.toU16 : FrameKind → UInt16
  | .request => 0
  | .response => 1
  | .event => 2

def FrameKind.fromU16 (v : UInt16) : Except ProtocolError FrameKind :=
  if v = 0 then .ok .request
  else if v = 1 then .ok .response
  else if v = 2 then .ok .event
  else .error (.badKind v)

theorem FrameKind.fromU16_toU16 (kind : FrameKind) : fromU16 kind.toU16 = .ok kind := by
  cases kind <;> rfl

theorem FrameKind.toU16_le (kind : FrameKind) : kind.toU16.toNat ≤ 2 := by
  cases kind <;> decide

theorem FrameKind.fromU16_cases (v : UInt16) :
    (∃ kind, fromU16 v = .ok kind ∧ kind.toU16 = v) ∨
      2 < v.toNat ∧ fromU16 v = .error (.badKind v) := by
  by_cases h0 : v = 0
  · exact .inl ⟨.request, by rw [fromU16, if_pos h0], h0.symm⟩
  by_cases h1 : v = 1
  · exact .inl ⟨.response, by rw [fromU16, if_neg h0, if_pos h1], h1.symm⟩
  by_cases h2 : v = 2
  · exact .inl ⟨.event, by rw [fromU16, if_neg h0, if_neg h1, if_pos h2], h2.symm⟩
  refine .inr ⟨?_, by rw [fromU16, if_neg h0, if_neg h1, if_neg h2]⟩
  have hn (k : UInt16) (h : v ≠ k) : v.toNat ≠ k.toNat := fun he => h (UInt16.toNat_inj.mp he)
  have h0' := hn 0 h0
  have h1' := hn 1 h1
  have h2' := hn 2 h2
  simp only [UInt16.toNat_ofNat] at h0' h1' h2'
  omega

structure FrameHeader where
  version : UInt16
  flags : UInt16
  kind : FrameKind
  opcode : UInt32
  reqId : UInt32
  seq : UInt64
  bodyLen : UInt32
  deriving DecidableEq, Repr

def headerLen : Nat := 28

namespace FrameHeader

def encode (h : FrameHeader) : Bytes :=
  le16 h.version ++ le16 h.flags ++ le16 h.kind.toU16 ++ le16 0 ++ le32 h.opcode ++
    le32 h.reqId ++ le64 h.seq ++ le32 h.bodyLen

def decode : Bytes → Except ProtocolError FrameHeader := ReadM.decode do
  let version ← Reader.u16
  let flags ← Reader.u16
  let kind ← FrameKind.fromU16 (← Reader.u16)
  let _reserved ← Reader.u16
  let opcode ← Reader.u32
  let reqId ← Reader.u32
  let seq ← Reader.u64
  let bodyLen ← Reader.u32
  return { version, flags, kind, opcode, reqId, seq, bodyLen }

def lead : ReadM (UInt16 × UInt16 × UInt16) := do
  let version ← Reader.u16
  let flags ← Reader.u16
  let kind ← Reader.u16
  return (version, flags, kind)

def leadBytes (p : UInt16 × UInt16 × UInt16) : Bytes := le16 p.1 ++ le16 p.2.1 ++ le16 p.2.2

structure Trail where
  reserved : UInt16
  opcode : UInt32
  reqId : UInt32
  seq : UInt64
  bodyLen : UInt32

def trail : ReadM Trail := do
  let reserved ← Reader.u16
  let opcode ← Reader.u32
  let reqId ← Reader.u32
  let seq ← Reader.u64
  let bodyLen ← Reader.u32
  return { reserved, opcode, reqId, seq, bodyLen }

def Trail.bytes (x : Trail) : Bytes :=
  le16 x.reserved ++ le32 x.opcode ++ le32 x.reqId ++ le64 x.seq ++ le32 x.bodyLen

def ofParts (p : UInt16 × UInt16 × UInt16) (kind : FrameKind) (x : Trail) : FrameHeader :=
  ⟨p.1, p.2.1, kind, x.opcode, x.reqId, x.seq, x.bodyLen⟩

theorem lead_takes : Takes (fun _ => True) lead leadBytes 6 :=
  Reads.three u16_takes u16_takes u16_takes (fun a b c => (a, b, c)) (·.1) (·.2.1) (·.2.2)
    (fun _ => rfl) fun _ _ _ => ⟨rfl, rfl, rfl⟩

theorem trail_takes : Takes (fun _ => True) trail Trail.bytes 22 := by
  refine Reads.congr (u16_takes.field Trail.reserved fun _ => u32_takes.field Trail.opcode fun _ =>
    u32_takes.field Trail.reqId fun _ => u64_takes.field Trail.seq fun _ =>
    u32_takes.field Trail.bodyLen fun _ => Reads.pure fun x => ?_) fun x => ?_
  · cases x
    simp [and_assoc]
  · simp [Trail.bytes]

theorem decode_eq : decode = ReadM.decode (lead >>= fun p =>
    (liftM (FrameKind.fromU16 p.2.2) : ReadM FrameKind) >>= fun kind =>
      trail >>= fun x => pure (ofParts p kind x)) := by
  simp only [decode, lead, trail, ofParts, bind_assoc, pure_bind]

theorem lift_ok {e : Except ProtocolError FrameKind} {kind : FrameKind} (h : e = .ok kind)
    (r : Reader) : (liftM e : ReadM FrameKind) r = .ok (kind, r) := by
  rw [h]
  rfl

theorem lift_error {e : Except ProtocolError FrameKind} {err : ProtocolError} (h : e = .error err)
    (r : Reader) : (liftM e : ReadM FrameKind) r = .error err := by
  rw [h]
  rfl

theorem decode_of_short_lead (b : Bytes) (h : b.length < 6) :
    decode b = .error .unexpectedEof := by
  rw [decode_eq]
  exact run_error (bind_error (lead_takes.miss (Reader.new b) h))

theorem decode_of_badKind (p : UInt16 × UInt16 × UInt16) (t : Bytes) {err : ProtocolError}
    (hk : FrameKind.fromU16 p.2.2 = .error err) : decode (leadBytes p ++ t) = .error err := by
  obtain ⟨s, hs, -⟩ := lead_takes.hit (Reader.new (leadBytes p ++ t)) p t trivial rfl
  rw [decode_eq]
  exact run_error ((bind_ok hs).trans (bind_error (lift_error hk s)))

theorem decode_of_short_trail (p : UInt16 × UInt16 × UInt16) (t : Bytes) {kind : FrameKind}
    (hk : FrameKind.fromU16 p.2.2 = .ok kind) (ht : t.length < 22) :
    decode (leadBytes p ++ t) = .error .unexpectedEof := by
  obtain ⟨s, hs, hv⟩ := lead_takes.hit (Reader.new (leadBytes p ++ t)) p t trivial rfl
  rw [decode_eq]
  refine run_error ((bind_ok hs).trans ((bind_ok (lift_ok hk s)).trans (bind_error ?_)))
  exact trail_takes.miss s (by rwa [hv])

theorem decode_of_parts (p : UInt16 × UInt16 × UInt16) (x : Trail) (t : Bytes) {kind : FrameKind}
    (hk : FrameKind.fromU16 p.2.2 = .ok kind) :
    decode (leadBytes p ++ (x.bytes ++ t)) = .ok (ofParts p kind x) := by
  obtain ⟨s, hs, hv⟩ := lead_takes.hit (Reader.new (leadBytes p ++ (x.bytes ++ t))) p _ trivial rfl
  obtain ⟨s₂, hs₂, -⟩ := trail_takes.hit s x t trivial hv
  rw [decode_eq]
  exact run_ok ((bind_ok hs).trans ((bind_ok (lift_ok hk s)).trans ((bind_ok hs₂).trans rfl)))

/-- Every byte string is of exactly one of four kinds, and the header decoder says which. -/
inductive Shape (b : Bytes) : Prop where
  | shortLead (hb : b.length < 6) (hd : decode b = .error .unexpectedEof)
  | badKind (p : UInt16 × UInt16 × UInt16) (t : Bytes) (hb : b = leadBytes p ++ t)
      (hk : 2 < p.2.2.toNat) (hd : decode b = .error (.badKind p.2.2))
  | shortTrail (p : UInt16 × UInt16 × UInt16) (t : Bytes) (hb : b = leadBytes p ++ t)
      (hk : p.2.2.toNat ≤ 2) (ht : t.length < 22) (hd : decode b = .error .unexpectedEof)
  | whole (p : UInt16 × UInt16 × UInt16) (kind : FrameKind) (x : Trail) (t : Bytes)
      (hb : b = leadBytes p ++ (x.bytes ++ t)) (hk : kind.toU16 = p.2.2)
      (hd : decode b = .ok (ofParts p kind x))

theorem shape (b : Bytes) : Shape b := by
  by_cases hb : b.length < 6
  · exact .shortLead hb (decode_of_short_lead b hb)
  obtain ⟨p, s, -, -, hv⟩ := lead_takes.cover (Reader.new b) (by rw [rest_new]; omega)
  rw [rest_new] at hv
  obtain ⟨kind, hk, hkind⟩ | ⟨hlt, hk⟩ := FrameKind.fromU16_cases p.2.2
  · by_cases ht : s.rest.length < 22
    · exact .shortTrail p _ hv (hkind ▸ kind.toU16_le) ht
        (hv ▸ decode_of_short_trail p _ hk ht)
    · obtain ⟨x, s₂, -, -, hx⟩ := trail_takes.cover s (by omega)
      rw [hx] at hv
      exact .whole p kind x _ hv hkind (hv ▸ decode_of_parts p x _ hk)
  · exact .badKind p _ hv hlt (hv ▸ decode_of_badKind p _ hk)

def kindField (b : Bytes) : Nat := leValue ((b.drop 4).take 2)

theorem leadBytes_length (p : UInt16 × UInt16 × UInt16) : (leadBytes p).length = 6 :=
  lead_takes.width p trivial

theorem kindField_lead (p : UInt16 × UInt16 × UInt16) (t : Bytes) :
    kindField (leadBytes p ++ t) = p.2.2.toNat := by
  have h : (leadBytes p ++ t).drop 4 = le16 p.2.2 ++ t := by
    rw [leadBytes, List.append_assoc]
    exact List.drop_left' (by simp [le16])
  have hk : (le16 p.2.2 ++ t).take 2 = le16 p.2.2 := List.take_left' (by simp [le16])
  rw [kindField, h, hk, le16, leValue_leBytes_of_lt 2 _ p.2.2.toNat_lt]

theorem Trail.bytes_length (x : Trail) : x.bytes.length = 22 := trail_takes.width x trivial

theorem decode_encode (h : FrameHeader) (t : Bytes) : decode (h.encode ++ t) = .ok h := by
  have hd := decode_of_parts (h.version, h.flags, h.kind.toU16)
    ⟨0, h.opcode, h.reqId, h.seq, h.bodyLen⟩ t h.kind.fromU16_toU16
  simpa [leadBytes, Trail.bytes, encode, ofParts] using hd

theorem encode_decode (b : Bytes) (h : FrameHeader) (hd : decode b = .ok h) :
    headerLen ≤ b.length ∧ h.encode = b.take 6 ++ [0, 0] ++ (b.drop 8).take 20 := by
  cases shape b with
  | shortLead _ he => rw [he] at hd; cases hd
  | badKind _ _ _ _ he => rw [he] at hd; cases hd
  | shortTrail _ _ _ _ _ he => rw [he] at hd; cases hd
  | whole p kind x t hb hk he =>
    rw [he] at hd
    cases hd
    have h6 : b.take 6 = leadBytes p := by
      rw [hb]
      exact List.take_left' (leadBytes_length p)
    have h8 : b.drop 8 = (le32 x.opcode ++ le32 x.reqId ++ le64 x.seq ++ le32 x.bodyLen) ++ t := by
      rw [hb, Trail.bytes]
      simp only [← List.append_assoc]
      simp only [List.append_assoc (leadBytes p ++ le16 x.reserved)]
      rw [List.drop_left' (by simp [leadBytes, le16])]
    have h20 : (b.drop 8).take 20 =
        le32 x.opcode ++ le32 x.reqId ++ le64 x.seq ++ le32 x.bodyLen := by
      rw [h8]
      exact List.take_left' (by simp [le32, le64])
    refine ⟨?_, ?_⟩
    · rw [hb, List.length_append, List.length_append, leadBytes_length, x.bytes_length, headerLen]
      omega
    · rw [h6, h20]
      simp [encode, ofParts, leadBytes, hk, le16, leBytes]

def bodyLenField (b : Bytes) : Nat := leValue ((b.drop 24).take 4)

theorem bodyLenField_of_decode (b : Bytes) (h : FrameHeader) (hd : decode b = .ok h) :
    bodyLenField b = h.bodyLen.toNat := by
  obtain ⟨hlen, hbytes⟩ := encode_decode b h hd
  have hfield := congrArg (List.drop 24) hbytes
  rw [headerLen] at hlen
  have hl : h.encode.drop 24 = le32 h.bodyLen := by
    rw [encode]
    exact List.drop_left' (by simp [le16, le32, le64])
  have hr : (b.take 6 ++ [0, 0] ++ (b.drop 8).take 20).drop 24 = (b.drop 24).take 4 := by
    have h8 : (b.take 6 ++ [0, 0]).length = 8 := by simp; omega
    rw [List.drop_append, List.drop_of_length_le (by omega), h8, List.nil_append, List.drop_take,
      List.drop_drop]
  rw [hl, hr] at hfield
  rw [bodyLenField, ← hfield, le32, leValue_leBytes_of_lt 4 _ h.bodyLen.toNat_lt]

theorem kindField_of_decode (b : Bytes) (h : FrameHeader) (hd : decode b = .ok h) :
    kindField b = h.kind.toU16.toNat := by
  cases shape b with
  | shortLead _ he => rw [he] at hd; cases hd
  | badKind _ _ _ _ he => rw [he] at hd; cases hd
  | shortTrail _ _ _ _ _ he => rw [he] at hd; cases hd
  | whole p kind x t hb hk he =>
    rw [he] at hd
    cases hd
    rw [hb, kindField_lead, ← hk, ofParts]

theorem short_iff (b : Bytes) : decode b = .error .unexpectedEof ↔
    b.length < headerLen ∧ ¬ (6 ≤ b.length ∧ 2 < kindField b) := by
  cases shape b with
  | shortLead hb he =>
    have h28 : b.length < headerLen := by rw [headerLen]; omega
    exact iff_of_true he ⟨h28, fun h => by omega⟩
  | badKind p t hb hk he =>
    refine iff_of_false (by simp [he]) fun h => h.2 ⟨?_, ?_⟩
    · rw [hb, List.length_append, leadBytes_length]
      omega
    · rwa [hb, kindField_lead]
  | shortTrail p t hb hk ht he =>
    have hlen : b.length = 6 + t.length := by rw [hb, List.length_append, leadBytes_length]
    refine iff_of_true he ⟨by rw [hlen, headerLen]; omega, fun h => ?_⟩
    rw [hb, kindField_lead] at h
    omega
  | whole p kind x t hb hk he =>
    refine iff_of_false (by simp [he]) fun h => ?_
    have hlen := h.1
    rw [hb, List.length_append, List.length_append, leadBytes_length, x.bytes_length,
      headerLen] at hlen
    omega

theorem badKind_iff (b : Bytes) (k : UInt16) : decode b = .error (.badKind k) ↔
    6 ≤ b.length ∧ 2 < kindField b ∧ k.toNat = kindField b := by
  cases shape b with
  | shortLead hb he => exact iff_of_false (by simp [he]) fun h => by omega
  | badKind p t hb hk he =>
    rw [he, hb, kindField_lead, List.length_append, leadBytes_length]
    constructor
    · intro h
      cases h
      exact ⟨by omega, hk, rfl⟩
    · rintro ⟨-, -, h⟩
      rw [UInt16.toNat_inj.mp h]
  | shortTrail p t hb hk ht he =>
    refine iff_of_false (by simp [he]) fun h => ?_
    rw [hb, kindField_lead] at h
    omega
  | whole p kind x t hb hk he =>
    refine iff_of_false (by simp [he]) fun h => ?_
    have h2 := kind.toU16_le
    rw [hb, kindField_lead, ← hk] at h
    omega

theorem only_eof_or_badKind (b : Bytes) (e : ProtocolError) (hd : decode b = .error e) :
    e = .unexpectedEof ∨ ∃ k, e = .badKind k := by
  cases shape b with
  | shortLead _ he => rw [he] at hd; cases hd; exact .inl rfl
  | badKind _ _ _ _ he => rw [he] at hd; cases hd; exact .inr ⟨_, rfl⟩
  | shortTrail _ _ _ _ _ he => rw [he] at hd; cases hd; exact .inl rfl
  | whole _ _ _ _ _ _ he => rw [he] at hd; cases hd

theorem encode_length (h : FrameHeader) : h.encode.length = headerLen := by
  simp [encode, le16, le32, le64, headerLen]

end FrameHeader

structure Hello where
  protoMajor : UInt16
  protoMinor : UInt16
  features : UInt32
  maxFrameBody : UInt32

def Hello.encode (x : Hello) : Bytes :=
  le16 x.protoMajor ++ le16 x.protoMinor ++ le32 x.features ++ le32 x.maxFrameBody

def Hello.decode : Bytes → Except ProtocolError Hello := ReadM.decode do
  return {
    protoMajor := ← Reader.u16, protoMinor := ← Reader.u16, features := ← Reader.u32,
    maxFrameBody := ← Reader.u32 }

theorem Hello.decode_exact : ExactBody decode encode 12 := by
  refine exactBody <| Reads.congr (u16_takes.field protoMajor fun _ =>
    u16_takes.field protoMinor fun _ => u32_takes.field features fun _ =>
    u32_takes.field maxFrameBody fun _ => Reads.pure fun x => ?_) fun x => ?_
  · cases x
    simp [and_assoc]
  · simp [encode]

structure Welcome where
  protoMajor : UInt16
  protoMinor : UInt16
  features : UInt32
  maxFrameBody : UInt32
  sessionId : UInt64
  deriving DecidableEq

def Welcome.encode (x : Welcome) : Bytes :=
  le16 x.protoMajor ++ le16 x.protoMinor ++ le32 x.features ++ le32 x.maxFrameBody ++
    le64 x.sessionId

def Welcome.decode : Bytes → Except ProtocolError Welcome := ReadM.decode do
  return {
    protoMajor := ← Reader.u16, protoMinor := ← Reader.u16, features := ← Reader.u32,
    maxFrameBody := ← Reader.u32, sessionId := ← Reader.u64 }

theorem Welcome.decode_exact : ExactBody decode encode 20 := by
  refine exactBody <| Reads.congr (u16_takes.field protoMajor fun _ =>
    u16_takes.field protoMinor fun _ => u32_takes.field features fun _ =>
    u32_takes.field maxFrameBody fun _ => u64_takes.field sessionId fun _ =>
    Reads.pure fun x => ?_) fun x => ?_
  · cases x
    simp [and_assoc]
  · simp [encode]

def encodeFrame (header : FrameHeader) (body : Bytes) : Bytes := header.encode ++ body

/-- The header and what follows it. The caller compares `bodyLen` with the body. -/
def decodeFrame (buf : Bytes) : Except ProtocolError (FrameHeader × Bytes) :=
  if buf.length < headerLen then .error .unexpectedEof
  else do
    let header ← FrameHeader.decode buf
    return (header, buf.drop headerLen)

@[simp] theorem decodeFrame_encodeFrame (header : FrameHeader) (body : Bytes) :
    decodeFrame (encodeFrame header body) = .ok (header, body) := by
  have hlen : ¬ (encodeFrame header body).length < headerLen := by
    rw [encodeFrame, List.length_append, header.encode_length]
    omega
  have hd := header.decode_encode body
  have hb : (header.encode ++ body).drop headerLen = body :=
    List.drop_left' header.encode_length
  rw [decodeFrame, if_neg hlen, encodeFrame, hd, hb]
  rfl

end Graftx.Protocol
