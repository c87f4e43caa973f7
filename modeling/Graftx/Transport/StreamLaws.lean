import Graftx.Transport.Stream

/-! What gets across a byte stream. The receiver takes frames off the wire as long as they
are whole and within its cap; the sender does not know that cap. -/
namespace Graftx
open Graftx.Protocol Lib.LittleEndian Lib.Machine

namespace StreamTransport

section Send
variable {S : Type} [ByteStream S]

theorem send_long (t : StreamTransport S) (frame : Bytes) (h : ¬ frame.length < 2 ^ 32) :
    Transport.send t frame = (.error .invalidInput, t) := by
  change send t frame = _
  rw [send, if_neg h]

variable [Writable S]

theorem send_short (t : StreamTransport S) (frame : Bytes) (h : frame.length < 2 ^ 32) :
    ∃ t', Transport.send t frame = (.ok (), t') ∧
      written t'.inner = written t.inner ++ prefixed frame := by
  obtain ⟨s₁, hs₁, hw₁⟩ := Writable.writes t.inner (le32 (UInt32.ofNat frame.length))
  obtain ⟨s₂, hs₂, hw₂⟩ := Writable.writes s₁ frame
  obtain ⟨s₃, hs₃, hw₃⟩ := Writable.flushes s₂
  refine ⟨{ t with inner := s₃ }, ?_, ?_⟩
  · change send t frame = _
    rw [send, if_pos h, hs₁]
    simp only
    rw [hs₂]
    simp only
    rw [hs₃]
  · rw [hw₃, hw₂, hw₁, List.append_assoc, prefixed]

theorem written_sends (t : StreamTransport S) (frames : List Bytes) :
    accepted t frames = frames.filter fitsHeader ∧
      written (final Transport.send t frames).inner =
        written t.inner ++ wire (accepted t frames) := by
  induction frames generalizing t with
  | nil => exact ⟨rfl, (List.append_nil _).symm⟩
  | cons frame frames ih =>
    rw [final]
    by_cases h : frame.length < 2 ^ 32
    · obtain ⟨t', hsend, hw⟩ := t.send_short frame h
      obtain ⟨hacc, hwire⟩ := ih t'
      rw [accepted_cons_ok t t' frame frames hsend, hsend, hwire, hw, wire, List.append_assoc]
      have hfits : fitsHeader frame := decide_eq_true h
      exact ⟨by rw [hacc, List.filter_cons_of_pos hfits], rfl⟩
    · have hsend := t.send_long frame h
      obtain ⟨hacc, hwire⟩ := ih t
      rw [accepted_cons_error t t frame frames _ hsend, hsend, hwire]
      have hlong : ¬ fitsHeader frame := mt of_decide_eq_true h
      exact ⟨by rw [hacc, List.filter_cons_of_neg hlong], rfl⟩

end Send

section Recv
variable {S : Type} [ByteStream S] [Readable S]

/-- Nothing can be received, and a stream that drains is at its end. -/
def AtEnd (t : StreamTransport S) : Prop :=
  ∃ t', Transport.recv t = (.error .unexpectedEof, t') ∧ (Drains S → unread t'.inner = [])

theorem atEnd_no_header (t : StreamTransport S) (h : (unread t.inner).length < 4) : t.AtEnd := by
  obtain ⟨s, hs⟩ := Readable.ends t.inner 4 h
  refine ⟨{ t with inner := s }, ?_, fun hdrain => ?_⟩
  · change recv t = _
    rw [recv, hs]
  · have hnone := hdrain t.inner 4 h
    rwa [hs] at hnone

theorem recv_header (t : StreamTransport S) (len : UInt32) (rest : Bytes)
    (h : unread t.inner = le32 len ++ rest) : ∃ s, unread s = rest ∧ Transport.recv t =
      if len > t.maxFrame then (.error .invalidData, { t with inner := s })
      else ((ByteStream.readExact s len.toNat).1,
        { t with inner := (ByteStream.readExact s len.toNat).2 }) := by
  have hlen : (le32 len).length = 4 := by simp [le32]
  obtain ⟨s, hs, hrest⟩ := Readable.fills t.inner 4
    (by rw [h, List.length_append, hlen]; exact Nat.le_add_right _ _)
  rw [h, ← hlen, List.drop_left] at hrest
  have hvalue : leValue (le32 len) = len.toNat := leValue_leBytes_of_lt 4 _ len.toNat_lt
  have htake : (unread t.inner).take 4 = le32 len := by
    rw [h, ← hlen, List.take_left]
  refine ⟨s, hrest, ?_⟩
  change recv t = _
  rw [recv, hs, htake]
  simp only [hvalue, UInt32.ofNat_toNat]

theorem recv_too_long (t : StreamTransport S) (len : UInt32) (rest : Bytes)
    (h : unread t.inner = le32 len ++ rest) (hlong : t.maxFrame < len) :
    ∃ t', Transport.recv t = (.error .invalidData, t') ∧ unread t'.inner = rest := by
  obtain ⟨s, hs, hr⟩ := t.recv_header len rest h
  exact ⟨{ t with inner := s }, by rw [hr, if_pos hlong], hs⟩

theorem atEnd_short_body (t : StreamTransport S) (len : UInt32) (rest : Bytes)
    (h : unread t.inner = le32 len ++ rest) (hcap : len ≤ t.maxFrame)
    (hshort : rest.length < len.toNat) : t.AtEnd := by
  obtain ⟨s, hs, hr⟩ := t.recv_header len rest h
  have hlt : (unread s).length < len.toNat := by rwa [hs]
  obtain ⟨s', hs'⟩ := Readable.ends s len.toNat hlt
  rw [if_neg (UInt32.not_lt.mpr hcap), hs'] at hr
  refine ⟨_, hr, fun hdrain => ?_⟩
  have hnone := hdrain s len.toNat hlt
  rwa [hs'] at hnone

theorem recv_frame (t : StreamTransport S) (frame rest : Bytes)
    (h : unread t.inner = prefixed frame ++ rest) (hcap : frame.length ≤ t.maxFrame.toNat) :
    ∃ t', Transport.recv t = (.ok frame, t') ∧ unread t'.inner = rest ∧
      t'.maxFrame = t.maxFrame := by
  have hn : (UInt32.ofNat frame.length).toNat = frame.length :=
    UInt32.toNat_ofNat_of_lt' (Nat.lt_of_le_of_lt hcap t.maxFrame.toNat_lt)
  rw [prefixed, List.append_assoc] at h
  obtain ⟨s, hs, hr⟩ := t.recv_header _ _ h
  obtain ⟨s', hs', hrest⟩ := Readable.fills s frame.length (by rw [hs]; simp)
  rw [hs, List.take_left] at hs'
  rw [hs, List.drop_left] at hrest
  refine ⟨{ t with inner := s' }, ?_, hrest, rfl⟩
  have hle : ¬ UInt32.ofNat frame.length > t.maxFrame := by
    rw [gt_iff_lt, UInt32.lt_iff_toNat_lt, hn]
    exact Nat.not_lt.mpr hcap
  rw [hr, if_neg hle, hn, hs']

/-- The wire of a frame and more, cut somewhere: either the frame is whole and the cut falls
behind it, or nothing can be received. -/
theorem recv_cut (t : StreamTransport S) (frame : Bytes) (frames : List Bytes) (cut : Nat)
    (h : unread t.inner = (wire (frame :: frames)).take cut)
    (hcap : frame.length ≤ t.maxFrame.toNat) :
    if 4 + frame.length ≤ cut then
      ∃ t', Transport.recv t = (.ok frame, t') ∧ t'.maxFrame = t.maxFrame ∧
        unread t'.inner = (wire frames).take (cut - (4 + frame.length))
    else t.AtEnd := by
  have hlen := length_prefixed frame
  have hsplit : (wire (frame :: frames)).take cut =
      (prefixed frame).take cut ++ (wire frames).take (cut - (4 + frame.length)) := by
    rw [wire, List.take_append, hlen]
  rw [hsplit] at h
  split
  · rename_i hcut
    rw [List.take_of_length_le (by omega)] at h
    obtain ⟨t', hr, hrest, hmax⟩ := t.recv_frame frame _ h hcap
    exact ⟨t', hr, hmax, hrest⟩
  · rename_i hcut
    have hzero : cut - (4 + frame.length) = 0 := by omega
    rw [hzero, List.take_zero, List.append_nil] at h
    by_cases h4 : cut < 4
    · refine t.atEnd_no_header ?_
      rw [h, List.length_take]
      omega
    · -- the header is there and the body is cut short
      have hn : (UInt32.ofNat frame.length).toNat = frame.length :=
        UInt32.toNat_ofNat_of_lt' (Nat.lt_of_le_of_lt hcap t.maxFrame.toNat_lt)
      have h32 : (le32 (UInt32.ofNat frame.length)).length = 4 := by simp [le32]
      rw [prefixed, List.take_append, h32, List.take_of_length_le (by omega)] at h
      refine t.atEnd_short_body _ _ h ?_ ?_
      · rwa [UInt32.le_iff_toNat_le, hn]
      · rw [hn, List.length_take]
        omega

theorem recvs_atEnd (t : StreamTransport S) (h : t.AtEnd) (k : Nat) (hk : k ≠ 0 → Drains S) :
    recvs (1 + k) t = List.replicate (1 + k) (.error .unexpectedEof) := by
  induction k generalizing t with
  | zero =>
    obtain ⟨t', hr, -⟩ := h
    exact recvs_succ 0 t t' _ hr
  | succ k ih =>
    obtain ⟨t', hr, hend⟩ := h
    have hdrain := hk (Nat.succ_ne_zero k)
    have hnext : t'.AtEnd := t'.atEnd_no_header (by simp [hend hdrain])
    rw [← Nat.add_assoc, recvs_succ _ t t' _ hr, ih t' hnext fun _ => hdrain, List.replicate_succ]

theorem recvs_cut (t : StreamTransport S) (frames : List Bytes) (cut k : Nat)
    (hk : k ≠ 0 → Drains S) (h : unread t.inner = (wire frames).take cut)
    (hcap : ∀ f ∈ frames, f.length ≤ t.maxFrame.toNat) :
    recvs ((wholeBefore cut frames).length + (1 + k)) t =
      (wholeBefore cut frames).map .ok ++ List.replicate (1 + k) (.error .unexpectedEof) := by
  induction frames generalizing t cut with
  | nil =>
    rw [wire, List.take_nil] at h
    rw [wholeBefore, List.length_nil, Nat.zero_add]
    exact t.recvs_atEnd (t.atEnd_no_header (by simp [h])) k hk
  | cons frame frames ih =>
    have hstep := t.recv_cut frame frames cut h (hcap frame List.mem_cons_self)
    rw [wholeBefore]
    split at hstep
    · rename_i hcut
      obtain ⟨t', hr, hmax, hrest⟩ := hstep
      have hrec := ih t' _ hrest fun f hf => hmax ▸ hcap f (List.mem_cons_of_mem frame hf)
      rw [if_pos hcut, List.length_cons, Nat.add_right_comm, recvs_succ _ t t' _ hr, hrec]
      rfl
    · rename_i hcut
      rw [if_neg hcut, List.length_nil, Nat.zero_add]
      exact t.recvs_atEnd hstep k hk

end Recv

/-- Frames within the receiver's cap come out as they went in, then the stream ends. If it
is cut anywhere, exactly the frames that are whole before the cut come out. -/
theorem frames_survive_the_stream {W R : Type} [ByteStream W] [Writable W] [ByteStream R]
    [Readable R] (sender : StreamTransport W) (receiver : StreamTransport R) (frames : List Bytes)
    (cut : Nat) (hfresh : written sender.inner = [])
    (hcap : ∀ f ∈ frames, f.length ≤ receiver.maxFrame.toNat)
    (hcut : unread receiver.inner =
      (written (final Transport.send sender frames).inner).take cut) :
    accepted sender frames = frames ∧
      recvs ((wholeBefore cut frames).length + 1) receiver =
        (wholeBefore cut frames).map .ok ++ [.error .unexpectedEof] ∧
      (Drains R → ∀ k, recvs ((wholeBefore cut frames).length + (1 + k)) receiver =
        (wholeBefore cut frames).map .ok ++ List.replicate (1 + k) (.error .unexpectedEof)) ∧
      ((written (final Transport.send sender frames).inner).length ≤ cut →
        wholeBefore cut frames = frames) := by
  obtain ⟨hacc, hwire⟩ := sender.written_sends frames
  have hall : accepted sender frames = frames := by
    rw [hacc]
    refine List.filter_eq_self.mpr fun f hf => decide_eq_true ?_
    exact Nat.lt_of_le_of_lt (hcap f hf) receiver.maxFrame.toNat_lt
  rw [hall, hfresh, List.nil_append] at hwire
  rw [hwire] at hcut ⊢
  refine ⟨hall, ?_, fun hdrain k => ?_, wholeBefore_of_le cut frames⟩
  · exact receiver.recvs_cut frames cut 0 (fun h => absurd rfl h) hcut hcap
  · exact receiver.recvs_cut frames cut k (fun _ => hdrain) hcut hcap

/-- Two frames, the first empty; the stream arrives byte by byte and stops in the second. -/
theorem frames_survive_the_stream_cut :
    let sender : StreamTransport ChunkedStream := .new ⟨[], []⟩
    let receiver : StreamTransport ChunkedStream :=
      .withMaxFrame ⟨[[0], [0, 0], [], [0, 3, 0], [0, 0, 7]], []⟩ 3
    recvs 2 receiver = [.ok [], .error .unexpectedEof] ∧ accepted sender [[], [7, 8, 9]] =
      [[], [7, 8, 9]] := by
  intro sender receiver
  obtain ⟨hacc, hrecv, -⟩ := frames_survive_the_stream sender receiver [[], [7, 8, 9]] 9 rfl
    (by decide) (by decide +kernel)
  exact ⟨hrecv, hacc⟩

/-- Every frame whose sending was reported as done comes out at the other end, in its place
and as it went in, and nothing else does. -/
def Delivers {W R : Type} [ByteStream W] [ByteStream R] (sender : StreamTransport W)
    (receiver : StreamTransport R) (frames : List Bytes) : Prop :=
  recvs ((accepted sender frames).length + 1) receiver =
    (accepted sender frames).map .ok ++ [.error .unexpectedEof]

theorem within_of_recvs {R : Type} [ByteStream R] [Readable R] (t : StreamTransport R)
    (frames : List Bytes) (hfits : ∀ f ∈ frames, f.length < 2 ^ 32)
    (h : unread t.inner = wire frames)
    (hrecv : recvs (frames.length + 1) t = frames.map .ok ++ [.error .unexpectedEof]) :
    ∀ f ∈ frames, f.length ≤ t.maxFrame.toNat := by
  induction frames generalizing t with
  | nil => exact fun f hf => absurd hf List.not_mem_nil
  | cons frame frames ih =>
    have hn : (UInt32.ofNat frame.length).toNat = frame.length :=
      UInt32.toNat_ofNat_of_lt' (hfits frame List.mem_cons_self)
    rw [List.length_cons] at hrecv
    by_cases hle : frame.length ≤ t.maxFrame.toNat
    · obtain ⟨t', hr, hrest, hmax⟩ := t.recv_frame frame (wire frames) h hle
      rw [recvs_succ _ t t' _ hr] at hrecv
      have htail := ih t' (fun f hf => hfits f (List.mem_cons_of_mem frame hf)) hrest
        (List.cons.inj hrecv).2
      intro f hf
      obtain rfl | hf := List.mem_cons.mp hf
      · exact hle
      · exact hmax ▸ htail f hf
    · -- the header alone is enough for the frame to be refused
      rw [wire, prefixed, List.append_assoc] at h
      have hlong : t.maxFrame < UInt32.ofNat frame.length := by
        rw [UInt32.lt_iff_toNat_lt, hn]
        exact Nat.lt_of_not_le hle
      obtain ⟨t', hr, -⟩ := t.recv_too_long _ _ h hlong
      rw [recvs_succ _ t t' _ hr] at hrecv
      cases (List.cons.inj hrecv).1

/-- Two ends with the same cap: what is accepted is delivered if and only if no frame that
can be sent at all is longer than the cap. -/
theorem delivers_iff_within_cap {W R : Type} [ByteStream W] [Writable W] [ByteStream R]
    [Readable R] (maxFrame : UInt32) (w : W) (r : R) (frames : List Bytes)
    (hfresh : written w = [])
    (hconn : unread r = written (final Transport.send (withMaxFrame w maxFrame) frames).inner) :
    Delivers (withMaxFrame w maxFrame) (withMaxFrame r maxFrame) frames ↔
      ∀ f ∈ frames, f.length < 2 ^ 32 → f.length ≤ maxFrame.toNat := by
  obtain ⟨hacc, hwire⟩ := (withMaxFrame w maxFrame).written_sends frames
  have hnone : written (withMaxFrame w maxFrame).inner = [] := hfresh
  rw [hnone, List.nil_append] at hwire
  rw [hwire, hacc] at hconn
  rw [Delivers, hacc]
  constructor
  · intro h f hf hlt
    have hwithin := (withMaxFrame r maxFrame).within_of_recvs (frames.filter fitsHeader)
      (fun f hf => of_decide_eq_true (List.mem_filter.mp hf).2) hconn h
    exact hwithin f (List.mem_filter.mpr ⟨hf, decide_eq_true hlt⟩)
  · intro h
    have hall := wholeBefore_of_le _ (frames.filter fitsHeader) (Nat.le_refl _)
    have hrecv := (withMaxFrame r maxFrame).recvs_cut (frames.filter fitsHeader) _ 0
      (fun h0 => absurd rfl h0) (hconn.trans (List.take_length).symm) (fun f hf => ?_)
    · rwa [hall] at hrecv
    · obtain ⟨hmem, hfits⟩ := List.mem_filter.mp hf
      exact h f hmem (of_decide_eq_true hfits)

/-- With a cap of three, frames of three bytes and of none. -/
theorem delivers_iff_within_cap_three :
    Delivers (withMaxFrame (ChunkedStream.mk [] []) 3)
      (withMaxFrame (ChunkedStream.mk [[3, 0, 0, 0, 7, 8, 9], [0, 0, 0, 0]] []) 3)
      [[7, 8, 9], []] :=
  (delivers_iff_within_cap 3 (ChunkedStream.mk [] [])
    (ChunkedStream.mk [[3, 0, 0, 0, 7, 8, 9], [0, 0, 0, 0]] []) [[7, 8, 9], []] rfl
    (by decide +kernel)).mpr (by decide)

/-- With a cap of eight, a frame of nine bytes is sent all the same. The peer refuses its
header and then takes four bytes from inside it for a frame. -/
theorem oversized_frame_is_sent :
    ¬ ∀ (maxFrame : UInt32) (w r : ChunkedStream) (frames : List Bytes), written w = [] →
      unread r = written (final Transport.send (withMaxFrame w maxFrame) frames).inner →
      Delivers (withMaxFrame w maxFrame) (withMaxFrame r maxFrame) frames := by
  intro h
  have hd := h 8 ⟨[], []⟩ ⟨[[9, 0, 0, 0], [4, 0, 0, 0, 10, 11, 12, 13, 14]], []⟩
    [[4, 0, 0, 0, 10, 11, 12, 13, 14]] rfl (by decide +kernel)
  have hrecv : recvs 2 (withMaxFrame
      (ChunkedStream.mk [[9, 0, 0, 0], [4, 0, 0, 0, 10, 11, 12, 13, 14]] []) 8) =
      [.error .invalidData, .ok [10, 11, 12, 13]] := by decide +kernel
  cases (List.cons.inj (hrecv.symm.trans hd)).1

end StreamTransport
end Graftx
