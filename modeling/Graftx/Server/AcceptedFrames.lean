import Graftx.Server.FrameCap

/-! What the frames that a session accepts look like, and what its replies say about the
cap. The header checks, the cap and the negotiation meet here, byte for byte. -/
namespace Graftx.Server
open Graftx.Protocol Lib.Machine

/-- As long as the header declares, of a known kind, and within a cap on the body. -/
structure WellShaped (cap : Nat) (frame : Bytes) : Prop where
  length : frame.length = headerLen + FrameHeader.bodyLenField frame
  kind : FrameHeader.kindField frame ≤ 2
  body_le : FrameHeader.bodyLenField frame ≤ cap

theorem wellShaped_of_framed (cap : UInt32) (frame body : Bytes) (h : FrameHeader)
    (hf : framed cap frame = .ok (h, body)) : WellShaped cap.toNat frame := by
  obtain ⟨hd, hcap, hlen⟩ := framed_ok cap frame body h hf
  rw [decodeFrame] at hd
  split at hd
  · cases hd
  · rename_i hlong
    cases hh : FrameHeader.decode frame with
    | error e => rw [hh] at hd; cases hd
    | ok h' =>
      rw [hh] at hd
      cases hd
      have hfield := FrameHeader.bodyLenField_of_decode frame h hh
      rw [List.length_drop] at hlen
      refine ⟨?_, ?_, ?_⟩
      · omega
      · rw [FrameHeader.kindField_of_decode frame h hh]
        exact h.kind.toU16_le
      · rw [hfield]
        exact UInt32.le_iff_toNat_le.mp hcap

namespace Session

def Reports (reply : Bytes) (cap : UInt32) : Prop :=
  ∃ h body w, decodeFrame reply = .ok (h, body) ∧ h.opcode = CoreOp.welcome ∧
    Welcome.decode body = .ok w ∧ w.maxFrameBody = cap

theorem reports_of_welcome (s : Session) (frame reply body : Bytes) (h : FrameHeader)
    (hr : (s.handle frame).1 = .ok reply) (hd : decodeFrame reply = .ok (h, body))
    (hop : h.opcode = CoreOp.welcome) :
    s.Accepts frame ∧ Reports reply (s.handle frame).2.maxFrameBody := by
  have hacc := s.accepts_iff frame
  have hh := s.handled frame
  generalize s.handle frame = a at hh hr
  cases hh with
  | refused e => cases hr
  | welcomed hq body' hello hf hophello hdec hv =>
    refine ⟨hacc.mpr ⟨hq, body', hello, hf, hophello, hdec, hv⟩, ?_⟩
    cases hr
    exact ⟨_, _, (s.negotiated hello).welcome, decodeFrame_encodeFrame _ _, rfl,
      Welcome.decode_exact.self _ trivial, rfl⟩
  | acknowledged hq body' hf hopnoop =>
    cases hr
    rw [decodeFrame_encodeFrame] at hd
    cases hd
    exact absurd hop (by decide : ¬ CoreOp.noop = CoreOp.welcome)
  | answered hq body' backend response hf hne hnoop hb hresp =>
    cases hr
    rw [decodeFrame_encodeFrame] at hd
    cases hd
    -- a call under the opcode of `WELCOME` would need a core backend
    have hcore : opcodeApi hq.opcode = 0 := by
      change hq.opcode = CoreOp.welcome at hop
      rw [hop]
      decide
    rw [hcore, s.backends.get_core] at hb
    cases hb

/-- What one call does about shapes and caps: an accepted frame is well shaped, only an
accepted `HELLO` moves the cap, to at most what it offers, and every `WELCOME` reports the
cap after it. -/
structure CallLaws (s : Session) (frame : Bytes) : Prop where
  shape : ∀ reply, (s.handle frame).1 = .ok reply → WellShaped s.maxFrameBody.toNat frame
  kept : ¬ s.Accepts frame → (s.handle frame).2.maxFrameBody = s.maxFrameBody
  lowered : ∀ n, s.offer frame = some n → (s.handle frame).2.maxFrameBody ≤ n
  reported : ∀ reply h body, (s.handle frame).1 = .ok reply → decodeFrame reply = .ok (h, body) →
    h.opcode = CoreOp.welcome → Reports reply (s.handle frame).2.maxFrameBody

theorem maxFrameBody_handle (s : Session) (frame : Bytes) :
    (s.handle frame).2.maxFrameBody = capFor s.maxFrameBody (s.offer frame) :=
  s.capAfter_snoc [] frame

theorem offer_eq_none (s : Session) (frame : Bytes) (h : ¬ s.Accepts frame) :
    s.offer frame = none := by
  rw [accepts_iff, opens_iff_offer] at h
  exact Option.eq_none_iff_forall_ne_some.mpr fun n hn => h ⟨n, hn⟩

theorem callLaws (s : Session) (frame : Bytes) : CallLaws s frame where
  shape reply hr := by
    obtain ⟨h, body, hf⟩ := s.framed_of_accepted frame reply hr
    exact wellShaped_of_framed s.maxFrameBody frame body h hf
  kept hnot := by rw [maxFrameBody_handle, s.offer_eq_none frame hnot, capFor]
  lowered n hn := by
    rw [maxFrameBody_handle, hn, capFor]
    exact Std.min_le_left
  reported reply h body hr hd hop := (s.reports_of_welcome frame reply body h hr hd hop).2

theorem capAfter_le_offer (s : Session) (before : List Bytes) (hello : Bytes) (after : List Bytes)
    (n : UInt32) (hn : (final handle s before).offer hello = some n)
    (hquiet : Along (fun mid frame =>
      ¬ (final handle s (before ++ hello :: mid)).Accepts frame) after) :
    s.capAfter (before ++ hello :: after) ≤ n := by
  induction after using List.reverseRecOn with
  | nil =>
    rw [capAfter_snoc, hn, capFor]
    exact Std.min_le_left
  | append_singleton after frame ih =>
    obtain ⟨hquiet, hlast⟩ := (along_snoc _ _).mp hquiet
    have hassoc : before ++ hello :: (after ++ [frame]) = before ++ hello :: after ++ [frame] := by
      simp
    rw [hassoc, capAfter_snoc, offer_eq_none _ frame hlast, capFor]
    exact ih hquiet

/-- In every run each call keeps to the laws, the cap never passes the default, and from an
accepted `HELLO` to the next one it never passes what that `HELLO` offers. -/
theorem accepted_frames (sessionId : UInt64) (backends : List AnyBackend) (frames : List Bytes) :
    let s := opened sessionId backends
    Along (fun before frame => CallLaws (final handle s before) frame) frames ∧
      s.capAfter frames ≤ defaultMaxFrameBody ∧
      ∀ before hello after n, frames = before ++ hello :: after →
        (final handle s before).offer hello = some n →
        Along (fun mid frame => ¬ (final handle s (before ++ hello :: mid)).Accepts frame) after →
        s.capAfter frames ≤ n := by
  intro s
  refine ⟨fun before frame after _ => callLaws _ frame, ?_, ?_⟩
  · exact s.capAfter_le frames (UInt32.le_of_eq (maxFrameBody_opened sessionId backends))
  · rintro before hello after n rfl hn hquiet
    exact s.capAfter_le_offer before hello after n hn hquiet

end Session
end Graftx.Server
