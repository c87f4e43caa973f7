import Graftx.Server.HandshakeGate

/-! The cap on frame bodies over whole runs. Every accepted `HELLO` sets it anew, to the
smaller of what the client offers and the default, whatever it was before; the replies
are never measured against it. -/
namespace Graftx.Server
open Graftx.Protocol Lib.Machine

namespace Session

/-- The cap a frame proposes, if it is a `HELLO` the session accepts. -/
def offer (s : Session) (frame : Bytes) : Option UInt32 :=
  match framed s.maxFrameBody frame with
  | .error _ => none
  | .ok (h, body) =>
    if h.opcode = CoreOp.hello then
      match Hello.decode body with
      | .error _ => none
      | .ok hello => if hello.protoMajor = protocolMajor then some hello.maxFrameBody else none
    else none

theorem offer_eq_some (s : Session) (frame : Bytes) (n : UInt32) :
    s.offer frame = some n ↔ ∃ h body hello, framed s.maxFrameBody frame = .ok (h, body) ∧
      h.opcode = CoreOp.hello ∧ Hello.decode body = .ok hello ∧ hello.protoMajor = protocolMajor ∧
      hello.maxFrameBody = n := by
  rw [offer]
  cases hf : framed s.maxFrameBody frame with
  | error e => simp
  | ok p =>
    obtain ⟨h, body⟩ := p
    by_cases hop : h.opcode = CoreOp.hello
    · cases hd : Hello.decode body with
      | error e => simp [hop, hd]
      | ok hello =>
        by_cases hv : hello.protoMajor = protocolMajor
        · simp [hop, hd, hv]
        · simp [hop, hd, hv]
    · simp [hop]

theorem opens_iff_offer (s : Session) (frame : Bytes) :
    s.Opens frame ↔ ∃ n, s.offer frame = some n := by
  constructor
  · rintro ⟨h, body, hello, hf, hop, hd, hv⟩
    exact ⟨_, (s.offer_eq_some frame _).mpr ⟨h, body, hello, hf, hop, hd, hv, rfl⟩⟩
  · rintro ⟨n, hn⟩
    obtain ⟨h, body, hello, hf, hop, hd, hv, -⟩ := (s.offer_eq_some frame n).mp hn
    exact ⟨h, body, hello, hf, hop, hd, hv⟩

def BodyWithin (n : Nat) (frame : Bytes) : Prop :=
  ∃ h body, decodeFrame frame = .ok (h, body) ∧ body.length ≤ n

theorem bodyWithin_encodeFrame (n : Nat) (h : FrameHeader) (body : Bytes) :
    BodyWithin n (encodeFrame h body) ↔ body.length ≤ n := by
  constructor
  · rintro ⟨h', body', hd, hlen⟩
    rw [decodeFrame_encodeFrame] at hd
    cases hd
    exact hlen
  · exact fun hlen => ⟨h, body, decodeFrame_encodeFrame h body, hlen⟩

theorem BodyWithin.length_le {n : Nat} {frame : Bytes} (h : BodyWithin n frame) :
    frame.length ≤ headerLen + n := by
  obtain ⟨hd, body, hdec, hlen⟩ := h
  rw [decodeFrame] at hdec
  split at hdec
  · cases hdec
  · cases hh : FrameHeader.decode frame with
    | error e => rw [hh] at hdec; cases hdec
    | ok hd' =>
      rw [hh] at hdec
      cases hdec
      rw [List.length_drop] at hlen
      omega

/-- What a session does with a frame, as far as its cap goes. -/
inductive Capped (s : Session) (frame : Bytes) (a : Answer Session) : Prop where
  | welcomed (n : UInt32) (h : FrameHeader) (body : Bytes) (hn : s.offer frame = some n)
      (hr : a.1 = .ok (encodeFrame h body)) (hlen : body.length = 20)
      (hcap : a.2.maxFrameBody = min n defaultMaxFrameBody) (hshook : a.2.isHandshook)
  | other (hn : s.offer frame = none) (hr : ∀ reply, a.1 = .ok reply → BodyWithin 12 reply)
      (hcap : a.2.maxFrameBody = s.maxFrameBody) (hshook : a.2.isHandshook = s.isHandshook)

theorem capped (s : Session) (frame : Bytes) : Capped s frame (s.handle frame) := by
  have hnone (h : FrameHeader) (body : Bytes) (hf : framed s.maxFrameBody frame = .ok (h, body))
      (hne : h.opcode ≠ CoreOp.hello) : s.offer frame = none := by
    simp [offer, hf, hne]
  have hacc := s.accepts_iff frame
  have hh := s.handled frame
  rw [Accepts] at hacc
  generalize s.handle frame = a at hh hacc
  cases hh with
  | refused e =>
    refine .other ?_ (fun reply hr => by cases hr) rfl rfl
    refine Option.eq_none_iff_forall_ne_some.mpr fun n hn => ?_
    obtain ⟨-, reply, hr⟩ := hacc.mpr ((s.opens_iff_offer frame).mpr ⟨n, hn⟩)
    cases hr
  | welcomed h body hello hf hop hd hv =>
    refine .welcomed hello.maxFrameBody _ _ ?_ rfl ?_ rfl rfl
    · exact (s.offer_eq_some frame _).mpr ⟨h, body, hello, hf, hop, hd, hv, rfl⟩
    · simp [Welcome.encode, le16, le32, le64]
  | acknowledged h body hf hop =>
    refine .other (hnone h body hf (by rw [hop]; decide)) (fun reply hr => ?_) rfl rfl
    cases hr
    exact (bodyWithin_encodeFrame 12 _ _).mpr (Nat.zero_le 12)
  | answered h body backend response hf hhello hnoop hb hr =>
    refine .other (hnone h body hf hhello) (fun reply he => ?_) rfl rfl
    cases he
    exact (bodyWithin_encodeFrame 12 _ _).mpr (backend.reply_length_le h.opcode body response hr)

theorem framed_of_accepted (s : Session) (frame reply : Bytes)
    (hr : (s.handle frame).1 = .ok reply) :
    ∃ h body, framed s.maxFrameBody frame = .ok (h, body) := by
  have hh := s.handled frame
  generalize s.handle frame = a at hh hr
  cases hh with
  | refused e => cases hr
  | welcomed h body hello hf => exact ⟨h, body, hf⟩
  | acknowledged h body hf => exact ⟨h, body, hf⟩
  | answered h body backend response hf => exact ⟨h, body, hf⟩

theorem bodyWithin_of_accepted (s : Session) (frame reply : Bytes)
    (hr : (s.handle frame).1 = .ok reply) : BodyWithin s.maxFrameBody.toNat frame := by
  obtain ⟨h, body, hf⟩ := s.framed_of_accepted frame reply hr
  obtain ⟨hd, hcap, hlen⟩ := framed_ok _ _ _ _ hf
  exact ⟨h, body, hd, hlen ▸ UInt32.le_iff_toNat_le.mp hcap⟩

theorem lengths_of_accepted (s : Session) (frame reply : Bytes)
    (hr : (s.handle frame).1 = .ok reply) : frame.length < 2 ^ 64 ∧ reply.length < 2 ^ 64 := by
  have hframe := (s.bodyWithin_of_accepted frame reply hr).length_le
  have hcap := s.maxFrameBody.toNat_lt
  have hreply : reply.length ≤ headerLen + 20 := by
    have hc := s.capped frame
    generalize s.handle frame = a at hr hc
    cases hc with
    | welcomed n h body hn hr' hlen =>
      obtain rfl : encodeFrame h body = reply := Except.ok.inj (hr'.symm.trans hr)
      exact ((bodyWithin_encodeFrame 20 h body).mpr (Nat.le_of_eq hlen)).length_le
    | other hn hsmall => exact Nat.le_trans (hsmall reply hr).length_le (by decide)
  rw [headerLen] at hframe hreply
  omega

/-- If the handshake is done, the reply is within the cap that is then in force. -/
def ReplyFits (a : Answer Session) : Prop :=
  ∀ reply, a.1 = .ok reply → a.2.isHandshook → BodyWithin a.2.maxFrameBody.toNat reply

def RepliesFit (s : Session) (frames : List Bytes) : Prop :=
  Along (fun before frame => ReplyFits ((final handle s before).handle frame)) frames

/-- Every `HELLO` the session accepts offers room for a `WELCOME`. -/
def OffersRoom (s : Session) (frames : List Bytes) : Prop :=
  Along (fun before frame => ∀ n, (final handle s before).offer frame = some n → 20 ≤ n) frames

theorem room_of_fits (s : Session) (frame : Bytes) (n : UInt32) (hn : s.offer frame = some n)
    (hfit : ReplyFits (s.handle frame)) : 20 ≤ n := by
  have hc := s.capped frame
  generalize s.handle frame = a at hc hfit
  cases hc with
  | welcomed m h body hm hr hlen hcap hshook =>
    obtain rfl : m = n := Option.some.inj (hm.symm.trans hn)
    have hle := (bodyWithin_encodeFrame _ h body).mp (hfit _ hr hshook)
    rw [hlen, hcap] at hle
    exact UInt32.le_trans (UInt32.le_iff_toNat_le.mpr hle) Std.min_le_left
  | other hnone =>
    rw [hn] at hnone
    cases hnone

theorem room_final (s : Session) (frames : List Bytes) (hs : s.isHandshook = false)
    (h : s.OffersRoom frames) (hshook : (final handle s frames).isHandshook) :
    20 ≤ (final handle s frames).maxFrameBody := by
  induction frames using List.reverseRecOn with
  | nil =>
    rw [final, hs] at hshook
    cases hshook
  | append_singleton frames frame ih =>
    obtain ⟨hbefore, hnow⟩ := (along_snoc _ _).mp h
    rw [final_snoc] at hshook ⊢
    have hc := (final handle s frames).capped frame
    generalize (final handle s frames).handle frame = a at hc hshook ⊢
    cases hc with
    | welcomed n _ _ hn _ _ hcap =>
      rw [hcap]
      exact Std.le_min_iff.mpr ⟨hnow n hn, by decide⟩
    | other hn _ hcap hsame =>
      rw [hcap]
      exact ih hbefore (hsame ▸ hshook)

theorem isHandshook_opened (sessionId : UInt64) (backends : List AnyBackend) :
    (opened sessionId backends).isHandshook = false := by
  rw [opened, foldl_register]
  rfl

/-- In every run from a fresh session the replies fit the negotiated cap if and only if no
accepted `HELLO` offers less than the twenty bytes of a `WELCOME` body. -/
theorem replies_fit_iff_offers_room (sessionId : UInt64) (backends : List AnyBackend)
    (frames : List Bytes) :
    (opened sessionId backends).RepliesFit frames ↔
      (opened sessionId backends).OffersRoom frames := by
  have hs := isHandshook_opened sessionId backends
  generalize opened sessionId backends = s at hs
  constructor
  · exact fun h before frame after he n hn => room_of_fits _ frame n hn (h before frame after he)
  · rintro h before frame after rfl
    rw [← List.singleton_append, ← List.append_assoc] at h
    have hroom := s.room_final (before ++ [frame]) hs (along_of_append _ after h)
    rw [final_snoc] at hroom
    have hc := (final handle s before).capped frame
    generalize (final handle s before).handle frame = a at hc hroom ⊢
    intro reply hr hshook
    have hcap := UInt32.le_iff_toNat_le.mp (hroom hshook)
    cases hc with
    | welcomed n hd body hn hr' hlen =>
      obtain rfl : encodeFrame hd body = reply := Except.ok.inj (hr'.symm.trans hr)
      exact (bodyWithin_encodeFrame _ hd body).mpr (hlen ▸ hcap)
    | other hn hsmall =>
      obtain ⟨hd, body, hdec, hlen⟩ := hsmall reply hr
      exact ⟨hd, body, hdec, Nat.le_trans hlen (Nat.le_trans (by decide) hcap)⟩

def helloOffering (n : UInt32) : Bytes :=
  encodeFrame
    { version := protocolMajor, flags := 0, kind := .request, opcode := CoreOp.hello, reqId := 1,
      seq := 1, bodyLen := 12 }
    (Hello.encode
      { protoMajor := protocolMajor, protoMinor := protocolMinor, features := 0, maxFrameBody := n })

/-- A client that asks for bodies of at most eight bytes is welcomed with twenty. -/
theorem welcome_exceeds_the_offer :
    ¬ ∀ (sessionId : UInt64) (backends : List AnyBackend) (frames : List Bytes),
      (opened sessionId backends).RepliesFit frames := by
  intro h
  have hfit := h 1 [] [helloOffering 8] [] (helloOffering 8) [] rfl
  have hroom := room_of_fits (opened 1 []) (helloOffering 8) 8 (by decide +kernel) hfit
  exact absurd hroom (by decide)

def capAfter (s : Session) (frames : List Bytes) : UInt32 := (final handle s frames).maxFrameBody

/-- Along the run the cap stays or goes down. -/
def NeverRises (s : Session) (frames : List Bytes) : Prop :=
  ∀ before mid after, frames = before ++ mid ++ after →
    s.capAfter (before ++ mid) ≤ s.capAfter before

/-- A frame that is accepted is within every cap that was in force so far. -/
def Binds (s : Session) (frames : List Bytes) : Prop :=
  ∀ before mid frame after reply, frames = before ++ mid ++ frame :: after →
    ((final handle s (before ++ mid)).handle frame).1 = .ok reply →
    BodyWithin (s.capAfter before).toNat frame

def capFor (cap : UInt32) : Option UInt32 → UInt32
  | none => cap
  | some n => min n defaultMaxFrameBody

/-- No `HELLO` that is accepted asks for more than the cap in force, the default being the
most there is to ask for. -/
def NoHigherOffer (s : Session) (frames : List Bytes) : Prop :=
  Along (fun before frame =>
    capFor (s.capAfter before) ((final handle s before).offer frame) ≤ s.capAfter before) frames

theorem capAfter_snoc (s : Session) (frames : List Bytes) (frame : Bytes) :
    s.capAfter (frames ++ [frame]) =
      capFor (s.capAfter frames) ((final handle s frames).offer frame) := by
  rw [capAfter, final_snoc]
  have hc := (final handle s frames).capped frame
  generalize (final handle s frames).handle frame = a at hc ⊢
  cases hc with
  | welcomed n _ _ hn _ _ hcap => rw [hn, hcap, capFor]
  | other hn _ hcap => rw [hn, hcap, capFor, capAfter]

theorem capAfter_le (s : Session) (frames : List Bytes)
    (hs : s.maxFrameBody ≤ defaultMaxFrameBody) : s.capAfter frames ≤ defaultMaxFrameBody := by
  induction frames using List.reverseRecOn with
  | nil => exact hs
  | append_singleton frames frame ih =>
    rw [capAfter_snoc]
    cases (final handle s frames).offer frame with
    | none => exact ih
    | some n => exact Std.min_le_right

theorem neverRises_iff (s : Session) (frames : List Bytes) :
    s.NeverRises frames ↔ s.NoHigherOffer frames := by
  constructor
  · rintro h before frame after rfl
    rw [← capAfter_snoc]
    exact h before [frame] after (by simp)
  · rintro h before mid after rfl
    have hmid := along_of_append (before ++ mid) after h
    clear h
    induction mid using List.reverseRecOn with
    | nil =>
      rw [List.append_nil]
      exact UInt32.le_refl _
    | append_singleton mid frame ih =>
      rw [← List.append_assoc] at hmid ⊢
      obtain ⟨hbefore, hnow⟩ := (along_snoc _ _).mp hmid
      rw [capAfter_snoc]
      exact UInt32.le_trans hnow (ih hbefore)

theorem binds_of_neverRises (s : Session) (frames : List Bytes) (h : s.NeverRises frames) :
    s.Binds frames := by
  intro before mid frame after reply he hr
  obtain ⟨hd, body, hdec, hlen⟩ := bodyWithin_of_accepted _ frame reply hr
  have hle := UInt32.le_iff_toNat_le.mp (h before mid (frame :: after) he)
  exact ⟨hd, body, hdec, Nat.le_trans hlen hle⟩

theorem maxFrameBody_opened (sessionId : UInt64) (backends : List AnyBackend) :
    (opened sessionId backends).maxFrameBody = defaultMaxFrameBody := by
  rw [opened, foldl_register]
  rfl

/-- In every run from a fresh session the cap starts at the default, follows the accepted offers
and never passes the default. It never rises, and binds all later frames, if and only if no accepted `HELLO`
offers more than the cap in force. -/
theorem cap_follows_the_offers (sessionId : UInt64) (backends : List AnyBackend)
    (frames : List Bytes) :
    let s := opened sessionId backends
    s.capAfter [] = defaultMaxFrameBody ∧
      Along (fun before frame => s.capAfter (before ++ [frame]) =
        capFor (s.capAfter before) ((final handle s before).offer frame)) frames ∧
      s.capAfter frames ≤ defaultMaxFrameBody ∧
      (s.NeverRises frames ∧ s.Binds frames ↔ s.NoHigherOffer frames) := by
  intro s
  have hopened := maxFrameBody_opened sessionId backends
  refine ⟨hopened, fun before frame after _ => s.capAfter_snoc before frame, ?_, ?_⟩
  · exact s.capAfter_le frames (UInt32.le_of_eq hopened)
  · constructor
    · exact fun h => (s.neverRises_iff frames).mp h.1
    · intro h
      have hnever := (s.neverRises_iff frames).mpr h
      exact ⟨hnever, s.binds_of_neverRises frames hnever⟩

/-- A second `HELLO` takes back the lower cap of the first. -/
theorem second_hello_raises_the_cap :
    ¬ ∀ (sessionId : UInt64) (backends : List AnyBackend) (frames : List Bytes),
      (opened sessionId backends).NeverRises frames ∧
        (opened sessionId backends).Binds frames := by
  intro h
  have hle := (h 1 [] [helloOffering 100, helloOffering 200]).1 [helloOffering 100]
    [helloOffering 200] [] rfl
  exact absurd hle (by decide +kernel)

end Session
end Graftx.Server
