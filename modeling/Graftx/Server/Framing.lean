import Graftx.Server.SessionLaws

/-! Reply framing over whole runs: which request a reply answers and which number it
carries. Errors may come from anywhere between two replies; they use up no number. -/
namespace Graftx.Server
open Graftx.Protocol Graftx.Handles Lib.Machine

def Session.opened (sessionId : UInt64) (backends : List AnyBackend) : Session :=
  backends.foldl Session.register (Session.new sessionId)

theorem Session.foldl_register (s : Session) (backends : List AnyBackend) :
    backends.foldl Session.register s =
      { s with backends := backends.foldl Registry.insert s.backends } := by
  induction backends generalizing s with
  | nil => rfl
  | cons b backends ih => exact ih (s.register b)

theorem Session.register_nextSeq (s : Session) (backends : List AnyBackend) :
    (backends.foldl Session.register s).nextSeq = s.nextSeq := by
  rw [s.foldl_register backends]

def answered (l : List (Bytes × Except ProtocolError Bytes)) : List (Bytes × Bytes) :=
  l.filterMap fun e => e.2.toOption.map fun reply => (e.1, reply)

theorem answered_append (l l' : List (Bytes × Except ProtocolError Bytes)) :
    answered (l ++ l') = answered l ++ answered l' := List.filterMap_append

/-- The opcode a reply carries: `WELCOME` answers `HELLO`, any other opcode is echoed. -/
def replyOpcode (opcode : UInt32) : UInt32 :=
  if opcode = CoreOp.hello then CoreOp.welcome else opcode

/-- `header` and `response` are a well-formed reply to `request` under the number `seq`. -/
structure ReplyTo (request header : FrameHeader) (response : Bytes) (seq : UInt64) : Prop where
  version : header.version = protocolMajor
  flags : header.flags = 0
  kind : header.kind = .response
  reqId : header.reqId = request.reqId
  opcode : header.opcode = replyOpcode request.opcode
  seq : header.seq = seq
  bodyLen : header.bodyLen.toNat = response.length

def Answers (frame reply : Bytes) (seq : UInt64) : Prop :=
  ∃ request body header response, decodeFrame frame = .ok (request, body) ∧
    decodeFrame reply = .ok (header, response) ∧ ReplyTo request header response seq

theorem Session.answers_reply (s : Session) (frame body response : Bytes) (request : FrameHeader)
    (opcode : UInt32) (hd : decodeFrame frame = .ok (request, body))
    (hop : opcode = replyOpcode request.opcode) (hlen : response.length ≤ 20) : Answers frame
      (encodeFrame (s.replyHeader opcode request.reqId response) response) s.nextSeq := by
  refine ⟨request, body, _, response, hd, decodeFrame_encodeFrame _ _, rfl, rfl, rfl, rfl, hop,
    rfl, ?_⟩
  exact UInt32.toNat_ofNat_of_lt' (by rw [UInt32.size]; omega)

theorem Session.handle_counted (s : Session) (frame : Bytes) :
    ((∃ e, (s.handle frame).1 = .error e) ∧ (s.handle frame).2.nextSeq = s.nextSeq) ∨
      ∃ reply, (s.handle frame).1 = .ok reply ∧ Answers frame reply s.nextSeq ∧
        (s.handle frame).2.nextSeq = s.nextSeq + 1 := by
  have hh := s.handled frame
  generalize s.handle frame = a at hh
  cases hh with
  | refused e => exact .inl ⟨⟨e, rfl⟩, rfl⟩
  | welcomed h body hello hf hop hd hv =>
    have h20 : (s.negotiated hello).welcome.encode.length = 20 := by
      simp [Welcome.encode, le16, le32, le64]
    refine .inr ⟨_, rfl, ?_, rfl⟩
    exact (s.negotiated hello).answers_reply frame body _ h _ (framed_ok _ _ _ _ hf).1
      (by rw [replyOpcode, if_pos hop]) (Nat.le_of_eq h20)
  | acknowledged h body hf hop =>
    refine .inr ⟨_, rfl, ?_, rfl⟩
    exact s.answers_reply frame body [] h _ (framed_ok _ _ _ _ hf).1
      (by rw [hop]; decide) (Nat.zero_le _)
  | answered h body backend response hf hhello hn hb hr =>
    have h12 := backend.reply_length_le h.opcode body response hr
    refine .inr ⟨_, rfl, ?_, rfl⟩
    exact (s.register _).answers_reply frame body response h _ (framed_ok _ _ _ _ hf).1
      (by rw [replyOpcode, if_neg hhello]) (by omega)

theorem Session.answers_of_ok (s : Session) (frame reply : Bytes)
    (h : (s.handle frame).1 = .ok reply) : Answers frame reply s.nextSeq := by
  obtain ⟨⟨e, he⟩, -⟩ | ⟨reply', he, ha, -⟩ := s.handle_counted frame
  · rw [h] at he
    cases he
  · rw [h] at he
    cases he
    exact ha

/-- The counter is one ahead of the replies given, and the replies are numbered from one. -/
def Counted (l : List (Bytes × Except ProtocolError Bytes)) (s : Session) : Prop :=
  s.nextSeq = UInt64.ofNat ((answered l).length + 1) ∧
    ∀ k frame reply, (answered l)[k]? = some (frame, reply) →
      Answers frame reply (UInt64.ofNat (k + 1))

theorem Counted.step (l : List (Bytes × Except ProtocolError Bytes)) (s : Session) (frame : Bytes)
    (h : Counted l s) : Counted (l ++ [(frame, (s.handle frame).1)]) (s.handle frame).2 := by
  obtain ⟨hseq, hall⟩ := h
  rw [Counted, answered_append]
  obtain ⟨⟨e, he⟩, hs⟩ | ⟨reply, he, ha, hs⟩ := s.handle_counted frame
  · have hnone : answered [(frame, (s.handle frame).1)] = [] := by
      rw [he]
      rfl
    rw [hnone, List.append_nil, hs]
    exact ⟨hseq, hall⟩
  · have hone : answered [(frame, (s.handle frame).1)] = [(frame, reply)] := by
      rw [he]
      rfl
    rw [hone, hs, hseq, List.length_append]
    refine ⟨(UInt64.ofNat_add _ 1).symm, fun k frame' reply' hk => ?_⟩
    by_cases hlt : k < (answered l).length
    · rw [List.getElem?_append_left hlt] at hk
      exact hall k frame' reply' hk
    · rw [List.getElem?_append_right (Nat.not_lt.mp hlt), List.getElem?_singleton] at hk
      split at hk
      · rename_i h0
        cases hk
        have hk' : k = (answered l).length := by omega
        rwa [hk', ← hseq]
      · cases hk

/-- In every run from a fresh session the n-th reply answers its request under the number
n, and the counter depends on the replies only. -/
theorem nth_reply_framed (sessionId : UInt64) (backends : List AnyBackend) (frames : List Bytes) :
    (∀ n frame reply, 1 ≤ n → n < 2 ^ 64 →
      (answered (log Session.handle (.opened sessionId backends) frames))[n - 1]? =
        some (frame, reply) →
      ∃ seq, Answers frame reply seq ∧ seq.toNat = n) ∧
    (final Session.handle (.opened sessionId backends) frames).nextSeq = UInt64.ofNat
      ((answered (log Session.handle (.opened sessionId backends) frames)).length + 1) := by
  have hstart : Counted [] (.opened sessionId backends) :=
    ⟨Session.register_nextSeq _ backends, fun k _ _ hk => by cases hk⟩
  obtain ⟨hseq, hall⟩ := run_induction (.opened sessionId backends) hstart Counted.step frames
  refine ⟨fun n frame reply h1 hlt hn => ⟨UInt64.ofNat (n - 1 + 1), hall _ _ _ hn, ?_⟩, hseq⟩
  rw [UInt64.toNat_ofNat_of_lt' (by rw [UInt64.size]; omega)]
  omega

end Graftx.Server
