import Graftx.Client.Conversation
import Graftx.Trace.Recording
import Graftx.Transport.Queues

/-! A client recorded once can be run again without its peer: the frames it received are
scripted from the trace. -/
namespace Graftx.Client
open Graftx.Protocol

variable {T : Type} [Transport T] {α : Type}

def everyOther {β : Type} : List β → List β
  | [] => []
  | [x] => [x]
  | x :: _ :: xs => x :: everyOther xs

def alternating (exchanges : List (Bytes × Bytes)) : List Bytes :=
  exchanges.flatMap fun x => [x.1, x.2]

theorem everyOther_alternating (exchanges : List (Bytes × Bytes)) :
    everyOther (alternating exchanges) = exchanges.map Prod.fst ∧
      everyOther (alternating exchanges).tail = exchanges.map Prod.snd := by
  induction exchanges with
  | nil => exact ⟨rfl, rfl⟩
  | cons x exchanges ih =>
    obtain ⟨hsent, hreceived⟩ := ih
    refine ⟨?_, ?_⟩
    · change x.1 :: everyOther (alternating exchanges) = _
      rw [hsent, List.map_cons]
    · cases exchanges with
      | nil => rfl
      | cons y exchanges =>
        change x.2 :: everyOther (alternating (y :: exchanges)).tail = _
        rw [hreceived]
        rfl

/-- What a recorded conversation adds to its trace. If it is two frames for each request asked,
none of them failed, and the conversation goes the same way over a script of the replies. -/
structure Scripted (c : Conversation α) (t : RecordingTransport T) (frames : List Bytes) :
    Prop where
  recorded : (c.run t).2.trace.frames = t.trace.frames ++ frames
  length_le : frames.length ≤ 2 * c.asks t
  again : frames.length = 2 * c.asks t → ∃ exchanges, frames = alternating exchanges ∧
    ∀ outbox inbox, c.run (VecTransport.mk outbox (exchanges.map Prod.snd ++ inbox)) =
      ((c.run t).1, ⟨outbox ++ exchanges.map Prod.fst, inbox⟩)

theorem exists_scripted (c : Conversation α) (t : RecordingTransport T) :
    ∃ frames, Scripted c t frames := by
  induction c generalizing t with
  | done result =>
    refine ⟨[], (List.append_nil _).symm, Nat.zero_le _, fun _ => ⟨[], rfl, fun outbox inbox => ?_⟩⟩
    simp [Conversation.run]
  | ask frame next ih =>
    rcases hs : Transport.send t.inner frame with ⟨r, inner⟩
    cases r with
    | error e =>
      -- nothing is recorded, and the request counts
      have hround := roundtrip_unsent (t.send_error frame inner e hs)
      obtain ⟨frames, h⟩ := ih (.error e) ⟨inner, t.trace⟩
      have hle := h.length_le
      refine ⟨frames, ?_, ?_, fun hlen => ?_⟩
      · rw [Conversation.run_ask hround, h.recorded]
      · rw [Conversation.asks_ask hround]
        omega
      · rw [Conversation.asks_ask hround] at hlen
        omega
    | ok u =>
      have hsend := t.send_ok frame inner hs
      rcases hr : Transport.recv inner with ⟨r, inner'⟩
      let t' : RecordingTransport T := ⟨inner, t.trace.record frame⟩
      cases r with
      | error e =>
        have hround := (roundtrip_sent hsend).trans (t'.recv_error inner' e hr)
        obtain ⟨frames, h⟩ := ih (.error e) ⟨inner', t'.trace⟩
        have hle := h.length_le
        refine ⟨frame :: frames, ?_, ?_, fun hlen => ?_⟩
        · rw [Conversation.run_ask hround, h.recorded]
          exact List.append_assoc _ _ _
        · rw [Conversation.asks_ask hround, List.length_cons]
          omega
        · rw [Conversation.asks_ask hround, List.length_cons] at hlen
          omega
      | ok reply =>
        have hround := (roundtrip_sent hsend).trans (t'.recv_ok reply inner' hr)
        obtain ⟨frames, h⟩ := ih (.ok reply) ⟨inner', t'.trace.record reply⟩
        have hle := h.length_le
        refine ⟨frame :: reply :: frames, ?_, ?_, fun hlen => ?_⟩
        · rw [Conversation.run_ask hround, h.recorded]
          change t.trace.frames ++ [frame] ++ [reply] ++ frames = _
          rw [List.append_assoc, List.append_assoc]
          rfl
        · rw [Conversation.asks_ask hround, List.length_cons, List.length_cons]
          omega
        · rw [Conversation.asks_ask hround, List.length_cons, List.length_cons] at hlen
          obtain ⟨exchanges, rfl, hagain⟩ := h.again (by omega)
          refine ⟨(frame, reply) :: exchanges, rfl, fun outbox inbox => ?_⟩
          have hstep := VecTransport.roundtrip_scripted outbox
            (exchanges.map Prod.snd ++ inbox) frame reply
          rw [Conversation.run_ask hround]
          refine (Conversation.run_ask hstep).trans ?_
          rw [hagain, List.append_assoc]
          rfl

/-- A client that is recorded and none of whose calls fails: with the replies in the trace for
a script it comes to the same result without its peer, and sends what is in the trace. -/
theorem offline_run (c : Conversation α) (t : T)
    (h : (c.run (RecordingTransport.new t)).2.trace.frames.length =
      2 * c.asks (RecordingTransport.new t)) :
    let (result, recorder) := c.run (RecordingTransport.new t)
    let script := (everyOther recorder.trace.frames.tail).foldl VecTransport.pushInbox .new
    c.run script = (result, ⟨everyOther recorder.trace.frames, []⟩) := by
  obtain ⟨frames, hscripted⟩ := exists_scripted c (RecordingTransport.new t)
  have hrecorded : (c.run (RecordingTransport.new t)).2.trace.frames = frames :=
    hscripted.recorded
  rw [hrecorded] at h
  obtain ⟨exchanges, rfl, hagain⟩ := hscripted.again h
  obtain ⟨hsent, hreceived⟩ := everyOther_alternating exchanges
  have hrun := hagain [] []
  rw [List.append_nil, List.nil_append] at hrun
  simp only [hrecorded, hsent, hreceived, VecTransport.foldl_pushInbox, VecTransport.new,
    List.nil_append, hrun]

def twoNoops : Conversation (Except ClientError Unit) :=
  (asking CoreOp.noop CoreOp.noop [] readAck 2 2).bind fun
    | .error e => .done (.error e)
    | .ok () => asking CoreOp.noop CoreOp.noop [] readAck 3 3

def noopReply (reqId : UInt32) (seq : UInt64) : Bytes :=
  encodeFrame
    { version := protocolMajor, flags := 0, kind := .response, opcode := CoreOp.noop, reqId, seq,
      bodyLen := 0 }
    []

theorem offline_run_queued :
    twoNoops.run (VecTransport.mk [] [noopReply 2 1, noopReply 3 2]) =
      (.ok (), ⟨[requestFrame CoreOp.noop 2 2 [], requestFrame CoreOp.noop 3 3 []], []⟩) :=
  offline_run twoNoops (VecTransport.mk [] [noopReply 2 1, noopReply 3 2]) (by decide +kernel)

end Graftx.Client
