import Graftx.Lib.Interleaving
import Graftx.Server.Draining
import Graftx.Server.Framing
import Graftx.Trace.Recording

/-! What a trace is good for: recorded at the client's end of a served session, it makes a
fresh session give the same replies again. -/
namespace Graftx.Server
open Graftx.Protocol Lib Lib.Machine

/-- A pipeline whose client holds its endpoint through a recording transport. -/
structure Recorded where
  pipeline : Pipeline
  trace : FrameTrace

namespace Recorded

def start (s : Session) : Recorded := ⟨.start s, .new⟩

def recorder (r : Recorded) : RecordingTransport Loopback := ⟨r.pipeline.clientEnd, r.trace⟩

def clientSend (r : Recorded) (frame : Bytes) : Recorded :=
  match Transport.send r.recorder frame with
  | (.ok (), t) =>
    ⟨{ r.pipeline.setClientEnd t.inner with sent := r.pipeline.sent ++ [frame] }, t.trace⟩
  | (.error _, t) => ⟨r.pipeline.setClientEnd t.inner, t.trace⟩

def clientRecv (r : Recorded) : Recorded :=
  match Transport.recv r.recorder with
  | (.ok frame, t) =>
    ⟨{ r.pipeline.setClientEnd t.inner with received := r.pipeline.received ++ [frame] }, t.trace⟩
  | (.error _, t) => ⟨r.pipeline.setClientEnd t.inner, t.trace⟩

def act (r : Recorded) : Act → Recorded
  | .clientSend frame => if r.pipeline.clientAlive then r.clientSend frame else r
  | .clientRecv =>
    if r.pipeline.clientAlive ∧ r.pipeline.clientEnd.Ready then r.clientRecv else r
  | a => { r with pipeline := r.pipeline.act a }

def run (s : Session) (acts : List Act) : Recorded := acts.foldl act (start s)

/-- What is in the trace is what was sent and what was received, as it came. -/
def Captured (r : Recorded) : Prop :=
  Interleaves r.trace.frames r.pipeline.sent r.pipeline.received

theorem captured_start (s : Session) : (start s).Captured := .nil

theorem clientSend_captured (r : Recorded) (frame : Bytes) (h : r.Captured) :
    (r.clientSend frame).pipeline = r.pipeline.clientSend frame ∧
      (r.clientSend frame).Captured := by
  by_cases hs : r.pipeline.serverAlive = true
  · have hsend := Loopback.send_alive r.pipeline.clientEnd frame hs
    have hrec : Transport.send r.recorder frame = _ := r.recorder.send_ok frame _ hsend
    rw [clientSend, hrec, r.pipeline.clientSend_alive frame hs]
    exact ⟨rfl, h.left frame⟩
  · have hsend := Loopback.send_dropped r.pipeline.clientEnd frame (Bool.eq_false_iff.mpr hs)
    have hrec : Transport.send r.recorder frame = _ := r.recorder.send_error frame _ _ hsend
    rw [clientSend, hrec, r.pipeline.clientSend_dropped frame (Bool.eq_false_iff.mpr hs)]
    exact ⟨rfl, h⟩

theorem clientRecv_captured (r : Recorded) (h : r.Captured) :
    r.clientRecv.pipeline = r.pipeline.clientRecv ∧ r.clientRecv.Captured := by
  cases hq : r.pipeline.toClient with
  | nil =>
    have hrecv := Loopback.recv_nil r.pipeline.clientEnd hq
    have hrec : Transport.recv r.recorder = _ := r.recorder.recv_error _ _ hrecv
    rw [clientRecv, hrec, r.pipeline.clientRecv_nil hq]
    exact ⟨rfl, h⟩
  | cons frame rest =>
    have hrecv := Loopback.recv_cons r.pipeline.clientEnd frame rest hq
    have hrec : Transport.recv r.recorder = _ := r.recorder.recv_ok _ _ hrecv
    rw [clientRecv, hrec, r.pipeline.clientRecv_cons frame rest hq]
    exact ⟨rfl, h.right frame⟩

theorem captured_of_acted (r : Recorded) (a : Act) (q : Pipeline) (h : r.Captured)
    (ha : r.pipeline.Acted a q) (hsend : a.sending = none) (hrecv : a ≠ .clientRecv) :
    Captured { r with pipeline := q } := by
  cases ha with
  | sent frame => cases hsend
  | received frame rest hq => exact absurd rfl hrecv
  | _ => exact h

theorem act_captured (r : Recorded) (a : Act) (h : r.Captured) :
    (r.act a).pipeline = r.pipeline.act a ∧ (r.act a).Captured := by
  have hother := r.captured_of_acted a _ h (r.pipeline.acted a)
  cases a with
  | clientSend frame =>
    simp only [act, Pipeline.act]
    split
    · exact r.clientSend_captured frame h
    · exact ⟨rfl, h⟩
  | clientRecv =>
    simp only [act, Pipeline.act]
    split
    · exact r.clientRecv_captured h
    · exact ⟨rfl, h⟩
  | serverTake => exact ⟨rfl, hother rfl fun he => by cases he⟩
  | serverGive => exact ⟨rfl, hother rfl fun he => by cases he⟩
  | dropClient => exact ⟨rfl, hother rfl fun he => by cases he⟩
  | dropServer => exact ⟨rfl, hother rfl fun he => by cases he⟩

theorem run_captured (s : Session) (acts : List Act) :
    (run s acts).pipeline = Pipeline.run s acts ∧ (run s acts).Captured := by
  induction acts using List.reverseRecOn with
  | nil => exact ⟨rfl, captured_start s⟩
  | append_singleton acts a ih =>
    obtain ⟨hpipeline, hcaptured⟩ := ih
    obtain ⟨hact, hnext⟩ := (run s acts).act_captured a hcaptured
    have hrun : run s (acts ++ [a]) = (run s acts).act a := List.foldl_append ..
    have hplain : Pipeline.run s (acts ++ [a]) = (Pipeline.run s acts).act a :=
      List.foldl_append ..
    rw [hrun, hplain, ← hpipeline]
    exact ⟨hact, hnext⟩

end Recorded

theorem Session.reply_not_request (s : Session) (frame reply : Bytes)
    (h : (s.handle frame).1 = .ok reply) : isRequest reply = false := by
  obtain ⟨_, _, header, response, -, hd, hreply⟩ := s.answers_of_ok frame reply h
  rw [isRequest, hd]
  simp [hreply.kind]

theorem Recorded.requests_eq (s : Session) (acts : List Act)
    (hrequests : ∀ frame ∈ (run s acts).pipeline.sent, isRequest frame) :
    (run s acts).trace.frames.filter isRequest = (run s acts).pipeline.sent := by
  obtain ⟨hpipeline, hcaptured⟩ := run_captured s acts
  refine hcaptured.filter_eq isRequest hrequests fun reply hreply => ?_
  have hmem : reply ∈ repliesTo Session.handle s (Pipeline.run s acts).handled := by
    rw [hpipeline] at hreply
    exact (Pipeline.inStep_run s acts).prefix_replies.subset (List.mem_append_left _ hreply)
  exact forall_mem_repliesTo (fun s' frame a => s'.reply_not_request frame a) s _ reply hmem

def Act.attends : Act → Bool
  | .clientSend _ => false
  | .dropClient => false
  | _ => true

theorem Act.stays_of_attends (a : Act) (h : a.attends) : a.stays := by
  cases a with
  | dropClient => cases h
  | clientSend frame => rfl
  | clientRecv => rfl
  | serverTake => rfl
  | serverGive => rfl
  | dropServer => rfl

theorem Act.sending_of_attends (acts : List Act) (h : ∀ a ∈ acts, a.attends) :
    acts.filterMap Act.sending = [] := by
  refine List.filterMap_eq_nil_iff.mpr fun a ha => ?_
  cases a with
  | clientSend frame => cases h _ ha
  | clientRecv => rfl
  | serverTake => rfl
  | serverGive => rfl
  | dropClient => rfl
  | dropServer => rfl

/-- The client's end of a pipeline in the hands of one call. Before each frame it sends or
receives, the others take the next steps of the schedule. -/
structure Attended where
  pipeline : Pipeline
  schedule : List (List Act)

namespace Attended

def met (w : Attended) : Pipeline := (w.schedule.headD []).foldl Pipeline.act w.pipeline

instance : Transport Attended where
  send w frame :=
    ((Transport.send w.met.clientEnd frame).1, ⟨w.met.act (.clientSend frame), w.schedule.tail⟩)
  recv w := ((Transport.recv w.met.clientEnd).1, ⟨w.met.act .clientRecv, w.schedule.tail⟩)

theorem send_alive (w : Attended) (frame : Bytes) (h : w.met.serverAlive = true) :
    Transport.send w frame = (.ok (), ⟨w.met.act (.clientSend frame), w.schedule.tail⟩) := by
  have hsend := Loopback.send_alive w.met.clientEnd frame h
  simp only [Transport.send] at hsend ⊢
  rw [hsend]

theorem sendAll_run {s : Session} {p : Pipeline} (h : Pipeline.Serving s p)
    (schedule : List (List Act)) (frames : List Bytes)
    (hschedule : ∀ a ∈ schedule.flatten, a.attends)
    (hall : AllAnswered Session.handle s (p.sent ++ frames)) :
    ∃ (acts : List Act) (rest : List (List Act)),
      sendAll (⟨p, schedule⟩ : Attended) frames = (.ok (), ⟨acts.foldl Pipeline.act p, rest⟩) ∧
      acts.filterMap Act.sending = frames ∧ ∀ a ∈ acts, a.stays := by
  induction frames generalizing p schedule with
  | nil => exact ⟨[], schedule, rfl, rfl, fun a ha => absurd ha List.not_mem_nil⟩
  | cons frame frames ih =>
    obtain ⟨hturn, htail⟩ : (∀ a ∈ schedule.headD [], a.attends) ∧
        ∀ a ∈ schedule.tail.flatten, a.attends := by
      cases schedule with
      | nil => exact ⟨fun a ha => absurd ha List.not_mem_nil, hschedule⟩
      | cons turn schedule => exact List.forall_mem_append.mp hschedule
    have hquiet := Act.sending_of_attends _ hturn
    -- the others step, then the frame is sent, and the session still serves
    obtain ⟨hmet, hsent⟩ := h.foldl (schedule.headD [])
      (fun a ha => a.stays_of_attends (hturn a ha))
      (by rw [hquiet, List.append_nil]; exact allAnswered_of_append s _ _ hall)
    rw [hquiet, List.append_nil] at hsent
    obtain ⟨hnext, hgrown⟩ := hmet.act (.clientSend frame) rfl
      (by rw [hsent]; exact allAnswered_of_append s _ _ hall)
    rw [hsent] at hgrown
    have hsend := send_alive ⟨p, schedule⟩ frame hmet.server
    obtain ⟨acts, rest, hrest, hframes, hstays⟩ := ih hnext schedule.tail htail
      (by rw [hgrown, Act.sending, Option.toList_some, List.append_assoc]; exact hall)
    refine ⟨schedule.headD [] ++ .clientSend frame :: acts, rest, ?_, ?_, fun a ha => ?_⟩
    · rw [sendAll_cons_ok _ _ _ _ hsend, met, hrest, List.foldl_append, List.foldl_cons]
    · have hone : (Act.clientSend frame).sending = some frame := rfl
      rw [List.filterMap_append, hquiet, List.filterMap_cons_some hone, hframes, List.nil_append]
    · obtain ha | ha := List.mem_append.mp ha
      · exact a.stays_of_attends (hturn a ha)
      · obtain rfl | ha := List.mem_cons.mp ha
        · rfl
        · exact hstays a ha

end Attended

def Session.fresh (sessionId : UInt64) (kinds : List BackendKind) : Session :=
  .opened sessionId (kinds.map BackendKind.new)

/-- Of a recording in which the client sends requests and every one is accepted, replay sends
those requests and nothing else, and a session made like the first answers every one of them
with the replies of the first. The steps of both servers may fall anywhere. -/
theorem replay_repeats_recording (sessionId : UInt64) (kinds : List BackendKind)
    (acts : List Act) (schedule : List (List Act)) (after : List Act)
    (hrequests : ∀ frame ∈ (Recorded.run (.fresh sessionId kinds) acts).pipeline.sent,
      isRequest frame)
    (haccepted : AllAnswered Session.handle (.fresh sessionId kinds)
      (Recorded.run (.fresh sessionId kinds) acts).pipeline.sent)
    (hschedule : ∀ a ∈ schedule.flatten, a.attends) (hafter : ∀ a ∈ after, a.attends) :
    let recorded := Recorded.run (.fresh sessionId kinds) acts
    ∃ world : Attended,
      replay (⟨.start (.fresh sessionId kinds), schedule⟩ : Attended) recorded.trace =
        (.ok (), world) ∧
      let p := (after ++ Pipeline.serverTurns recorded.pipeline.sent.length).foldl Pipeline.act
        world.pipeline
      p.sent = recorded.pipeline.sent ∧ p.handled = p.sent ∧
        (p.received ++ p.toClient).length = p.sent.length ∧
        List.IsPrefix recorded.pipeline.received (p.received ++ p.toClient) ∧
        (recorded.pipeline.received.length = recorded.pipeline.sent.length →
          p.received ++ p.toClient = recorded.pipeline.received) := by
  intro recorded
  obtain ⟨sends, rest, hsends, hframes, hstays⟩ := Attended.sendAll_run
    (Pipeline.serving_start (.fresh sessionId kinds)) schedule recorded.pipeline.sent hschedule
    haccepted
  refine ⟨_, by rw [replay_eq, Recorded.requests_eq _ acts hrequests]; exact hsends, ?_⟩
  intro p
  have hsending : (sends ++ after).filterMap Act.sending = recorded.pipeline.sent := by
    rw [List.filterMap_append, hframes, Act.sending_of_attends after hafter, List.append_nil]
  have hall : ∀ a ∈ sends ++ after, a.stays :=
    List.forall_mem_append.mpr ⟨hstays, fun a ha => a.stays_of_attends (hafter a ha)⟩
  have hp : Pipeline.run (.fresh sessionId kinds)
      (sends ++ after ++ Pipeline.serverTurns recorded.pipeline.sent.length) = p := by
    rw [Pipeline.run, List.append_assoc, List.foldl_append]
  have hdone := Pipeline.all_answered (.fresh sessionId kinds) (sends ++ after) hall
    (hsending ▸ haccepted)
  rw [hsending, hp] at hdone
  obtain ⟨hsent, hhandled, hreplies⟩ := hdone
  have hlength : (p.received ++ p.toClient).length = p.sent.length := by
    rw [hreplies, hsent]
    exact haccepted
  have hpre : List.IsPrefix recorded.pipeline.received (p.received ++ p.toClient) := by
    obtain ⟨hpipeline, -⟩ := Recorded.run_captured (.fresh sessionId kinds) acts
    have h := Pipeline.inStep_run (.fresh sessionId kinds) acts
    rw [← hpipeline] at h
    rw [hreplies, hsent, h.sent]
    exact ((List.prefix_append _ _).trans h.prefix_replies).trans (repliesTo_grows _ _ _)
  refine ⟨hsent, hhandled, hlength, hpre, fun hcomplete => ?_⟩
  exact (hpre.eq_of_length (by rw [hcomplete, hlength, hsent])).symm

/-- A `NOOP` and a CUDA request; the client has the first reply when the recording ends. -/
theorem replay_repeats_recording_cuda :
    let frame (opcode reqId : UInt32) (body : Bytes) := encodeFrame
      { version := protocolMajor, flags := 0, kind := .request, opcode, reqId, seq := 1,
        bodyLen := UInt32.ofNat body.length } body
    let noop := frame CoreOp.noop 1 []
    let ctx := frame CudaOp.ctxCreate 2 (Cuda.CtxCreateRequest.mk 0).encode
    let recorded := Recorded.run (.fresh 1 [.cuda])
      [.clientSend noop, .serverTake, .clientSend ctx, .serverGive, .clientRecv, .serverTake]
    recorded.trace.frames.length = 3 ∧ ∃ world : Attended,
      replay (⟨.start (.fresh 1 [.cuda]), [[], [.serverTake]]⟩ : Attended) recorded.trace =
        (.ok (), world) ∧
      let p := ([Act.clientRecv] ++ Pipeline.serverTurns recorded.pipeline.sent.length).foldl
        Pipeline.act world.pipeline
      p.handled = [noop, ctx] ∧
        List.IsPrefix recorded.pipeline.received (p.received ++ p.toClient) := by
  intro frame noop ctx recorded
  have hnoop : recorded.pipeline.sent = [noop, ctx] := by decide +kernel
  have hlen : recorded.trace.frames.length = 3 := by decide +kernel
  have hrequests : ∀ frame ∈ recorded.pipeline.sent, isRequest frame := by decide +kernel
  have haccepted : AllAnswered Session.handle (.fresh 1 [.cuda]) recorded.pipeline.sent := by
    decide +kernel
  obtain ⟨world, hreplay, hsent, hhandled, -, hpre, -⟩ :=
    replay_repeats_recording 1 [.cuda] _ [[], [.serverTake]] [.clientRecv] hrequests haccepted
      (by decide) (by decide)
  exact ⟨hlen, world, hreplay, hhandled.trans (hsent.trans hnoop), hpre⟩

end Graftx.Server
