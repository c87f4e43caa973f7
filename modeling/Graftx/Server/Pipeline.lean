import Graftx.Server.Serve
import Graftx.Transport.Loopback

/-! A client and the serve loop at the two ends of a loopback pair, taking steps in any
order. The client may have any number of requests under way. -/
namespace Graftx.Server
open Graftx.Protocol Lib.Machine

inductive Point where
  | receiving
  | replying (reply : Bytes)
  | returned (result : Except IoError Unit)

/-- The two queues, the session with the loop that serves it, and what happened so far: the
frames the client sent, those the session was given, and those the client received. -/
structure Pipeline where
  toServer : List Bytes
  toClient : List Bytes
  clientAlive : Bool
  serverAlive : Bool
  session : Session
  point : Point
  sent : List Bytes
  handled : List Bytes
  received : List Bytes

inductive Act where
  | clientSend (frame : Bytes)
  | clientRecv
  | serverTake
  | serverGive
  | dropClient
  | dropServer

def Act.sending : Act → Option Bytes
  | .clientSend frame => some frame
  | _ => none

namespace Pipeline

def start (s : Session) : Pipeline where
  toServer := []
  toClient := []
  clientAlive := true
  serverAlive := true
  session := s
  point := .receiving
  sent := []
  handled := []
  received := []

def clientEnd (p : Pipeline) : Loopback := ⟨p.toClient, p.toServer, p.serverAlive⟩

def serverEnd (p : Pipeline) : Loopback := ⟨p.toServer, p.toClient, p.clientAlive⟩

def setClientEnd (p : Pipeline) (l : Loopback) : Pipeline :=
  { p with toClient := l.rx, toServer := l.tx }

def setServerEnd (p : Pipeline) (l : Loopback) : Pipeline :=
  { p with toServer := l.rx, toClient := l.tx }

def clientSend (p : Pipeline) (frame : Bytes) : Pipeline :=
  match Transport.send p.clientEnd frame with
  | (.ok (), l) => { p.setClientEnd l with sent := p.sent ++ [frame] }
  | (.error _, l) => p.setClientEnd l

def clientRecv (p : Pipeline) : Pipeline :=
  match Transport.recv p.clientEnd with
  | (.ok frame, l) => { p.setClientEnd l with received := p.received ++ [frame] }
  | (.error _, l) => p.setClientEnd l

def serverTake (p : Pipeline) : Pipeline :=
  let (turn, l, session) := takeIn p.serverEnd p.session
  { p.setServerEnd l with
    session
    handled := p.handled ++ p.toServer.take 1
    point :=
      match turn with
      | .stop result => .returned result
      | .answer reply => .replying reply }

def serverGive (p : Pipeline) (reply : Bytes) : Pipeline :=
  let (result, l) := giveOut p.serverEnd reply
  { p.setServerEnd l with
    point :=
      match result with
      | some result => .returned result
      | none => .receiving }

/-- One step. A step that has to wait, or that nobody is there to take, does nothing. The
server's endpoint is in the hands of the loop until the loop returns. -/
def act (p : Pipeline) : Act → Pipeline
  | .clientSend frame => if p.clientAlive then p.clientSend frame else p
  | .clientRecv => if p.clientAlive ∧ p.clientEnd.Ready then p.clientRecv else p
  | .serverTake =>
    match p.point with
    | .receiving => if p.serverEnd.Ready then p.serverTake else p
    | _ => p
  | .serverGive =>
    match p.point with
    | .replying reply => p.serverGive reply
    | _ => p
  | .dropClient => { p with clientAlive := false }
  | .dropServer =>
    match p.point with
    | .returned _ => { p with serverAlive := false }
    | _ => p

def run (s : Session) (acts : List Act) : Pipeline := acts.foldl act (start s)

theorem clientSend_alive (p : Pipeline) (frame : Bytes) (h : p.serverAlive = true) :
    p.clientSend frame =
      { p with toServer := p.toServer ++ [frame], sent := p.sent ++ [frame] } := by
  rw [clientSend, Loopback.send_alive p.clientEnd frame h]
  rfl

theorem clientSend_dropped (p : Pipeline) (frame : Bytes) (h : p.serverAlive = false) :
    p.clientSend frame = p := by
  rw [clientSend, Loopback.send_dropped p.clientEnd frame h]
  rfl

theorem clientRecv_cons (p : Pipeline) (frame : Bytes) (rest : List Bytes)
    (h : p.toClient = frame :: rest) :
    p.clientRecv = { p with toClient := rest, received := p.received ++ [frame] } := by
  rw [clientRecv, Loopback.recv_cons p.clientEnd frame rest h]
  rfl

theorem clientRecv_nil (p : Pipeline) (h : p.toClient = []) : p.clientRecv = p := by
  rw [clientRecv, Loopback.recv_nil p.clientEnd h]
  rfl

theorem serverTake_nil (p : Pipeline) (h : p.toServer = []) :
    p.serverTake = { p with point := .returned (.ok ()) } := by
  have hnone : p.handled ++ p.toServer.take 1 = p.handled := by
    rw [h, List.take_nil, List.append_nil]
  rw [serverTake, takeIn, Loopback.recv_nil p.serverEnd h, hnone]
  rfl

theorem serverTake_refused (p : Pipeline) (frame : Bytes) (rest : List Bytes) (e : ProtocolError)
    (s' : Session) (h : p.toServer = frame :: rest) (hh : p.session.handle frame = (.error e, s')) :
    p.serverTake =
      { p with
        toServer := rest, session := s', handled := p.handled ++ [frame],
        point := .returned (.ok ()) } := by
  rw [serverTake, takeIn, Loopback.recv_cons p.serverEnd frame rest h]
  simp only [hh]
  rw [h]
  rfl

theorem serverTake_answered (p : Pipeline) (frame : Bytes) (rest : List Bytes) (reply : Bytes)
    (s' : Session) (h : p.toServer = frame :: rest)
    (hh : p.session.handle frame = (.ok reply, s')) :
    p.serverTake =
      { p with
        toServer := rest, session := s', handled := p.handled ++ [frame],
        point := .replying reply } := by
  rw [serverTake, takeIn, Loopback.recv_cons p.serverEnd frame rest h]
  simp only [hh]
  rw [h]
  rfl

theorem serverGive_alive (p : Pipeline) (reply : Bytes) (h : p.clientAlive = true) :
    p.serverGive reply = { p with toClient := p.toClient ++ [reply], point := .receiving } := by
  rw [serverGive, giveOut, Loopback.send_alive p.serverEnd reply h]
  rfl

theorem serverGive_dropped (p : Pipeline) (reply : Bytes) (h : p.clientAlive = false) :
    p.serverGive reply = { p with point := .returned (.error .brokenPipe) } := by
  rw [serverGive, giveOut, Loopback.send_dropped p.serverEnd reply h]
  rfl

def result (p : Pipeline) : Option (Except IoError Unit) :=
  match p.point with
  | .returned result => some result
  | _ => none

/-- Everything a step can do. A step that does nothing has to wait, comes to an endpoint that
is gone, or is not the one that is due. -/
inductive Acted (p : Pipeline) : Act → Pipeline → Prop where
  | idle (a : Act)
      (h : a.sending = none ∨ p.clientAlive = false ∨ p.serverAlive = false) : Acted p a p
  | sent (frame : Bytes) :
      Acted p (.clientSend frame)
        { p with toServer := p.toServer ++ [frame], sent := p.sent ++ [frame] }
  | received (frame : Bytes) (rest : List Bytes) (hq : p.toClient = frame :: rest) :
      Acted p .clientRecv { p with toClient := rest, received := p.received ++ [frame] }
  | closed (hpoint : p.point = .receiving) (hc : p.clientAlive = false) :
      Acted p .serverTake { p with point := .returned (.ok ()) }
  | refused (frame : Bytes) (rest : List Bytes) (e : ProtocolError) (s' : Session)
      (hpoint : p.point = .receiving) (hq : p.toServer = frame :: rest)
      (hh : p.session.handle frame = (.error e, s')) :
      Acted p .serverTake
        { p with
          toServer := rest, session := s', handled := p.handled ++ [frame],
          point := .returned (.ok ()) }
  | took (frame : Bytes) (rest : List Bytes) (reply : Bytes) (s' : Session)
      (hpoint : p.point = .receiving) (hq : p.toServer = frame :: rest)
      (hh : p.session.handle frame = (.ok reply, s')) :
      Acted p .serverTake
        { p with
          toServer := rest, session := s', handled := p.handled ++ [frame],
          point := .replying reply }
  | gave (reply : Bytes) (hpoint : p.point = .replying reply) :
      Acted p .serverGive { p with toClient := p.toClient ++ [reply], point := .receiving }
  | lost (reply : Bytes) (hpoint : p.point = .replying reply) (hc : p.clientAlive = false) :
      Acted p .serverGive { p with point := .returned (.error .brokenPipe) }
  | clientGone : Acted p .dropClient { p with clientAlive := false }
  | serverGone (result : Except IoError Unit) (hpoint : p.point = .returned result) :
      Acted p .dropServer { p with serverAlive := false }

theorem acted_serverTake (p : Pipeline) (hpoint : p.point = .receiving)
    (hready : p.serverEnd.Ready) : Acted p .serverTake p.serverTake := by
  cases hq : p.toServer with
  | nil =>
    have hc : p.clientAlive = false := hready.resolve_left fun hne => hne hq
    rw [p.serverTake_nil hq]
    exact .closed hpoint hc
  | cons frame rest =>
    rcases hh : p.session.handle frame with ⟨a, s'⟩
    cases a with
    | error e =>
      rw [p.serverTake_refused frame rest e s' hq hh]
      exact .refused frame rest e s' hpoint hq hh
    | ok reply =>
      rw [p.serverTake_answered frame rest reply s' hq hh]
      exact .took frame rest reply s' hpoint hq hh

theorem acted (p : Pipeline) (a : Act) : Acted p a (p.act a) := by
  cases a with
  | clientSend frame =>
    simp only [act]
    split
    · by_cases hs : p.serverAlive = true
      · rw [p.clientSend_alive frame hs]
        exact .sent frame
      · have hdrop := Bool.eq_false_iff.mpr hs
        rw [p.clientSend_dropped frame hdrop]
        exact .idle _ (.inr (.inr hdrop))
    · rename_i hc
      exact .idle _ (.inr (.inl (Bool.eq_false_iff.mpr hc)))
  | clientRecv =>
    simp only [act]
    split
    · cases hq : p.toClient with
      | nil =>
        rw [p.clientRecv_nil hq]
        exact .idle _ (.inl rfl)
      | cons frame rest =>
        rw [p.clientRecv_cons frame rest hq]
        exact .received frame rest hq
    · exact .idle _ (.inl rfl)
  | serverTake =>
    simp only [act]
    split
    · rename_i hpoint
      split
      · rename_i hready
        exact p.acted_serverTake hpoint hready
      · exact .idle _ (.inl rfl)
    · exact .idle _ (.inl rfl)
  | serverGive =>
    simp only [act]
    split
    · rename_i reply hpoint
      by_cases hc : p.clientAlive = true
      · rw [p.serverGive_alive reply hc]
        exact .gave reply hpoint
      · have hdrop := Bool.eq_false_iff.mpr hc
        rw [p.serverGive_dropped reply hdrop]
        exact .lost reply hpoint hdrop
    · exact .idle _ (.inl rfl)
  | dropClient => exact .clientGone
  | dropServer =>
    simp only [act]
    split
    · rename_i result hpoint
      exact .serverGone result hpoint
    · exact .idle _ (.inl rfl)

/-- The two steps of the server in a row are a turn of `serve` on its endpoint. -/
theorem turn_eq (p : Pipeline) (hpoint : p.point = .receiving) (hready : p.serverEnd.Ready) :
    let q := (p.act .serverTake).act .serverGive
    serveTurn p.serverEnd p.session = (q.result, q.serverEnd, q.session) := by
  have htake : p.act .serverTake = p.serverTake := by
    simp only [act, hpoint, if_pos hready]
  rw [htake]
  cases hq : p.toServer with
  | nil =>
    rw [p.serverTake_nil hq, serveTurn, takeIn, Loopback.recv_nil p.serverEnd hq]
    rfl
  | cons frame rest =>
    rw [serveTurn, takeIn, Loopback.recv_cons p.serverEnd frame rest hq]
    rcases hh : p.session.handle frame with ⟨a, s'⟩
    cases a with
    | error e =>
      rw [p.serverTake_refused frame rest e s' hq hh]
      simp only [hh]
      rfl
    | ok reply =>
      have hnext := p.serverTake_answered frame rest reply s' hq hh
      have hgive : p.serverTake.act .serverGive = p.serverTake.serverGive reply := by
        rw [hnext]
        rfl
      have hend : p.serverTake.serverEnd = { p.serverEnd with rx := rest } := by
        rw [hnext]
        rfl
      simp only [hh]
      rw [hgive, ← hend]
      by_cases hc : p.serverTake.clientAlive = true
      · rw [serverGive_alive _ reply hc, giveOut, Loopback.send_alive _ reply hc, hnext]
        rfl
      · have hdrop := Bool.eq_false_iff.mpr hc
        rw [serverGive_dropped _ reply hdrop, giveOut, Loopback.send_dropped _ reply hdrop, hnext]
        rfl

def pending (p : Pipeline) : List Bytes :=
  match p.point with
  | .replying reply => [reply]
  | _ => []

/-- Every frame sent is either handled, in order, or still queued; every reply is received,
queued or about to be, again in order, but for one that found the client gone. The loop goes
on only as long as every frame is answered. -/
structure InStep (s : Session) (p : Pipeline) : Prop where
  sent : p.sent = p.handled ++ p.toServer
  session : p.session = final Session.handle s p.handled
  replied : ∃ lost, repliesTo Session.handle s p.handled =
    p.received ++ p.toClient ++ (p.pending ++ lost) ∧
      (lost ≠ [] → p.clientAlive = false ∧ p.result ≠ none)
  going : p.result = none → AllAnswered Session.handle s p.handled
  stopped : ∃ before last, p.handled = before ++ last ∧ AllAnswered Session.handle s before ∧
    last.length ≤ 1

theorem inStep_start (s : Session) : InStep s (start s) where
  sent := rfl
  session := rfl
  replied := ⟨[], rfl, fun h => absurd rfl h⟩
  going _ := allAnswered_nil s
  stopped := ⟨[], [], rfl, allAnswered_nil s, Nat.zero_le 1⟩

namespace InStep
variable {s : Session} {p : Pipeline}

theorem replied_of_running (h : InStep s p) (hr : p.result = none) :
    repliesTo Session.handle s p.handled = p.received ++ p.toClient ++ p.pending := by
  obtain ⟨lost, hreplied, hlost⟩ := h.replied
  have hnone : lost = [] := by
    by_contra hne
    exact (hlost hne).2 hr
  rw [hreplied, hnone, List.append_nil]

theorem replied_of_receiving (h : InStep s p) (hpoint : p.point = .receiving) :
    AllAnswered Session.handle s p.handled ∧
      repliesTo Session.handle s p.handled = p.received ++ p.toClient := by
  have hrun : p.result = none := by rw [result, hpoint]
  have hreplied := h.replied_of_running hrun
  have hpending : p.pending = [] := by rw [pending, hpoint]
  rw [hpending, List.append_nil] at hreplied
  exact ⟨h.going hrun, hreplied⟩

theorem replied_of_replying (h : InStep s p) (reply : Bytes) (hpoint : p.point = .replying reply) :
    AllAnswered Session.handle s p.handled ∧
      repliesTo Session.handle s p.handled = p.received ++ p.toClient ++ [reply] := by
  have hrun : p.result = none := by rw [result, hpoint]
  have hreplied := h.replied_of_running hrun
  have hpending : p.pending = [reply] := by rw [pending, hpoint]
  rw [hpending] at hreplied
  exact ⟨h.going hrun, hreplied⟩

theorem handles (h : InStep s p) (frame : Bytes) (a : Except ProtocolError Bytes) (s' : Session)
    (hh : p.session.handle frame = (a, s')) : s' = final Session.handle s (p.handled ++ [frame]) ∧
      ((final Session.handle s p.handled).handle frame).1 = a := by
  rw [final_snoc, ← h.session, hh]
  exact ⟨rfl, rfl⟩

theorem act (h : InStep s p) (a : Act) : InStep s (p.act a) := by
  have ha := p.acted a
  generalize p.act a = q at ha ⊢
  cases ha with
  | idle _ _ => exact h
  | sent frame =>
    refine ⟨?_, h.session, h.replied, h.going, h.stopped⟩
    rw [h.sent, List.append_assoc]
  | received frame rest hq =>
    obtain ⟨lost, hreplied, hlost⟩ := h.replied
    refine ⟨h.sent, h.session, ⟨lost, ?_, hlost⟩, h.going, h.stopped⟩
    rw [hreplied, hq, List.append_cons]
    rfl
  | closed hpoint hc =>
    obtain ⟨-, hreplied⟩ := h.replied_of_receiving hpoint
    refine ⟨h.sent, h.session, ⟨[], ?_, fun hne => absurd rfl hne⟩, fun hr => ?_, h.stopped⟩
    · rw [hreplied]
      exact (List.append_nil _).symm
    · cases hr
  | refused frame rest e s' hpoint hq hh =>
    obtain ⟨hall, hreplied⟩ := h.replied_of_receiving hpoint
    obtain ⟨hs', hnow⟩ := h.handles frame _ s' hh
    refine ⟨?_, hs', ⟨[], ?_, fun hne => absurd rfl hne⟩, fun hr => ?_,
      p.handled, [frame], rfl, hall, Nat.le_refl 1⟩
    · rw [h.sent, hq, List.append_cons]
    · rw [repliesTo_snoc_error s p.handled frame e hall hnow, hreplied]
      exact (List.append_nil _).symm
    · cases hr
  | took frame rest reply s' hpoint hq hh =>
    obtain ⟨hall, hreplied⟩ := h.replied_of_receiving hpoint
    obtain ⟨hs', hnow⟩ := h.handles frame _ s' hh
    obtain ⟨hnext, hall'⟩ := repliesTo_snoc_ok s p.handled frame reply hall hnow
    refine ⟨?_, hs', ⟨[], ?_, fun hne => absurd rfl hne⟩, fun _ => hall',
      p.handled, [frame], rfl, hall, Nat.le_refl 1⟩
    · rw [h.sent, hq, List.append_cons]
    · rw [hnext, hreplied]
      rfl
  | gave reply hpoint =>
    obtain ⟨hall, hreplied⟩ := h.replied_of_replying reply hpoint
    refine ⟨h.sent, h.session, ⟨[], ?_, fun hne => absurd rfl hne⟩, fun _ => hall, h.stopped⟩
    rw [hreplied, List.append_assoc]
    exact (List.append_nil _).symm
  | lost reply hpoint hc =>
    -- the reply was given, and no one is there to get it
    obtain ⟨-, hreplied⟩ := h.replied_of_replying reply hpoint
    refine ⟨h.sent, h.session, ⟨[reply], hreplied, fun _ => ⟨hc, ?_⟩⟩, fun hr => ?_, h.stopped⟩
    · exact fun hr => by cases hr
    · cases hr
  | clientGone =>
    obtain ⟨lost, hreplied, hlost⟩ := h.replied
    exact ⟨h.sent, h.session, ⟨lost, hreplied, fun hne => ⟨rfl, (hlost hne).2⟩⟩, h.going,
      h.stopped⟩
  | serverGone result hpoint => exact ⟨h.sent, h.session, h.replied, h.going, h.stopped⟩

end InStep

theorem inStep_run (s : Session) (acts : List Act) : InStep s (run s acts) :=
  List.foldlRecOn acts act (inStep_start s) fun _ h a _ => h.act a

/-- What the client got or will get are the first replies to what it sent. -/
theorem InStep.prefix_replies {s : Session} {p : Pipeline} (h : InStep s p) :
    List.IsPrefix (p.received ++ p.toClient) (repliesTo Session.handle s p.handled) := by
  obtain ⟨lost, hreplied, -⟩ := h.replied
  rw [hreplied]
  exact List.prefix_append _ _

theorem InStep.handled_within {s : Session} {p : Pipeline} (h : InStep s p)
    (before after : List Bytes) (frame : Bytes) (e : ProtocolError)
    (hsent : p.sent = before ++ frame :: after)
    (hrefused : ((final Session.handle s before).handle frame).1 = .error e) :
    List.IsPrefix p.handled (before ++ [frame]) := by
  have hhandled : List.IsPrefix p.handled p.sent := ⟨p.toServer, h.sent.symm⟩
  have hfirst : List.IsPrefix (before ++ [frame]) p.sent := ⟨after, by rw [hsent]; simp⟩
  obtain ⟨answered, last, heq, hall, hlast⟩ := h.stopped
  refine List.prefix_of_prefix_length_le hhandled hfirst ?_
  by_contra hlong
  have hans : List.IsPrefix answered p.sent :=
    (heq ▸ List.prefix_append answered last).trans hhandled
  have hlen : (before ++ [frame]).length ≤ answered.length := by
    rw [heq, List.length_append] at hlong
    omega
  obtain ⟨rest, hrest⟩ := List.prefix_of_prefix_length_le hfirst hans hlen
  rw [← hrest] at hall
  have hshort := length_repliesTo_refused s before frame e hrefused
  rw [allAnswered_of_append s _ rest hall, List.length_append] at hshort
  exact absurd hshort (by simp)

/-- In every interleaving the k-th frame received is the reply to the k-th frame sent, given
after the first k frames. What is handled is the beginning of what was sent and the rest is
queued; every reply to it was received, is queued or is about to be sent, unless the client had
gone when the loop ended; and behind a frame the session refuses nothing is handled or answered. -/
theorem pipelined_replies_agree (s : Session) (acts : List Act) :
    let p := run s acts
    (∀ k reply, p.received[k]? = some reply → ∃ frame, p.sent[k]? = some frame ∧
      ((final Session.handle s (p.sent.take k)).handle frame).1 = .ok reply) ∧
    p.sent = p.handled ++ p.toServer ∧ p.session = final Session.handle s p.handled ∧
    (∃ lost, repliesTo Session.handle s p.handled =
      p.received ++ p.toClient ++ (p.pending ++ lost) ∧
        (lost ≠ [] → p.clientAlive = false ∧ p.result ≠ none)) ∧
    ∀ before frame after e, p.sent = before ++ frame :: after →
      ((final Session.handle s before).handle frame).1 = .error e →
      List.IsPrefix p.handled (before ++ [frame]) ∧
        (p.received ++ p.toClient).length ≤ before.length := by
  intro p
  have h := inStep_run s acts
  refine ⟨fun k reply hk => ?_, h.sent, h.session, h.replied,
    fun before frame after e hsent hrefused => ?_⟩
  · have hpre : List.IsPrefix p.received (repliesTo Session.handle s p.sent) := by
      rw [h.sent]
      exact ((List.prefix_append _ _).trans h.prefix_replies).trans (repliesTo_grows s _ _)
    obtain ⟨rest, hrest⟩ := hpre
    refine reply_at s p.sent k reply ?_
    rw [← hrest, List.getElem?_append_left (List.getElem?_eq_some_iff.mp hk).1, hk]
  · have hpre := h.handled_within before after frame e hsent hrefused
    refine ⟨hpre, ?_⟩
    obtain ⟨rest, hrest⟩ := hpre
    have hmore : List.IsPrefix _ (repliesTo Session.handle s (p.handled ++ rest)) :=
      repliesTo_grows s p.handled rest
    rw [hrest] at hmore
    calc (p.received ++ p.toClient).length
        ≤ (repliesTo Session.handle s p.handled).length := h.prefix_replies.length_le
      _ ≤ (repliesTo Session.handle s (before ++ [frame])).length := hmore.length_le
      _ ≤ before.length := length_repliesTo_refused s before frame e hrefused

/-- Two requests under way before the first turn of the loop, and both answered. -/
example :
    let p := run (Session.new 1) [.clientSend (noopFrame 7), .clientSend (noopFrame 8),
      .serverTake, .serverGive, .serverTake, .clientRecv, .serverGive, .clientRecv]
    p.received = repliesTo Session.handle (Session.new 1) [noopFrame 7, noopFrame 8] ∧
      p.received.length = 2 := by
  decide +kernel

end Pipeline
end Graftx.Server
