import Graftx.Server.Pipeline

/-! Progress of the pipeline. While no endpoint is dropped and the session refuses nothing, the
server never returns, and as many turns as there are requests answer all of them. -/
namespace Graftx.Server
open Graftx.Protocol Lib.Machine

def Act.stays : Act → Bool
  | .dropClient => false
  | _ => true

namespace Pipeline

/-- In step, with both endpoints in place and the loop running. -/
structure Serving (s : Session) (p : Pipeline) : Prop where
  inStep : InStep s p
  client : p.clientAlive = true
  server : p.serverAlive = true
  running : p.result = none

theorem serving_start (s : Session) : Serving s (start s) := ⟨inStep_start s, rfl, rfl, rfl⟩

namespace Serving
variable {s : Session} {p : Pipeline}

theorem not_refused (h : Serving s p) (hall : AllAnswered Session.handle s p.sent)
    (frame : Bytes) (rest : List Bytes) (e : ProtocolError) (s' : Session)
    (hq : p.toServer = frame :: rest) : p.session.handle frame ≠ (.error e, s') := by
  intro hh
  obtain ⟨-, hrefused⟩ := h.inStep.handles frame _ s' hh
  have hshort := length_repliesTo_refused s p.handled frame e hrefused
  rw [h.inStep.sent, hq, List.append_cons] at hall
  rw [allAnswered_of_append s _ rest hall, List.length_append] at hshort
  exact absurd hshort (by simp)

theorem serverTake (h : Serving s p) (hpoint : p.point = .receiving)
    (hall : AllAnswered Session.handle s p.sent) :
    (p.toServer = [] ∧ p.act .serverTake = p) ∨ ∃ frame rest reply s',
      p.toServer = frame :: rest ∧ p.act .serverTake =
        { p with
          toServer := rest, session := s', handled := p.handled ++ [frame],
          point := .replying reply } := by
  cases hq : p.toServer with
  | nil =>
    have hwait : ¬ p.serverEnd.Ready := by
      intro hready
      exact absurd (h.client.symm.trans (hready.resolve_left fun hne => hne hq)) (by decide)
    refine .inl ⟨rfl, ?_⟩
    simp only [act, hpoint, if_neg hwait]
  | cons frame rest =>
    have hready : p.serverEnd.Ready := .inl (by rw [serverEnd, hq]; exact List.cons_ne_nil _ _)
    have htake : p.act .serverTake = p.serverTake := by
      simp only [act, hpoint, if_pos hready]
    rcases hh : p.session.handle frame with ⟨a, s'⟩
    cases a with
    | error e => exact absurd hh (h.not_refused hall frame rest e s' hq)
    | ok reply =>
      refine .inr ⟨frame, rest, reply, s', rfl, ?_⟩
      rw [htake, p.serverTake_answered frame rest reply s' hq hh]

theorem act (h : Serving s p) (a : Act) (hstays : a.stays)
    (hall : AllAnswered Session.handle s p.sent) :
    Serving s (p.act a) ∧ (p.act a).sent = p.sent ++ a.sending.toList := by
  have hnext := h.inStep.act a
  have ha := p.acted a
  have hnone : p.sent = p.sent ++ (none : Option Bytes).toList := (List.append_nil _).symm
  have hclient : p.clientAlive ≠ false := by simp [h.client]
  generalize p.act a = q at ha hnext ⊢
  cases ha with
  | idle _ hidle =>
    refine ⟨h, ?_⟩
    obtain hsend | hgone | hgone := hidle
    · rw [hsend]
      exact hnone
    · exact absurd hgone hclient
    · exact absurd (h.server.symm.trans hgone) (by decide)
  | sent frame => exact ⟨⟨hnext, h.client, h.server, h.running⟩, rfl⟩
  | received frame rest hq => exact ⟨⟨hnext, h.client, h.server, h.running⟩, hnone⟩
  | closed hpoint hgone => exact absurd hgone hclient
  | refused frame rest e s' hpoint hq hh => exact absurd hh (h.not_refused hall frame rest e s' hq)
  | took frame rest reply s' hpoint hq hh => exact ⟨⟨hnext, h.client, h.server, rfl⟩, hnone⟩
  | gave reply hpoint => exact ⟨⟨hnext, h.client, h.server, rfl⟩, hnone⟩
  | lost reply hpoint hgone => exact absurd hgone hclient
  | clientGone => cases hstays
  | serverGone result hpoint =>
    have hrun := h.running
    rw [Pipeline.result, hpoint] at hrun
    cases hrun

theorem foldl (h : Serving s p) (acts : List Act) (hstays : ∀ a ∈ acts, a.stays)
    (hall : AllAnswered Session.handle s (p.sent ++ acts.filterMap Act.sending)) :
    Serving s (acts.foldl Pipeline.act p) ∧
      (acts.foldl Pipeline.act p).sent = p.sent ++ acts.filterMap Act.sending := by
  induction acts generalizing p with
  | nil => exact ⟨h, (List.append_nil _).symm⟩
  | cons a acts ih =>
    obtain ⟨hnext, hgrown⟩ :=
      h.act a (hstays a List.mem_cons_self) (allAnswered_of_append s _ _ hall)
    have hsplit : p.sent ++ (a :: acts).filterMap Act.sending =
        (p.act a).sent ++ acts.filterMap Act.sending := by
      rw [hgrown, List.append_assoc]
      cases hs : a.sending with
      | none => rw [List.filterMap_cons_none hs, Option.toList_none, List.nil_append]
      | some frame => rw [List.filterMap_cons_some hs]; rfl
    rw [hsplit] at hall ⊢
    exact ih hnext (fun b hb => hstays b (List.mem_cons_of_mem a hb)) hall

end Serving

/-- The requests that have no reply in the client's queue yet. -/
def backlog (p : Pipeline) : Nat := p.toServer.length + p.pending.length

def serverTurns : Nat → List Act
  | 0 => []
  | n + 1 => .serverTake :: .serverGive :: serverTurns n

theorem stays_serverTurns (n : Nat) : ∀ a ∈ serverTurns n, a.stays := by
  induction n with
  | zero => exact fun a ha => absurd ha List.not_mem_nil
  | succ n ih =>
    intro a ha
    rw [serverTurns, List.mem_cons, List.mem_cons] at ha
    obtain rfl | rfl | ha := ha
    · rfl
    · rfl
    · exact ih a ha

theorem sending_serverTurns (n : Nat) : (serverTurns n).filterMap Act.sending = [] := by
  induction n with
  | zero => rfl
  | succ n ih => exact ih

theorem Serving.backlog_turn {s : Session} {p : Pipeline} (h : Serving s p)
    (hall : AllAnswered Session.handle s p.sent) :
    ((p.act .serverTake).act .serverGive).backlog ≤ p.backlog - 1 := by
  cases hpoint : p.point with
  | receiving =>
    have hpending : p.pending = [] := by rw [pending, hpoint]
    obtain ⟨hq, hsame⟩ | ⟨frame, rest, reply, s', hq, htake⟩ := h.serverTake hpoint hall
    · have hgive : p.act .serverGive = p := by simp only [Pipeline.act, hpoint]
      rw [hsame, hgive, backlog, hq, hpending]
      exact Nat.le_refl _
    · have hgive (q : Pipeline) (hqpoint : q.point = .replying reply)
          (hclient : q.clientAlive = true) : (q.act .serverGive).backlog = q.toServer.length := by
        have hact : q.act .serverGive = q.serverGive reply := by simp only [Pipeline.act, hqpoint]
        rw [hact, q.serverGive_alive reply hclient]
        rfl
      rw [hgive _ (by rw [htake]) (by rw [htake]; exact h.client), htake, backlog, hq, hpending]
      exact Nat.le_refl _
  | replying reply =>
    have htake : p.act .serverTake = p := by simp only [Pipeline.act, hpoint]
    have hgive : p.act .serverGive = p.serverGive reply := by simp only [Pipeline.act, hpoint]
    rw [htake, hgive, p.serverGive_alive reply h.client]
    simp only [backlog, pending, hpoint, List.length_nil, List.length_singleton]
    omega
  | returned result =>
    have hrun := h.running
    rw [Pipeline.result, hpoint] at hrun
    cases hrun

theorem Serving.backlog_turns {s : Session} {p : Pipeline} (h : Serving s p) (n : Nat)
    (hall : AllAnswered Session.handle s p.sent) :
    ((serverTurns n).foldl Pipeline.act p).backlog ≤ p.backlog - n := by
  induction n generalizing p with
  | zero => exact Nat.le_refl _
  | succ n ih =>
    obtain ⟨htake, hsent⟩ := h.act .serverTake rfl hall
    rw [Act.sending.eq_def, Option.toList_none, List.append_nil] at hsent
    obtain ⟨hgive, hsent'⟩ := htake.act .serverGive rfl (hsent ▸ hall)
    rw [Act.sending.eq_def, Option.toList_none, List.append_nil, hsent] at hsent'
    have hturn := h.backlog_turn hall
    have hrest := ih hgive (hsent' ▸ hall)
    rw [serverTurns, List.foldl_cons, List.foldl_cons]
    omega

theorem Serving.backlog_le {s : Session} {p : Pipeline} (h : Serving s p) :
    p.backlog ≤ p.sent.length := by
  have hreplied := congrArg List.length (h.inStep.replied_of_running h.running)
  have hle : (repliesTo Session.handle s p.handled).length ≤ p.handled.length :=
    length_repliesTo_le s p.handled
  rw [h.inStep.sent, backlog, List.length_append]
  rw [hreplied, List.length_append] at hle
  omega

theorem all_answered (s : Session) (acts : List Act) (hstays : ∀ a ∈ acts, a.stays)
    (hall : AllAnswered Session.handle s (acts.filterMap Act.sending)) :
    let p := run s (acts ++ serverTurns (acts.filterMap Act.sending).length)
    p.sent = acts.filterMap Act.sending ∧ p.handled = p.sent ∧
      p.received ++ p.toClient = repliesTo Session.handle s p.sent := by
  intro p
  obtain ⟨hserving, hsent⟩ : Serving s (run s acts) ∧
      (run s acts).sent = acts.filterMap Act.sending := (serving_start s).foldl acts hstays hall
  obtain ⟨hdone, hsent'⟩ := hserving.foldl (serverTurns (acts.filterMap Act.sending).length)
    (stays_serverTurns _) (by rwa [sending_serverTurns, List.append_nil, hsent])
  have hbacklog := hserving.backlog_turns (acts.filterMap Act.sending).length (hsent ▸ hall)
  have hle := hserving.backlog_le
  have hp : (serverTurns (acts.filterMap Act.sending).length).foldl Pipeline.act (run s acts) = p :=
    (List.foldl_append ..).symm
  rw [hp] at hdone hsent' hbacklog
  rw [sending_serverTurns, List.append_nil, hsent] at hsent'
  rw [hsent] at hle
  have hempty : p.toServer.length + p.pending.length = 0 := by
    rw [backlog] at hbacklog
    omega
  have hqueue : p.toServer = [] := List.eq_nil_of_length_eq_zero (by omega)
  have hpending : p.pending = [] := List.eq_nil_of_length_eq_zero (by omega)
  have hhandled : p.handled = p.sent := by rw [hdone.inStep.sent, hqueue, List.append_nil]
  refine ⟨hsent', hhandled, ?_⟩
  rw [← hhandled, hdone.inStep.replied_of_running hdone.running, hpending, List.append_nil]

end Pipeline
end Graftx.Server
