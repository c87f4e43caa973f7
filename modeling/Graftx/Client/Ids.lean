import Graftx.Client.OverSession
import Graftx.Lib.Saturation
import Graftx.Obs.Registry
import Graftx.Transport.Traced
import Mathlib.Data.List.Nodup

/-! The session wrapper and the numbers it puts on its frames. Both counters stop at their
largest value, so the numbers never go down, and from some frame on they repeat. -/
namespace Graftx.Client
open Graftx.Protocol Graftx.Server Lib.Machine Lib.Saturation

-- The source has a type of the name of its crate.
set_option linter.dupNamespace false

structure Client (T : Type) where
  transport : T
  nextReqId : UInt32
  nextSeq : UInt64
  sessionId : UInt64

inductive ClientCall where
  | noop
  | vkCreateInstance (appApiVersion : UInt32)
  | vkEnumeratePhysicalDevices (inst : Handle)

inductive Returned where
  | done
  | handle (h : Handle)
  | handles (hs : List Handle)

namespace Client
variable {T : Type} [Transport T]

/-- The handshake uses one for both numbers, so the counters start at two. -/
def connect (transport : T) : Except ClientError (Client T) :=
  match Call.run handshake transport with
  | (.ok welcome, transport) =>
    .ok { transport, nextReqId := 2, nextSeq := 2, sessionId := welcome.sessionId }
  | (.error e, _) => .error e

def nextIds (c : Client T) : (UInt32 × UInt64) × Client T :=
  ((c.nextReqId, c.nextSeq),
    { c with
      nextReqId := saturatingSucc c.nextReqId
      nextSeq := Obs.saturatingAdd c.nextSeq 1 })

/-- Every request method draws its pair of numbers and runs its shim under them. -/
def issue {α : Type} (c : Client T) (shim : UInt32 → UInt64 → Call T α) :
    Except ClientError α × Client T :=
  let ((reqId, seq), c) := c.nextIds
  let (result, transport) := (shim reqId seq).run c.transport
  (result, { c with transport })

def noop (c : Client T) : Except ClientError Unit × Client T :=
  c.issue Graftx.Client.noop

def vkCreateInstance (c : Client T) (appApiVersion : UInt32) :
    Except ClientError Handle × Client T :=
  c.issue (Vk.createInstance appApiVersion)

def vkEnumeratePhysicalDevices (c : Client T) (inst : Handle) :
    Except ClientError (List Handle) × Client T :=
  c.issue (Vk.enumeratePhysicalDevices inst)

def perform (c : Client T) : ClientCall → Except ClientError Returned × Client T
  | .noop =>
    let (r, c) := c.noop
    (r.map fun _ => .done, c)
  | .vkCreateInstance appApiVersion =>
    let (r, c) := c.vkCreateInstance appApiVersion
    (r.map .handle, c)
  | .vkEnumeratePhysicalDevices inst =>
    let (r, c) := c.vkEnumeratePhysicalDevices inst
    (r.map .handles, c)

theorem perform_noop (c : Client T) : (c.perform .noop).1 =
    ((Graftx.Client.noop c.nextReqId c.nextSeq).run c.transport).1.map fun _ => .done := rfl

end Client

section Numbering
variable {T : Type}

def frameIds (frame : Bytes) : Option (UInt32 × UInt64) :=
  match decodeFrame frame with
  | .ok (h, _) => some (h.reqId, h.seq)
  | .error _ => none

theorem frameIds_requestFrame (opcode reqId : UInt32) (seq : UInt64) (body : Bytes) :
    frameIds (requestFrame opcode reqId seq body) = some (reqId, seq) := by
  rw [frameIds, requestFrame, decodeFrame_encodeFrame]
  rfl

def sentIds (t : Traced T) : List (UInt32 × UInt64) := t.sends.filterMap fun s => frameIds s.1

def idsAt (n : Nat) : UInt32 × UInt64 :=
  (UInt32.ofNat (min (2 ^ 32 - 1) (n + 1)), UInt64.ofNat (min (2 ^ 64 - 1) (n + 1)))

theorem idsAt_toNat (n : Nat) : (idsAt n).1.toNat = min (2 ^ 32 - 1) (n + 1) ∧
    (idsAt n).2.toNat = min (2 ^ 64 - 1) (n + 1) :=
  ⟨UInt32.toNat_ofNat_of_lt' (by rw [UInt32.size]; omega),
    UInt64.toNat_ofNat_of_lt' (by rw [UInt64.size]; omega)⟩

/-- After `n` frames, each had its pair of numbers and the next pair is ready. -/
structure Numbered (c : Client (Traced T)) (n : Nat) : Prop where
  count : c.transport.sends.length = n
  sent : sentIds c.transport = (List.range n).map idsAt
  next : (c.nextReqId, c.nextSeq) = idsAt n

/-- One frame goes out under the pair that was ready, and the pair after it is ready. -/
structure Issues (c c' : Client (Traced T)) : Prop where
  sends : ∃ opcode body r, c'.transport.sends =
    c.transport.sends ++ [(requestFrame opcode c.nextReqId c.nextSeq body, r)]
  nextReqId : c'.nextReqId = saturatingSucc c.nextReqId
  nextSeq : c'.nextSeq = Obs.saturatingAdd c.nextSeq 1

theorem idsAt_succ (n : Nat) : idsAt (n + 1) =
    (saturatingSucc (idsAt n).1, Obs.saturatingAdd (idsAt n).2 1) := by
  obtain ⟨hr, hs⟩ := idsAt_toNat n
  obtain ⟨hr', hs'⟩ := idsAt_toNat (n + 1)
  have hreq : (idsAt (n + 1)).1 = saturatingSucc (idsAt n).1 := by
    rw [← UInt32.toNat_inj, toNat_saturatingSucc, hr, hr']
    omega
  have hseq : (idsAt (n + 1)).2 = Obs.saturatingAdd (idsAt n).2 1 := by
    rw [← UInt64.toNat_inj, Obs.toNat_saturatingAdd, hs, hs', UInt64.toNat_one]
    omega
  rw [← hreq, ← hseq]

theorem Numbered.step {c c' : Client (Traced T)} {n : Nat} (h : Numbered c n) (hi : Issues c c') :
    Numbered c' (n + 1) := by
  obtain ⟨opcode, body, r, hsends⟩ := hi.sends
  refine ⟨?_, ?_, ?_⟩
  · rw [hsends, List.length_append, h.count]
    rfl
  · have hone : [(requestFrame opcode c.nextReqId c.nextSeq body, r)].filterMap
        (fun s => frameIds s.1) = [idsAt n] := by
      simp [frameIds_requestFrame, h.next]
    have hsent := h.sent
    rw [sentIds] at hsent ⊢
    rw [hsends, List.filterMap_append, hone, hsent, List.range_succ, List.map_append]
    rfl
  · rw [idsAt_succ, ← h.next, hi.nextReqId, hi.nextSeq]

def sentReqIds (t : Traced T) : List UInt32 := (sentIds t).map (·.1)

def sentSeqs (t : Traced T) : List UInt64 := (sentIds t).map (·.2)

theorem Numbered.reqIds {c : Client (Traced T)} {n : Nat} (h : Numbered c n) :
    (sentReqIds c.transport).map UInt32.toNat = numbers (2 ^ 32 - 1) n := by
  rw [sentReqIds, h.sent, List.map_map, List.map_map, numbers]
  exact List.map_congr_left fun k _ => (idsAt_toNat k).1

theorem Numbered.seqs {c : Client (Traced T)} {n : Nat} (h : Numbered c n) :
    (sentSeqs c.transport).map UInt64.toNat = numbers (2 ^ 64 - 1) n := by
  rw [sentSeqs, h.sent, List.map_map, List.map_map, numbers]
  exact List.map_congr_left fun k _ => (idsAt_toNat k).2

/-- What the numbers of `n` frames are like: never going down, and going up each time, or
never repeated, only as long as there is a number left for each frame. -/
structure Ordered (t : Traced T) (n : Nat) : Prop where
  reqIds_monotone : (sentReqIds t).Pairwise (· ≤ ·)
  reqIds_increasing_iff : (sentReqIds t).Pairwise (· < ·) ↔ n ≤ 2 ^ 32 - 1
  reqIds_distinct_iff : (sentReqIds t).Nodup ↔ n ≤ 2 ^ 32 - 1
  seqs_monotone : (sentSeqs t).Pairwise (· ≤ ·)
  seqs_increasing_iff : (sentSeqs t).Pairwise (· < ·) ↔ n ≤ 2 ^ 64 - 1
  seqs_distinct_iff : (sentSeqs t).Nodup ↔ n ≤ 2 ^ 64 - 1

theorem Numbered.ordered {c : Client (Traced T)} {n : Nat} (h : Numbered c n) :
    Ordered c.transport n where
  reqIds_monotone := by
    have hm := numbers_monotone (2 ^ 32 - 1) n
    rw [← h.reqIds, List.pairwise_map] at hm
    exact hm
  reqIds_increasing_iff := by
    rw [← numbers_increasing_iff (by decide), ← h.reqIds, List.pairwise_map]
    rfl
  reqIds_distinct_iff := by
    rw [← numbers_nodup_iff (by decide), ← h.reqIds,
      List.nodup_map_iff fun _ _ => UInt32.toNat_inj.mp]
  seqs_monotone := by
    have hm := numbers_monotone (2 ^ 64 - 1) n
    rw [← h.seqs, List.pairwise_map] at hm
    exact hm
  seqs_increasing_iff := by
    rw [← numbers_increasing_iff (by decide), ← h.seqs, List.pairwise_map]
    rfl
  seqs_distinct_iff := by
    rw [← numbers_nodup_iff (by decide), ← h.seqs,
      List.nodup_map_iff fun _ _ => UInt64.toNat_inj.mp]

end Numbering

section Runs
variable {T : Type} [Transport T]

theorem exchange_sends {α : Type} (opcode expected : UInt32) (body : Bytes)
    (read : Bytes → Except ClientError α) (reqId : UInt32) (seq : UInt64) (t : Traced T) :
    ∃ r, ((exchange opcode expected body read reqId seq).run t).2.sends =
      t.sends ++ [(requestFrame opcode reqId seq body, r)] := by
  rcases hs : Transport.send t (requestFrame opcode reqId seq body) with ⟨r, t'⟩
  have hsent := (Traced.of_send hs).2.2
  refine ⟨r, ?_⟩
  cases r with
  | error e => rw [run_exchange_unsent hs, hsent]
  | ok u =>
    rcases hr : Transport.recv t' with ⟨r', t''⟩
    cases r' with
    | error e => rw [run_exchange_unanswered hs hr, (Traced.of_recv_error hr).2.2, hsent]
    | ok reply => rw [run_exchange_answered hs hr, (Traced.of_recv_ok hr).2.2, hsent]

theorem issue_issues {α : Type} (c : Client (Traced T)) (opcode : UInt32) (body : Bytes)
    (read : Bytes → Except ClientError α) : Issues c (c.issue (call opcode body read)).2 where
  sends := by
    obtain ⟨r, hr⟩ := exchange_sends opcode opcode body read c.nextReqId c.nextSeq c.transport
    exact ⟨opcode, body, r, hr⟩
  nextReqId := rfl
  nextSeq := rfl

theorem perform_issues (c : Client (Traced T)) (request : ClientCall) :
    Issues c (c.perform request).2 := by
  cases request with
  | noop => exact issue_issues c _ _ _
  | vkCreateInstance appApiVersion => exact issue_issues c _ _ _
  | vkEnumeratePhysicalDevices inst => exact issue_issues c _ _ _

theorem Numbered.connect {t : T} {c : Client (Traced T)}
    (h : Client.connect (Traced.start t) = .ok c) : Numbered c 1 := by
  obtain ⟨r, hr⟩ := exchange_sends CoreOp.hello CoreOp.welcome hello.encode
    (fun b => fromProtocol (Welcome.decode b)) 1 1 (Traced.start t)
  rw [Client.connect] at h
  change (handshake.run (Traced.start t)).2.sends = _ at hr
  rcases hrun : handshake.run (Traced.start t) with ⟨result, transport⟩
  rw [hrun] at h hr
  cases result with
  | error e => cases h
  | ok welcome =>
    cases h
    refine ⟨by rw [hr]; rfl, ?_, rfl⟩
    rw [sentIds, hr]
    change [_].filterMap _ = _
    simp [frameIds_requestFrame]
    rfl

theorem Numbered.run {c : Client (Traced T)} {n : Nat} (h : Numbered c n)
    (calls : List ClientCall) : Numbered (final Client.perform c calls) (n + calls.length) := by
  induction calls generalizing c n with
  | nil => exact h
  | cons request calls ih =>
    have hs := ih (h.step (perform_issues c request))
    rwa [List.length_cons, Nat.add_comm calls.length, ← Nat.add_assoc]

/-- The whole run of a session, from its handshake on: one frame a call, each with its pair of
numbers, whatever the calls are and whatever the transport makes of them. -/
theorem run_ids (t : T) (c : Client (Traced T)) (h : Client.connect (Traced.start t) = .ok c)
    (calls : List ClientCall) :
    (final Client.perform c calls).transport.sends.length = calls.length + 1 ∧
      sentIds (final Client.perform c calls).transport =
        (List.range (calls.length + 1)).map idsAt ∧
      Ordered (final Client.perform c calls).transport (calls.length + 1) := by
  have hrun := (Numbered.connect h).run calls
  rw [Nat.add_comm 1] at hrun
  exact ⟨hrun.count, hrun.sent, hrun.ordered⟩

end Runs

theorem session_noop (s : Session) (reqId : UInt32) (seq : UInt64) :
    s.handle (requestFrame CoreOp.noop reqId seq []) = s.reply CoreOp.noop reqId [] := by
  have hf : framed s.maxFrameBody (requestFrame CoreOp.noop reqId seq []) =
      .ok (requestHeader CoreOp.noop reqId seq [], []) := by
    rw [framed, requestFrame, decodeFrame_encodeFrame]
    have h0 : ¬ (requestHeader CoreOp.noop reqId seq []).bodyLen > s.maxFrameBody := by
      simp [requestHeader]
    simp [bind, Except.bind, h0]
    rfl
  rw [Session.handle, hf]
  rfl

theorem link_noop (l : SessionLink) (reqId : UInt32) (seq : UInt64) :
    ∃ header l' l'', header.opcode = CoreOp.noop ∧ header.kind = .response ∧
      Transport.send l (requestFrame CoreOp.noop reqId seq []) = (.ok (), l') ∧
      Transport.recv l' = (.ok (encodeFrame header []), l'') := by
  let header := l.session.replyHeader CoreOp.noop reqId []
  let s' : Session := { l.session with nextSeq := l.session.nextSeq + 1 }
  refine ⟨header, ⟨s', some (encodeFrame header [])⟩, ⟨s', none⟩, rfl, rfl, ?_, rfl⟩
  simp only [Transport.send, session_noop, Session.reply]
  rfl

theorem perform_noop_ok (c : Client (Traced SessionLink)) :
    ∃ v, (c.perform .noop).1 = .ok v := by
  obtain ⟨header, l', l'', hop, hk, hs, hr⟩ :=
    link_noop c.transport.inner c.nextReqId c.nextSeq
  obtain ⟨t', t'', hs', hr'⟩ := c.transport.exchange_eq hs hr
  have hread : readReply CoreOp.noop (encodeFrame header []) = .ok [] := by
    rw [← hop, readReply_encodeFrame header [] hk]
  have hok : ((Graftx.Client.noop c.nextReqId c.nextSeq).run c.transport).1 = .ok () := by
    rw [Graftx.Client.noop, call, run_exchange_answered hs' hr', hread]
    rfl
  exact ⟨.done, by rw [Client.perform_noop, hok]; rfl⟩

theorem connect_session :
    ∃ c, Client.connect (Traced.start (SessionLink.mk (Session.new 1) none)) = .ok c := by
  have hsome : (Client.connect (Traced.start (SessionLink.mk (Session.new 1)
    none))).toOption.isSome = true := by decide +kernel
  cases hc : Client.connect (Traced.start (SessionLink.mk (Session.new 1) none)) with
  | ok c => exact ⟨c, rfl⟩
  | error e =>
    rw [hc] at hsome
    cases hsome

/-- A session of `2 ^ 32 - 1` requests for nothing, all of them answered: with the handshake
there is one frame more than there are request identifiers. -/
theorem request_ids_repeat : ¬ ∀ (T : Type) [Transport T] (t : T) (c : Client (Traced T)),
    Client.connect (Traced.start t) = .ok c → ∀ calls : List ClientCall,
      (∀ e ∈ log Client.perform c calls, ∃ v, e.2 = .ok v) →
        (sentReqIds (final Client.perform c calls).transport).Pairwise (· < ·) := by
  intro h
  obtain ⟨c, hc⟩ := connect_session
  have hlt := h SessionLink _ c hc (List.replicate (2 ^ 32 - 1) .noop) <|
    log_replicate (P := fun r => ∃ v, r = Except.ok v) perform_noop_ok c (2 ^ 32 - 1)
  have hrun := ((Numbered.connect hc).run (List.replicate (2 ^ 32 - 1) .noop)).ordered
  have hle := hrun.reqIds_increasing_iff.mp hlt
  rw [List.length_replicate] at hle
  omega

theorem run_ids_opened : ∃ c : Client (Traced SessionLink),
    Client.connect (Traced.start (SessionLink.mk (Session.new 1) none)) = .ok c ∧
      Ordered (final Client.perform c [.noop, .vkCreateInstance 1]).transport 3 := by
  obtain ⟨c, hc⟩ := connect_session
  exact ⟨c, hc, (run_ids _ c hc [.noop, .vkCreateInstance 1]).2.2⟩

end Graftx.Client
