import Graftx.Client.Ids

/-! Clients that wait for the reply to each request before they go on, as all shims and the
session wrapper do. Such a client is a tree: the frame it sends next, and how it goes on with
whatever comes back. -/
namespace Graftx.Client
open Graftx.Protocol

inductive Conversation (α : Type) where
  | done (result : α)
  | ask (frame : Bytes) (next : Except IoError Bytes → Conversation α)

namespace Conversation
variable {T : Type} [Transport T] {α β : Type}

def bind : Conversation α → (α → Conversation β) → Conversation β
  | .done a, f => f a
  | .ask frame next, f => .ask frame fun r => (next r).bind f

def run : Conversation α → T → α × T
  | .done a, t => (a, t)
  | .ask frame next, t =>
    let (r, t) := roundtrip t frame
    (next r).run t

def asks : Conversation α → T → Nat
  | .done _, _ => 0
  | .ask frame next, t =>
    let (r, t) := roundtrip t frame
    (next r).asks t + 1

theorem run_ask {frame : Bytes} {next : Except IoError Bytes → Conversation α} {t t' : T}
    {r : Except IoError Bytes} (h : roundtrip t frame = (r, t')) :
    (ask frame next).run t = (next r).run t' := by
  rw [run, h]

theorem asks_ask {frame : Bytes} {next : Except IoError Bytes → Conversation α} {t t' : T}
    {r : Except IoError Bytes} (h : roundtrip t frame = (r, t')) :
    (ask frame next).asks t = (next r).asks t' + 1 := by
  rw [asks, h]

theorem run_bind (c : Conversation α) (f : α → Conversation β) (t : T) :
    (c.bind f).run t = (f (c.run t).1).run (c.run t).2 := by
  induction c generalizing t with
  | done a => rfl
  | ask frame next ih => exact ih _ _

theorem asks_bind (c : Conversation α) (f : α → Conversation β) (t : T) :
    (c.bind f).asks t = (f (c.run t).1).asks (c.run t).2 + c.asks t := by
  induction c generalizing t with
  | done a => rfl
  | ask frame next ih =>
    change ((next _).bind f).asks _ + 1 = _
    rw [ih]
    rfl

end Conversation

def asking {α : Type} (opcode expected : UInt32) (body : Bytes)
    (read : Bytes → Except ClientError α) (reqId : UInt32) (seq : UInt64) :
    Conversation (Except ClientError α) :=
  .ask (requestFrame opcode reqId seq body) fun r =>
    .done <|
      match r with
      | .error e => .error (.transport e)
      | .ok reply => readReply expected reply >>= read

section
variable {T : Type} [Transport T] {α : Type} (opcode expected : UInt32) (body : Bytes)
  (read : Bytes → Except ClientError α) (reqId : UInt32) (seq : UInt64) (t : T)

theorem run_asking : (asking opcode expected body read reqId seq).run t =
    (exchange opcode expected body read reqId seq).run t := by
  rcases hs : Transport.send t (requestFrame opcode reqId seq body) with ⟨r, t'⟩
  cases r with
  | error e =>
    rw [asking, Conversation.run_ask (roundtrip_unsent hs), run_exchange_unsent hs]
    rfl
  | ok u =>
    rcases hr : Transport.recv t' with ⟨r, t''⟩
    rw [asking, Conversation.run_ask ((roundtrip_sent hs).trans hr)]
    cases r with
    | error e =>
      rw [run_exchange_unanswered hs hr]
      rfl
    | ok reply =>
      rw [run_exchange_answered hs hr]
      rfl

theorem asks_asking : (asking opcode expected body read reqId seq).asks t = 1 := rfl

end

/-- The part of an open client session that is not its transport. -/
structure Counters where
  nextReqId : UInt32
  nextSeq : UInt64
  sessionId : UInt64

def Counters.over {T : Type} (c : Counters) (t : T) : Client T where
  transport := t
  nextReqId := c.nextReqId
  nextSeq := c.nextSeq
  sessionId := c.sessionId

def Counters.next (c : Counters) : Counters where
  nextReqId := Server.saturatingSucc c.nextReqId
  nextSeq := Obs.saturatingAdd c.nextSeq 1
  sessionId := c.sessionId

section
variable {T : Type} [Transport T]

theorem connect_eq (t : T) : Client.connect t =
    match (asking CoreOp.hello CoreOp.welcome hello.encode
      (fun b => fromProtocol (Welcome.decode b)) 1 1).run t with
    | (.ok welcome, t) => .ok (Counters.over ⟨2, 2, welcome.sessionId⟩ t)
    | (.error e, _) => .error e := by
  rw [run_asking]
  rfl

theorem issue_eq {α : Type} (c : Counters) (t : T) (opcode : UInt32) (body : Bytes)
    (read : Bytes → Except ClientError α) :
    (c.over t).issue (call opcode body read) =
      (((asking opcode opcode body read c.nextReqId c.nextSeq).run t).1,
        c.next.over ((asking opcode opcode body read c.nextReqId c.nextSeq).run t).2) := by
  rw [run_asking]
  rfl

end
end Graftx.Client
