import Graftx.Lib.Threads
import Graftx.Client.Conversation
import Graftx.Server.Metrics
import Graftx.Transport.Loopback

/-! The thread of a client and the thread of the metered serve loop, at the two ends of a
loopback pair. The loop may still be counting a call when the client goes on; otherwise the
threads take turns. -/
namespace Graftx.Server
open Graftx.Protocol Graftx.Obs Graftx.Client Lib.Threads

/-- Where the client's thread stands. Its end of the pair is dropped when it is finished. -/
inductive ClientThread (α : Type) where
  | talking (c : Conversation α)
  | waiting (next : Except IoError Bytes → Conversation α)
  | finished (result : α)

/-- Where the server's thread stands in `serve_with_metrics`, or behind it. -/
inductive ServerThread where
  | receiving
  | replying (api : Option String) (frame reply : Bytes)
  | recording (api : Option String) (frame reply : Bytes)
  | returned (result : Except IoError Unit)
  | finished (result : Except IoError Unit)

namespace ClientThread
variable {α : Type}

def alive : ClientThread α → Bool
  | .finished _ => false
  | _ => true

end ClientThread

def ServerThread.alive : ServerThread → Bool
  | .finished _ => false
  | _ => true

def counted (registry : ObsRegistry) (api : Option String) (frame reply : Bytes) : ObsRegistry :=
  match api with
  | none => registry
  | some api => registry.record api (UInt64.ofNat frame.length) (UInt64.ofNat reply.length)

def apiOf (frame : Bytes) : Option String :=
  (decodeFrame frame).toOption.map fun p => apiName (opcodeApi p.1.opcode)

structure Duplex (α : Type) where
  client : ClientThread α
  server : ServerThread
  toServer : List Bytes
  toClient : List Bytes
  session : Session
  registry : ObsRegistry

inductive Party where
  | client
  | server
  deriving DecidableEq

namespace Duplex
variable {α : Type}

def start (c : Conversation α) (session : Session) (registry : ObsRegistry) : Duplex α where
  client := .talking c
  server := .receiving
  toServer := []
  toClient := []
  session
  registry

def clientEnd (d : Duplex α) : Loopback := ⟨d.toClient, d.toServer, d.server.alive⟩

def serverEnd (d : Duplex α) : Loopback := ⟨d.toServer, d.toClient, d.client.alive⟩

def setClientEnd (d : Duplex α) (l : Loopback) : Duplex α :=
  { d with toClient := l.rx, toServer := l.tx }

def setServerEnd (d : Duplex α) (l : Loopback) : Duplex α :=
  { d with toServer := l.rx, toClient := l.tx }

def moveClient (d : Duplex α) : Option (Duplex α) :=
  match d.client with
  | .talking (.done a) => some { d with client := .finished a }
  | .talking (.ask frame next) =>
    match Transport.send d.clientEnd frame with
    | (.ok (), l) => some { d.setClientEnd l with client := .waiting next }
    | (.error e, l) => some { d.setClientEnd l with client := .talking (next (.error e)) }
  | .waiting next =>
    if d.clientEnd.Ready then
      let (r, l) := Transport.recv d.clientEnd
      some { d.setClientEnd l with client := .talking (next r) }
    else none
  | .finished _ => none

def moveServer (d : Duplex α) : Option (Duplex α) :=
  match d.server with
  | .receiving =>
    if d.serverEnd.Ready then
      match Transport.recv d.serverEnd with
      | (.error e, l) =>
        some { d.setServerEnd l with
          server := .returned (if closes e then .ok () else .error e) }
      | (.ok frame, l) =>
        let api := apiOf frame
        match d.session.handle frame with
        | (.error _, session) => some { d.setServerEnd l with server := .returned (.ok ()), session }
        | (.ok reply, session) =>
          some { d.setServerEnd l with server := .replying api frame reply, session }
    else none
  | .replying api frame reply =>
    match Transport.send d.serverEnd reply with
    | (.error e, l) => some { d.setServerEnd l with server := .returned (.error e) }
    | (.ok (), l) => some { d.setServerEnd l with server := .recording api frame reply }
  | .recording api frame reply =>
    some { d with server := .receiving, registry := counted d.registry api frame reply }
  | .returned result => some { d with server := .finished result }
  | .finished _ => none

def move (d : Duplex α) : Party → Option (Duplex α)
  | .client => d.moveClient
  | .server => d.moveServer

theorem fair_alternating (n : Nat) : Fair n (List.replicate n [Party.client, .server]).flatten := by
  refine ⟨_, List.length_replicate, rfl, fun round hround i => ?_⟩
  rw [List.eq_of_mem_replicate hround]
  cases i <;> simp

theorem turn_server {d d' : Duplex α} (h : d.moveServer = some d') : turn move d .server = d' :=
  turn_of_some h

theorem client_first {d d' z : Duplex α} {n : Nat} (h : d.moveClient = some d')
    (rest : Reaches move n d' z) : Reaches move (n + 1) d z := .cons .client h rest

theorem server_first {d d' z : Duplex α} {n : Nat} (h : d.moveServer = some d')
    (rest : Reaches move n d' z) : Reaches move (n + 1) d z := .cons .server h rest

/-- The phases the two threads go through together. -/
inductive Phase (d : Duplex α) : Prop where
  | talking (c : Conversation α) (hc : d.client = .talking c) (hto : d.toServer = [])
      (hfrom : d.toClient = [])
      (hs : d.server = .receiving ∨ (∃ api frame reply, d.server = .recording api frame reply) ∨
        ∃ result, d.server = .finished result)
  | asked (next : Except IoError Bytes → Conversation α) (frame : Bytes)
      (hc : d.client = .waiting next) (hto : d.toServer = [frame]) (hfrom : d.toClient = [])
      (hs : d.server = .receiving ∨ ∃ api frame reply, d.server = .recording api frame reply)
  | replying (next : Except IoError Bytes → Conversation α) (api : Option String)
      (frame reply : Bytes) (hc : d.client = .waiting next) (hto : d.toServer = [])
      (hfrom : d.toClient = []) (hs : d.server = .replying api frame reply)
  | answered (next : Except IoError Bytes → Conversation α) (reply : Bytes)
      (hc : d.client = .waiting next) (hto : d.toServer = []) (hfrom : d.toClient = [reply])
      (hs : d.server = .receiving ∨ ∃ api frame reply, d.server = .recording api frame reply)
  | refused (next : Except IoError Bytes → Conversation α) (result : Except IoError Unit)
      (hc : d.client = .waiting next) (hto : d.toServer = []) (hfrom : d.toClient = [])
      (hs : d.server = .returned result ∨ d.server = .finished result)
  | closed (result : α) (hc : d.client = .finished result) (hto : d.toServer = [])
      (hfrom : d.toClient = []) (hs : ∀ api frame reply, d.server ≠ .replying api frame reply)

section Moves
variable (client : ClientThread α) (server : ServerThread) (toServer toClient : List Bytes)
  (session : Session) (registry : ObsRegistry) (frame reply : Bytes) (api : Option String)
  (next : Except IoError Bytes → Conversation α)

theorem client_sends (h : server.alive = true) :
    moveClient ⟨.talking (.ask frame next), server, toServer, toClient, session, registry⟩ =
      some ⟨.waiting next, server, toServer ++ [frame], toClient, session, registry⟩ := by
  simp only [moveClient, clientEnd, Loopback.send_alive ⟨toClient, toServer, server.alive⟩ frame h]
  rfl

theorem client_cannot_send (h : server.alive = false) :
    moveClient ⟨.talking (.ask frame next), server, toServer, toClient, session, registry⟩ =
      some ⟨.talking (next (.error .brokenPipe)), server, toServer, toClient, session,
        registry⟩ := by
  simp only [moveClient, clientEnd, Loopback.send_dropped ⟨toClient, toServer, server.alive⟩ frame h]
  rfl

theorem client_waits (h : server.alive = true) :
    moveClient ⟨.waiting next, server, toServer, [], session, registry⟩ = none := by
  simp [moveClient, clientEnd, Loopback.Ready, h]

theorem client_receives :
    moveClient ⟨.waiting next, server, toServer, reply :: toClient, session, registry⟩ =
      some ⟨.talking (next (.ok reply)), server, toServer, toClient, session, registry⟩ := rfl

theorem client_finds_none (h : server.alive = false) :
    moveClient ⟨.waiting next, server, toServer, [], session, registry⟩ =
      some ⟨.talking (next (.error .unexpectedEof)), server, toServer, [], session,
        registry⟩ := by
  have hready : Loopback.Ready ⟨[], toServer, server.alive⟩ := .inr h
  exact (if_pos hready).trans rfl

theorem server_waits (h : client.alive = true) :
    moveServer ⟨client, .receiving, [], toClient, session, registry⟩ = none := by
  simp [moveServer, serverEnd, Loopback.Ready, h]

theorem server_finds_none (h : client.alive = false) :
    moveServer ⟨client, .receiving, [], toClient, session, registry⟩ =
      some ⟨client, .returned (.ok ()), [], toClient, session, registry⟩ := by
  have hready : Loopback.Ready ⟨[], toClient, client.alive⟩ := .inr h
  exact (if_pos hready).trans rfl

theorem server_takes :
    moveServer ⟨client, .receiving, frame :: toServer, toClient, session, registry⟩ =
      match session.handle frame with
      | (.error _, session) =>
        some ⟨client, .returned (.ok ()), toServer, toClient, session, registry⟩
      | (.ok reply, session) =>
        some ⟨client, .replying (apiOf frame) frame reply, toServer, toClient, session,
          registry⟩ := rfl

theorem server_refuses {e : ProtocolError} {session' : Session}
    (h : session.handle frame = (.error e, session')) :
    moveServer ⟨client, .receiving, frame :: toServer, toClient, session, registry⟩ =
      some ⟨client, .returned (.ok ()), toServer, toClient, session', registry⟩ := by
  rw [server_takes, h]

theorem server_answers {session' : Session} (h : session.handle frame = (.ok reply, session')) :
    moveServer ⟨client, .receiving, frame :: toServer, toClient, session, registry⟩ =
      some ⟨client, .replying (apiOf frame) frame reply, toServer, toClient, session',
        registry⟩ := by
  rw [server_takes, h]

theorem server_sends (h : client.alive = true) :
    moveServer ⟨client, .replying api frame reply, toServer, toClient, session, registry⟩ =
      some ⟨client, .recording api frame reply, toServer, toClient ++ [reply], session,
        registry⟩ := by
  simp only [moveServer, serverEnd, Loopback.send_alive ⟨toServer, toClient, client.alive⟩ reply h]
  rfl

theorem server_cannot_send (h : client.alive = false) :
    moveServer ⟨client, .replying api frame reply, toServer, toClient, session, registry⟩ =
      some ⟨client, .returned (.error .brokenPipe), toServer, toClient, session, registry⟩ := by
  simp only [moveServer, serverEnd,
    Loopback.send_dropped ⟨toServer, toClient, client.alive⟩ reply h]
  rfl

end Moves

/-- Between its turns the loop receives, or it has returned. -/
def betweenTurns (d : Duplex α) : Prop :=
  d.server = .receiving ∨ ∃ result, d.server = .returned result

def loopResult (d : Duplex α) : Option (Except IoError Unit) :=
  match d.server with
  | .returned result => some result
  | _ => none

/-- The moves of the server from one turn to the next are a turn of `serve_with_metrics`. -/
theorem metered_turn (d : Duplex α) (hs : d.server = .receiving) (hready : d.serverEnd.Ready) :
    ∃ n e, run move d (List.replicate n .server) = e ∧ e.betweenTurns ∧
      meteredTurn d.serverEnd d.session d.registry =
        (e.loopResult, e.serverEnd, e.session, e.registry) := by
  obtain ⟨client, server, toServer, toClient, session, registry⟩ := d
  cases hs
  cases toServer with
  | nil =>
    have hc : client.alive = false := hready.resolve_left fun hne => hne rfl
    refine ⟨1, _, turn_server (server_finds_none client toClient session registry hc),
      .inr ⟨_, rfl⟩, ?_⟩
    rw [meteredTurn, serverEnd, Loopback.recv_nil _ rfl]
    rfl
  | cons frame toServer =>
    have hrecv := Loopback.recv_cons ⟨frame :: toServer, toClient, client.alive⟩ frame toServer rfl
    rcases hh : session.handle frame with ⟨answer, session'⟩
    cases answer with
    | error e =>
      refine ⟨1, _, turn_server (server_refuses _ _ _ _ registry _ hh), .inr ⟨_, rfl⟩, ?_⟩
      simp only [meteredTurn, serverEnd, hrecv, hh]
      rfl
    | ok reply =>
      have htake := server_answers client toServer toClient session registry frame reply hh
      have htook := turn_server htake
      by_cases hc : client.alive = true
      · have hsend := Loopback.send_alive ⟨toServer, toClient, client.alive⟩ reply hc
        have hsent := turn_server
          (server_sends client toServer toClient session' registry frame reply (apiOf frame) hc)
        refine ⟨3, ⟨client, .receiving, toServer, toClient ++ [reply], session',
          counted registry (apiOf frame) frame reply⟩, ?_, .inl rfl, ?_⟩
        · change turn move (turn move (turn move _ .server) .server) .server = _
          rw [htook, hsent]
          rfl
        simp only [meteredTurn, serverEnd, hrecv, hh, hsend]
        cases hd : (decodeFrame frame).toOption <;> simp [counted, apiOf, hd] <;> rfl
      · have hdead := Bool.eq_false_iff.mpr hc
        have hsend := Loopback.send_dropped ⟨toServer, toClient, client.alive⟩ reply hdead
        have hlost := turn_server
          (server_cannot_send client toServer toClient session' registry frame reply
            (apiOf frame) hdead)
        refine ⟨2, ⟨client, .returned (.error .brokenPipe), toServer, toClient, session',
          registry⟩, ?_, .inr ⟨_, rfl⟩, ?_⟩
        · change turn move (turn move _ .server) .server = _
          rw [htook, hlost]
        simp only [meteredTurn, serverEnd, hrecv, hh, hsend]
        rfl

theorem client_beside_record {d a : Duplex α} {api : Option String} {frame reply : Bytes}
    (hs : d.server = .recording api frame reply) (ha : d.moveClient = some a) :
    ∃ c, a.moveServer = some c ∧ moveClient { d with
      server := .receiving, registry := counted d.registry api frame reply } = some c := by
  obtain ⟨client, server, toServer, toClient, session, registry⟩ := d
  obtain rfl : server = .recording api frame reply := hs
  cases client with
  | talking c =>
    cases c with
    | done result =>
      cases ha
      exact ⟨_, rfl, rfl⟩
    | ask frame next =>
      rw [client_sends _ _ _ _ _ _ _ rfl] at ha
      cases ha
      exact ⟨_, rfl, client_sends _ _ _ _ _ _ _ rfl⟩
  | waiting next =>
    cases toClient with
    | nil =>
      rw [client_waits _ _ _ _ _ rfl] at ha
      cases ha
    | cons reply toClient =>
      rw [client_receives] at ha
      cases ha
      exact ⟨_, rfl, client_receives _ _ _ _ _ _ _⟩
  | finished result => cases ha

theorem Phase.recording_of_both {d a b : Duplex α} (h : Phase d) (ha : d.moveClient = some a)
    (hb : d.moveServer = some b) : ∃ api frame reply, d.server = .recording api frame reply := by
  obtain ⟨client, server, toServer, toClient, session, registry⟩ := d
  cases h with
  | talking c hc hto hfrom hs =>
    cases hc; cases hto; cases hfrom
    rcases hs with hs | hs | ⟨result, hs⟩
    · cases hs
      rw [server_waits _ _ _ _ rfl] at hb
      cases hb
    · exact hs
    · cases hs
      cases hb
  | asked next frame hc hto hfrom hs =>
    cases hc; cases hto; cases hfrom
    rcases hs with hs | hs
    · cases hs
      rw [client_waits _ _ _ _ _ rfl] at ha
      cases ha
    · exact hs
  | replying next api frame reply hc hto hfrom hs =>
    cases hc; cases hto; cases hfrom; cases hs
    rw [client_waits _ _ _ _ _ rfl] at ha
    cases ha
  | answered next reply hc hto hfrom hs =>
    cases hc; cases hto; cases hfrom
    rcases hs with hs | hs
    · cases hs
      rw [server_waits _ _ _ _ rfl] at hb
      cases hb
    · exact hs
  | refused next result hc hto hfrom hs =>
    cases hc; cases hto; cases hfrom
    rcases hs with hs | hs
    · cases hs
      rw [client_waits _ _ _ _ _ rfl] at ha
      cases ha
    · cases hs
      cases hb
  | closed result hc hto hfrom hs =>
    cases hc
    cases ha

theorem Phase.client {d d' : Duplex α} (h : Phase d) (hm : d.moveClient = some d') : Phase d' := by
  obtain ⟨client, server, toServer, toClient, session, registry⟩ := d
  cases h with
  | talking c hc hto hfrom hs =>
    cases hc; cases hto; cases hfrom
    cases c with
    | done result =>
      cases hm
      refine .closed result rfl rfl rfl fun api frame reply he => ?_
      simp only at he hs
      rw [he] at hs
      simp at hs
    | ask frame next =>
      rcases hs with hs | ⟨api, frame', reply, hs⟩ | ⟨result, hs⟩
      · cases hs
        rw [client_sends _ _ _ _ _ _ _ rfl] at hm
        cases hm
        exact .asked next frame rfl rfl rfl (.inl rfl)
      · cases hs
        rw [client_sends _ _ _ _ _ _ _ rfl] at hm
        cases hm
        exact .asked next frame rfl rfl rfl (.inr ⟨api, frame', reply, rfl⟩)
      · cases hs
        rw [client_cannot_send _ _ _ _ _ _ _ rfl] at hm
        cases hm
        exact .talking _ rfl rfl rfl (.inr (.inr ⟨result, rfl⟩))
  | asked next frame hc hto hfrom hs =>
    cases hc; cases hto; cases hfrom
    have halive : server.alive = true := by
      rcases hs with hs | ⟨api, frame', reply, hs⟩ <;> cases hs <;> rfl
    rw [client_waits _ _ _ _ _ halive] at hm
    cases hm
  | replying next api frame reply hc hto hfrom hs =>
    cases hc; cases hto; cases hfrom; cases hs
    rw [client_waits _ _ _ _ _ rfl] at hm
    cases hm
  | answered next reply hc hto hfrom hs =>
    cases hc; cases hto; cases hfrom
    rw [client_receives] at hm
    cases hm
    exact .talking _ rfl rfl rfl (hs.imp id .inl)
  | refused next result hc hto hfrom hs =>
    cases hc; cases hto; cases hfrom
    rcases hs with hs | hs
    · cases hs
      rw [client_waits _ _ _ _ _ rfl] at hm
      cases hm
    · cases hs
      rw [client_finds_none _ _ _ _ _ rfl] at hm
      cases hm
      exact .talking _ rfl rfl rfl (.inr (.inr ⟨result, rfl⟩))
  | closed result hc hto hfrom hs =>
    cases hc
    cases hm

theorem Phase.server {d d' : Duplex α} (h : Phase d) (hm : d.moveServer = some d') : Phase d' := by
  obtain ⟨client, server, toServer, toClient, session, registry⟩ := d
  cases h with
  | talking c hc hto hfrom hs =>
    cases hc; cases hto; cases hfrom
    -- while the client talks the server waits, has a call to record, or is gone
    rcases hs with hs | ⟨api, frame, reply, hs⟩ | ⟨result, hs⟩
    · cases hs
      rw [server_waits _ _ _ _ rfl] at hm
      cases hm
    · cases hs
      cases hm
      exact .talking c rfl rfl rfl (.inl rfl)
    · cases hs
      cases hm
  | asked next frame hc hto hfrom hs =>
    cases hc; cases hto; cases hfrom
    rcases hs with hs | ⟨api, frame', reply, hs⟩
    · cases hs
      rcases hh : session.handle frame with ⟨answer, session'⟩
      cases answer with
      -- a refused frame ends the loop, so the client finds no reply
      | error e =>
        rw [server_refuses _ _ _ _ _ _ hh] at hm
        cases hm
        exact .refused next (.ok ()) rfl rfl rfl (.inl rfl)
      | ok reply =>
        rw [server_answers _ _ _ _ _ _ _ hh] at hm
        cases hm
        exact .replying next (apiOf frame) frame reply rfl rfl rfl rfl
    · cases hs
      cases hm
      exact .asked next frame rfl rfl rfl (.inl rfl)
  | replying next api frame reply hc hto hfrom hs =>
    cases hc; cases hto; cases hfrom; cases hs
    rw [server_sends _ _ _ _ _ _ _ _ rfl] at hm
    cases hm
    exact .answered next reply rfl rfl rfl (.inr ⟨api, frame, reply, rfl⟩)
  | answered next reply hc hto hfrom hs =>
    cases hc; cases hto; cases hfrom
    rcases hs with hs | ⟨api, frame', reply', hs⟩
    · cases hs
      rw [server_waits _ _ _ _ rfl] at hm
      cases hm
    · cases hs
      cases hm
      exact .answered next reply rfl rfl rfl (.inl rfl)
  | refused next result hc hto hfrom hs =>
    cases hc; cases hto; cases hfrom
    rcases hs with hs | hs
    · cases hs
      cases hm
      exact .refused next result rfl rfl rfl (.inr rfl)
    · cases hs
      cases hm
  | closed result hc hto hfrom hs =>
    cases hc; cases hto; cases hfrom
    cases server with
    | receiving =>
      rw [server_finds_none _ _ _ _ rfl] at hm
      cases hm
      exact .closed result rfl rfl rfl nofun
    | replying api frame reply => exact absurd rfl (hs api frame reply)
    | recording api frame reply =>
      cases hm
      exact .closed result rfl rfl rfl nofun
    | returned r =>
      cases hm
      exact .closed result rfl rfl rfl nofun
    | finished r => cases hm

theorem independent : Independent (move (α := α)) Phase where
  keeps d i d' h hm := by
    cases i with
    | client => exact h.client hm
    | server => exact h.server hm
  commute d i j a b h hij ha hb := by
    cases i with
    | client =>
      cases j with
      | client => exact absurd rfl hij
      | server =>
        obtain ⟨api, frame, reply, hs⟩ := h.recording_of_both ha hb
        obtain ⟨c, hac, hdc⟩ := client_beside_record hs ha
        have hrec : b = { d with
            server := .receiving, registry := counted d.registry api frame reply } := by
          have hmove : d.moveServer = some b := hb
          rw [moveServer, hs] at hmove
          cases hmove
          rfl
        exact ⟨c, hac, hrec ▸ hdc⟩
    | server =>
      cases j with
      | client =>
        obtain ⟨api, frame, reply, hs⟩ := h.recording_of_both hb ha
        obtain ⟨c, hbc, hdc⟩ := client_beside_record hs hb
        have hrec : a = { d with
            server := .receiving, registry := counted d.registry api frame reply } := by
          have hmove : d.moveServer = some a := ha
          rw [moveServer, hs] at hmove
          cases hmove
          rfl
        exact ⟨c, hrec ▸ hdc, hbc⟩
      | server => exact absurd rfl hij

end Duplex
end Graftx.Server
