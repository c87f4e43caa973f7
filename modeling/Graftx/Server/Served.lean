import Graftx.Server.Duplex

/-! A served session as its client sees it: each frame is handled and counted when it is sent,
and the reply is what comes back. However the two threads are scheduled, a client that waits
for its replies cannot tell the difference. -/
namespace Graftx.Server
open Graftx.Protocol Graftx.Obs Graftx.Client Lib.Threads

/-- `up` is whether the loop still runs; it ends at the first frame it refuses. -/
structure Served where
  session : Session
  registry : ObsRegistry
  inbox : Option Bytes
  up : Bool

namespace Served

def start (session : Session) (registry : ObsRegistry) : Served where
  session
  registry
  inbox := none
  up := true

instance : Transport Served where
  send l frame :=
    if l.up then
      match l.session.handle frame with
      | (.error _, session) => (.ok (), { l with session, inbox := none, up := false })
      | (.ok reply, session) =>
        (.ok (),
          { l with
            session
            registry := counted l.registry (apiOf frame) frame reply
            inbox := some reply })
    else (.error .brokenPipe, l)
  recv l :=
    match l.inbox with
    | none => (.error .unexpectedEof, l)
    | some reply => (.ok reply, { l with inbox := none })

def down (session : Session) (registry : ObsRegistry) : Served := ⟨session, registry, none, false⟩

theorem roundtrip_answered {session session' : Session} (registry : ObsRegistry)
    {frame reply : Bytes} (h : session.handle frame = (.ok reply, session')) :
    roundtrip (start session registry) frame =
      (.ok reply, start session' (counted registry (apiOf frame) frame reply)) := by
  have hs : Transport.send (start session registry) frame = (.ok (),
      ⟨session', counted registry (apiOf frame) frame reply, some reply, true⟩) := by
    simp only [Transport.send, start, h]
    rfl
  rw [roundtrip_sent hs]
  rfl

theorem roundtrip_refused {session session' : Session} (registry : ObsRegistry) {frame : Bytes}
    {e : ProtocolError} (h : session.handle frame = (.error e, session')) :
    roundtrip (start session registry) frame = (.error .unexpectedEof, down session' registry) := by
  have hs : Transport.send (start session registry) frame = (.ok (), down session' registry) := by
    simp only [Transport.send, start, h]
    rfl
  rw [roundtrip_sent hs]
  rfl

theorem roundtrip_down (session : Session) (registry : ObsRegistry) (frame : Bytes) :
    roundtrip (down session registry) frame = (.error .brokenPipe, down session registry) := rfl

end Served

namespace Duplex
variable {α : Type}

def ended (result : α) (session : Session) (registry : ObsRegistry) : Duplex α where
  client := .finished result
  server := .finished (.ok ())
  toServer := []
  toClient := []
  session
  registry

theorem stuck_ended (result : α) (session : Session) (registry : ObsRegistry) :
    Stuck move (ended result session registry) := fun i => by cases i <;> rfl

theorem phase_start (c : Conversation α) (session : Session) (registry : ObsRegistry) :
    Phase (start c session registry) := .talking c rfl rfl rfl (.inl rfl)

def abandoned (c : Conversation α) (session : Session) (registry : ObsRegistry) : Duplex α where
  client := .talking c
  server := .finished (.ok ())
  toServer := []
  toClient := []
  session
  registry

theorem reaches_abandoned (c : Conversation α) (session : Session) (registry : ObsRegistry) :
    Reaches move (c.asks (Served.down session registry) + 1) (abandoned c session registry)
      (ended (c.run (Served.down session registry)).1 session registry) ∧
    (c.run (Served.down session registry)).2 = Served.down session registry := by
  induction c with
  | done result => exact ⟨.one .client rfl, rfl⟩
  | ask frame next ih =>
    obtain ⟨hr, hl⟩ := ih (.error .brokenPipe)
    have hdown := Served.roundtrip_down session registry frame
    rw [Conversation.run_ask hdown, Conversation.asks_ask hdown]
    exact ⟨client_first (client_cannot_send _ _ _ _ _ _ _ rfl) hr, hl⟩

theorem reaches_answered {session session' : Session} (registry : ObsRegistry)
    {frame reply : Bytes} (next : Except IoError Bytes → Conversation α)
    (h : session.handle frame = (.ok reply, session')) :
    Reaches move 5 (start (.ask frame next) session registry)
      (start (next (.ok reply)) session' (counted registry (apiOf frame) frame reply)) :=
  client_first (client_sends _ _ _ _ _ _ _ rfl) <|
  server_first (server_answers _ _ _ _ _ _ _ h) <|
  server_first (server_sends _ _ _ _ _ _ _ _ rfl) <|
  server_first rfl <|
  client_first (client_receives _ _ _ _ _ _ _) <|
  .refl _

theorem reaches_refused {session session' : Session} (registry : ObsRegistry) {frame : Bytes}
    {e : ProtocolError} (next : Except IoError Bytes → Conversation α)
    (h : session.handle frame = (.error e, session')) :
    Reaches move 4 (start (.ask frame next) session registry)
      (abandoned (next (.error .unexpectedEof)) session' registry) :=
  client_first (client_sends _ _ _ _ _ _ _ rfl) <|
  server_first (server_refuses _ _ _ _ _ _ h) <|
  server_first rfl <|
  client_first (client_finds_none _ _ _ _ _ rfl) <|
  .refl _

theorem reaches_done (result : α) (session : Session) (registry : ObsRegistry) :
    Reaches move 3 (start (.done result) session registry) (ended result session registry) :=
  client_first rfl <|
  server_first (server_finds_none _ _ _ _ rfl) <|
  server_first rfl <|
  .refl _

theorem reaches_ended (c : Conversation α) (session : Session) (registry : ObsRegistry) :
    ∃ n ≤ 5 * c.asks (Served.start session registry) + 3,
      Reaches move n (start c session registry)
        (ended (c.run (Served.start session registry)).1
          (c.run (Served.start session registry)).2.session
          (c.run (Served.start session registry)).2.registry) := by
  induction c generalizing session registry with
  | done result => exact ⟨3, Nat.le_refl 3, reaches_done result session registry⟩
  | ask frame next ih =>
    rcases h : session.handle frame with ⟨answer, session'⟩
    cases answer with
    | error e =>
      have hrefused := Served.roundtrip_refused registry h
      obtain ⟨hr, hl⟩ := reaches_abandoned (next (.error .unexpectedEof)) session' registry
      rw [Conversation.run_ask hrefused, Conversation.asks_ask hrefused, hl]
      exact ⟨_, by omega, (reaches_refused registry next h).trans hr⟩
    | ok reply =>
      have hanswered := Served.roundtrip_answered registry h
      obtain ⟨n, hn, hr⟩ :=
        ih (.ok reply) session' (counted registry (apiOf frame) frame reply)
      rw [Conversation.run_ask hanswered, Conversation.asks_ask hanswered]
      exact ⟨_, by omega, (reaches_answered registry next h).trans hr⟩

/-- What the two threads come to when each request is answered as it is sent. -/
def inOrder (c : Conversation α) (session : Session) (registry : ObsRegistry) : Duplex α :=
  let (result, link) := c.run (Served.start session registry)
  ended result link.session link.registry

theorem schedules_agree (c : Conversation α) (session : Session) (registry : ObsRegistry)
    (schedule : List Party)
    (h : Stuck move (run move (start c session registry) schedule) ∨
      Fair (5 * c.asks (Served.start session registry) + 3) schedule) :
    run move (start c session registry) schedule = inOrder c session registry := by
  obtain ⟨n, hn, hr⟩ := reaches_ended c session registry
  have hz : Stuck move (inOrder c session registry) := stuck_ended _ _ _
  have hs := phase_start c session registry
  rcases h with hstuck | hfair
  · exact independent.stuck_eq hr hz hs schedule hstuck
  · exact independent.fair_eq hr hz hs hn schedule hfair

/-- However the two threads are scheduled, they never get stuck before both have finished, and
from any state on any schedule with enough turns for both gets them there: to the result, the
session and the registry that answering each request as it is sent would give. -/
theorem schedule_invisible (c : Conversation α) (session : Session) (registry : ObsRegistry)
    (schedule : List Party) :
    let d := run move (start c session registry) schedule
    (Stuck move d ↔ d = inOrder c session registry) ∧
      ∀ later, Fair (5 * c.asks (Served.start session registry) + 3) later →
        run move d later = inOrder c session registry := by
  intro d
  obtain ⟨n, hn, hr⟩ := reaches_ended c session registry
  have hz : Stuck move (inOrder c session registry) := stuck_ended _ _ _
  have hs := phase_start c session registry
  obtain ⟨m, hm, hrest⟩ := independent.after_run hr hz hs schedule
  refine ⟨⟨fun hstuck => schedules_agree c session registry schedule (.inl hstuck), fun he => ?_⟩,
    fun later hfair => ?_⟩
  · rw [he]
    exact hz
  · have hd : Phase d := run_keeps independent.keeps hs schedule
    exact independent.fair_eq hrest hz hd (Nat.le_trans hm hn) later hfair

end Duplex
end Graftx.Server
