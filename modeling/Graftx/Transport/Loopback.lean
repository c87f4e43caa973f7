import Graftx.Transport.Core

/-! The in-process transport: two queues that keep the order and lose nothing. An endpoint is
what one side sees of the pair, and a call on it is a call on the pair. -/
namespace Graftx
open Graftx.Protocol

/-- One endpoint: the queue it takes from, the queue it puts into, and whether the endpoint
at the other side is still there. -/
structure Loopback where
  rx : List Bytes
  tx : List Bytes
  peerAlive : Bool

namespace Loopback

/-- An empty queue makes a receiver wait while the peer is there, and fails it after that. -/
def Ready (l : Loopback) : Prop := l.rx ≠ [] ∨ l.peerAlive = false

instance (l : Loopback) : Decidable l.Ready := inferInstanceAs (Decidable (_ ∨ _))

/-- Receiving is modelled for an endpoint that is ready. -/
instance : Transport Loopback where
  send l frame :=
    if l.peerAlive then (.ok (), { l with tx := l.tx ++ [frame] }) else (.error .brokenPipe, l)
  recv l :=
    match l.rx with
    | [] => (.error .unexpectedEof, l)
    | frame :: rx => (.ok frame, { l with rx })

theorem send_alive (l : Loopback) (frame : Bytes) (h : l.peerAlive = true) :
    Transport.send l frame = (.ok (), { l with tx := l.tx ++ [frame] }) := if_pos h

theorem send_dropped (l : Loopback) (frame : Bytes) (h : l.peerAlive = false) :
    Transport.send l frame = (.error .brokenPipe, l) := if_neg (by simp [h])

theorem recv_cons (l : Loopback) (frame : Bytes) (rx : List Bytes) (h : l.rx = frame :: rx) :
    Transport.recv l = (.ok frame, { l with rx }) := by
  simp only [Transport.recv, h]

theorem recv_nil (l : Loopback) (h : l.rx = []) :
    Transport.recv l = (.error .unexpectedEof, l) := by
  simp only [Transport.recv, h]

end Loopback
end Graftx
