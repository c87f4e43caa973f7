import Graftx.Transport.Core

/-! The two transports without a peer: one whose frames are scripted and collected, and one that
takes everything and gives nothing. -/
namespace Graftx
open Graftx.Protocol

structure VecTransport where
  outbox : List Bytes
  inbox : List Bytes

namespace VecTransport

def new : VecTransport := ⟨[], []⟩

def pushInbox (t : VecTransport) (frame : Bytes) : VecTransport :=
  { t with inbox := t.inbox ++ [frame] }

instance : Transport VecTransport where
  send t frame := (.ok (), { t with outbox := t.outbox ++ [frame] })
  recv t :=
    match t.inbox with
    | [] => (.error .unexpectedEof, t)
    | frame :: inbox => (.ok frame, { t with inbox })

theorem roundtrip_scripted (outbox inbox : List Bytes) (frame reply : Bytes) :
    roundtrip (mk outbox (reply :: inbox)) frame = (.ok reply, ⟨outbox ++ [frame], inbox⟩) := rfl

theorem foldl_pushInbox (t : VecTransport) (frames : List Bytes) :
    frames.foldl pushInbox t = ⟨t.outbox, t.inbox ++ frames⟩ := by
  induction frames generalizing t with
  | nil => rw [List.foldl_nil, List.append_nil]
  | cons frame frames ih =>
    rw [List.foldl_cons, ih, List.append_cons t.inbox]
    rfl

end VecTransport

end Graftx
