import Graftx.Lib.Replies
import Graftx.Server.FrameCap
import Graftx.Server.Serve
import Graftx.Transport.Socket

/-! One connection of the server from its first byte to its last: what is written depends only
on the bytes that arrive and on where reading and writing fail, not on the chunks. -/
namespace Graftx.Server
open Graftx.Protocol Graftx.Handles Lib.Machine

/-- How the loop ends on frames after which reading fails with `e`: a reply that there is no
room for ends it first. -/
def served (room : Nat) (writeError : IoError) (s : Session) (frames : List Bytes) (e : IoError) :
    Except IoError Unit :=
  if room < (wire (repliesTo Session.handle s frames)).length then .error writeError
  else if AllAnswered Session.handle s frames then if closes e then .ok () else .error e
  else .ok ()

/-- How many replies are begun: those that fit and the one that is cut off. -/
def begun (room : Nat) (replies : List Bytes) : Nat :=
  min replies.length ((wholeBefore room replies).length + 1)

/-- The session after the frames to which a reply was begun. -/
def leftBy (room : Nat) (s : Session) (frames : List Bytes) : Session :=
  final Session.handle s (frames.take (begun room (repliesTo Session.handle s frames)))

theorem reply_length_le (s : Session) (frame reply : Bytes)
    (hr : (s.handle frame).1 = .ok reply) : reply.length ≤ headerLen + 20 := by
  have hc := s.capped frame
  generalize s.handle frame = a at hr hc
  cases hc with
  | welcomed n h body hn hr' hlen =>
    obtain rfl : encodeFrame h body = reply := Except.ok.inj (hr'.symm.trans hr)
    exact ((Session.bodyWithin_encodeFrame 20 h body).mpr (Nat.le_of_eq hlen)).length_le
  | other hn hsmall => exact Nat.le_trans (hsmall reply hr).length_le (by decide)

theorem begun_cons_fits (room : Nat) (reply : Bytes) (replies : List Bytes)
    (h : (prefixed reply).length ≤ room) :
    begun room (reply :: replies) = begun (room - (prefixed reply).length) replies + 1 := by
  rw [length_prefixed] at h ⊢
  rw [begun, begun, wholeBefore, if_pos h, List.length_cons, List.length_cons,
    Nat.add_min_add_right]

theorem begun_cons_cut (room : Nat) (reply : Bytes) (replies : List Bytes)
    (h : room < (prefixed reply).length) : begun room (reply :: replies) = 1 := by
  rw [length_prefixed] at h
  rw [begun, wholeBefore, if_neg (Nat.not_le.mpr h), List.length_cons, List.length_nil]
  omega

/-- What the loop makes of the frames that are left, from a given point on. -/
structure Concludes (c : Socket) (s : Session) (frames : List Bytes) (e : IoError)
    (result : Option (Except IoError Unit)) (c' : Socket) (s' : Session) : Prop where
  result : result = some (served c.room c.writeError s frames e)
  session : s' = leftBy c.room s frames
  sent : c'.sent = c.sent ++ (wire (repliesTo Session.handle s frames)).take c.room

namespace Concludes
variable {c c' : Socket} {s s' s'' : Session} {f reply : Bytes} {fs : List Bytes} {e : IoError}

theorem ended (s : Session) (e : IoError) (h : c'.sent = c.sent) :
    Concludes c s [] e (some (if closes e then .ok () else .error e)) c' s where
  result := rfl
  session := rfl
  sent := by rw [h, repliesTo, wire, List.take_nil, List.append_nil]

theorem refused {err : ProtocolError} (fs : List Bytes) (e : IoError)
    (hh : s.handle f = (.error err, s')) (h : c'.sent = c.sent) :
    Concludes c s (f :: fs) e (some (.ok ())) c' s' := by
  have hnone := repliesTo_cons_error s s' f fs err hh
  have hsame := (s.handled f).unchanged (e := err) (by rw [hh])
  rw [hh] at hsame
  refine ⟨?_, ?_, ?_⟩
  · rw [served, hnone, wire, List.length_nil, if_neg (Nat.not_lt_zero _),
      if_neg (not_allAnswered_cons s s' f fs err hh)]
  · rw [leftBy, hnone]
    exact hsame
  · rw [hnone, h, wire, List.take_nil, List.append_nil]

theorem cut (fs : List Bytes) (e : IoError) (hh : s.handle f = (.ok reply, s'))
    (hroom : c.room < (prefixed reply).length)
    (h : c'.sent = c.sent ++ (prefixed reply).take c.room) :
    Concludes c s (f :: fs) e (some (.error c.writeError)) c' s' := by
  have hcons := repliesTo_cons_ok s s' f fs reply hh
  refine ⟨?_, ?_, ?_⟩
  · rw [served, hcons, wire, List.length_append, if_pos (by omega)]
  · rw [leftBy, hcons, begun_cons_cut _ _ _ hroom, List.take_succ_cons, List.take_zero, final, hh,
      final]
  · rw [h, hcons, wire, List.take_append_of_le_length (Nat.le_of_lt hroom)]

theorem answered {result : Option (Except IoError Unit)} {arriving : List Bytes}
    (hh : s.handle f = (.ok reply, s')) (hroom : (prefixed reply).length ≤ c.room)
    (hrest : Concludes
      { c with
        arriving
        room := c.room - (prefixed reply).length
        sent := c.sent ++ prefixed reply } s' fs e result c' s'') :
    Concludes c s (f :: fs) e result c' s'' := by
  have hcons := repliesTo_cons_ok s s' f fs reply hh
  refine ⟨?_, ?_, ?_⟩
  · have hlt : c.room < (wire (reply :: repliesTo Session.handle s' fs)).length ↔
        c.room - (prefixed reply).length < (wire (repliesTo Session.handle s' fs)).length := by
      rw [wire, List.length_append]
      omega
    rw [hrest.result, served, served, hcons]
    simp only [hlt, allAnswered_cons_ok s s' f fs reply hh]
  · rw [hrest.session, leftBy, leftBy, hcons, begun_cons_fits _ _ _ hroom, List.take_succ_cons,
      final, hh]
  · rw [hrest.sent, hcons, wire, List.take_append, List.take_of_length_le hroom,
      List.append_assoc]

end Concludes

/-- With enough turns the loop comes to its end: it has answered the frames up to the first one
that the session refuses, and the answers are what was written, as far as there was room. -/
theorem serve_concludes (n : Nat) (t : StreamTransport Socket) (s : Session) (frames : List Bytes)
    (e : IoError) (h : unframe t.maxFrame t.inner.readError t.inner.arriving.flatten = (frames, e))
    (hn : frames.length < n) : Concludes t.inner s frames e
      (serve n t s).1 (serve n t s).2.1.inner (serve n t s).2.2 := by
  induction n generalizing t s frames with
  | zero => exact absurd hn (Nat.not_lt_zero _)
  | succ n ih =>
    have hr := t.received
    rw [h] at hr
    rw [serve, serveTurn, takeIn]
    cases hr with
    | none e arriving hr =>
      rw [hr]
      exact .ended s e rfl
    | frame f fs e arriving hr hrest =>
      rw [hr]
      simp only
      rcases hh : s.handle f with ⟨a, s'⟩
      cases a with
      | error err => exact .refused fs e hh rfl
      | ok reply =>
        have hfits : reply.length < 2 ^ 32 :=
          Nat.lt_of_le_of_lt (reply_length_le s f reply (by rw [hh])) (by decide)
        let t' : StreamTransport Socket := { t with inner := { t.inner with arriving } }
        -- the write ends inside the reply when the socket has no room for it
        by_cases hroom : (prefixed reply).length ≤ t.inner.room
        · have hs := t'.send_fits reply hfits hroom
          have hloop := ih
            { t' with inner := { t'.inner with
                room := t.inner.room - (prefixed reply).length
                sent := t.inner.sent ++ prefixed reply } } s' fs hrest (Nat.lt_of_succ_lt_succ hn)
          simp only [giveOut, t', hs]
          exact .answered hh hroom hloop
        · have hs := t'.send_cut reply hfits (Nat.not_le.mp hroom)
          simp only [giveOut, t', hs]
          exact .cut fs e hh (Nat.not_le.mp hroom) rfl

/-- A connection as a whole, whatever bytes come in whatever chunks and wherever reading and
writing fail: the frames are answered in order up to the first one that the session refuses, and
the answers are what is written, as far as writing goes. The loop ends with an error when writing
fails, and when it has answered all frames and a header is over the cap or reading fails in
another way than by the client hanging up. -/
theorem connection_by_bytes (turns : Nat) (c : Socket) (s : Session)
    (hturns : c.arriving.flatten.length < 4 * turns) :
    let (frames, e) := unframe maxFrameDefault c.readError c.arriving.flatten
    let ended := serve turns (StreamTransport.new c) s
    Concludes c s frames e ended.1 ended.2.1.inner ended.2.2 := by
  have hlen := length_unframe maxFrameDefault c.readError c.arriving.flatten
  exact serve_concludes turns (StreamTransport.new c) s _ _ rfl (by omega)

/-- A session of the server binary. -/
def newSession (id : UInt64) : Session :=
  ((Session.new id).register (.vulkan .new)).register (.gl Tables.empty)

def greeting : Bytes := wire [Session.helloOffering 4096, noopFrame 7]

theorem unframe_greeting (e : IoError) :
    unframe maxFrameDefault e greeting = ([Session.helloOffering 4096, noopFrame 7], e) :=
  unframe_wire maxFrameDefault e _ (by decide +kernel)

theorem greeting_answered :
    AllAnswered Session.handle (newSession 1) [Session.helloOffering 4096, noopFrame 7] ∧
      (wire (repliesTo Session.handle (newSession 1)
        [Session.helloOffering 4096, noopFrame 7])).length = 84 := by
  decide +kernel

/-- The two arrive cut within the first length, and there is room for both replies. -/
theorem connection_by_bytes_chunks :
    let c : Socket := ⟨[greeting.take 3, greeting.drop 3], .unexpectedEof, 100, .brokenPipe, []⟩
    let ended := serve 40 (StreamTransport.new c) (newSession 1)
    ended.1 = some (.ok ()) ∧ ended.2.1.inner.sent =
      wire (repliesTo Session.handle (newSession 1) [Session.helloOffering 4096, noopFrame 7]) := by
  intro c ended
  have hflat : c.arriving.flatten = greeting := by
    simp only [c, List.flatten_cons, List.flatten_nil, List.append_nil, List.take_append_drop]
  have h := connection_by_bytes 40 c (newSession 1) (by rw [hflat]; decide +kernel)
  rw [hflat, unframe_greeting] at h
  obtain ⟨hresult, -, hsent⟩ := h
  obtain ⟨hall, hlen⟩ := greeting_answered
  refine ⟨hresult.trans ?_, hsent.trans ?_⟩
  · rw [served, hlen, if_neg (by decide), if_pos hall]
    rfl
  · rw [List.take_of_length_le (by rw [hlen]; decide)]
    rfl

end Graftx.Server
