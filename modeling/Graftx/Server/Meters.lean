import Graftx.Obs.OrderFree
import Graftx.Server.Metrics
import Graftx.Transport.Counting
import Graftx.Transport.Loopback

/-! Two meters on one served session: the registry of the metered loop and the counters of a
counting transport under it. They are kept apart and agree. -/
namespace Graftx.Server
open Graftx.Protocol Graftx.Obs Lib Lib.Machine Lib.Entries Lib.Saturation CountingTransport

def recordOf (frame reply : Bytes) : ObsCall :=
  .record (callOf frame reply).api (UInt64.ofNat frame.length) (UInt64.ofNat reply.length)

variable {T : Type} [Transport T]

/-- The calls a stretch of the metered loop makes on its transport: one received frame for each
reply sent, and at the end perhaps one that got none. -/
structure Metered (t : T) (registry : ObsRegistry) (result : Option (Except IoError Unit)) (t' : T)
    (registry' : ObsRegistry) (calls : List TransportCall) (frames replies last : List Bytes) :
    Prop where
  after : t' = final perform t calls
  received : receivedIn (log perform t calls) = frames ++ last
  sent : sentIn (log perform t calls) = replies
  paired : frames.length = replies.length
  last_le : last.length ≤ 1
  going : result = none → last = []
  registry : registry' = (List.zipWith recordOf frames replies).foldl ObsRegistry.call registry

theorem Metered.cons {t t₁ t₂ t' : T} {registry registry' : ObsRegistry}
    {result : Option (Except IoError Unit)} {calls : List TransportCall}
    {frames replies last : List Bytes} {frame reply : Bytes}
    (hr : Transport.recv t = (.ok frame, t₁)) (hs : Transport.send t₁ reply = (.ok (), t₂))
    (h : Metered t₂ (registry.call (recordOf frame reply)) result t' registry' calls frames replies
      last) :
    Metered t registry result t' registry' (.recv :: .send reply :: calls) (frame :: frames)
      (reply :: replies) last := by
  have hrecv : perform t .recv = (.ok frame, t₁) := hr
  have hsend : perform t₁ (.send reply) = (.ok reply, t₂) := by
    simp only [perform, hs]
    rfl
  have hlog : log perform t (.recv :: .send reply :: calls) =
      (.recv, .ok frame) :: (.send reply, .ok reply) :: log perform t₂ calls := by
    simp only [log, hrecv, hsend]
  refine ⟨?_, ?_, ?_, ?_, h.last_le, h.going, h.registry⟩
  · rw [h.after]
    simp only [final, hrecv, hsend]
  · rw [hlog]
    change frame :: receivedIn (log perform t₂ calls) = _
    rw [h.received, List.cons_append]
  · rw [hlog]
    change reply :: sentIn (log perform t₂ calls) = _
    rw [h.sent]
  · rw [List.length_cons, List.length_cons, h.paired]

theorem metered_calls (n : Nat) (t : T) (s : Session) (registry : ObsRegistry) :
    ∃ calls frames replies last, Metered t registry (serveWithMetrics n t s registry).1
      (serveWithMetrics n t s registry).2.1 (serveWithMetrics n t s registry).2.2.2 calls frames
        replies last := by
  induction n generalizing t s registry with
  | zero => exact ⟨[], [], [], [], rfl, rfl, rfl, rfl, Nat.zero_le 1, fun _ => rfl, rfl⟩
  | succ n ih =>
    obtain ⟨registry', hmeter, hstop, hnext⟩ := meteredTurn_eq t s registry
    have hturn := turned t s
    rw [serveWithMetrics, hmeter]
    rcases hserve : serveTurn t s with ⟨result, t', s'⟩
    rw [hserve] at hturn hstop hnext
    have stops {α : Type} {x : α} {frames : List Bytes} (h : some x = none) : frames = [] :=
      absurd h (Option.some_ne_none x)
    cases hturn with
    | closed e _ hr =>
      obtain rfl := hstop (by simp)
      have hrecv : perform t .recv = (.error e, t') := hr
      refine ⟨[.recv], [], [], [], ?_, ?_, ?_, rfl, Nat.zero_le 1, stops, rfl⟩
      · simp only [final, hrecv]
      · simp only [log, hrecv]
        rfl
      · simp only [log, hrecv]
        rfl
    | refused frame e _ hr hh =>
      obtain rfl := hstop (by simp)
      have hrecv : perform t .recv = (.ok frame, t') := hr
      refine ⟨[.recv], [], [], [frame], ?_, ?_, ?_, rfl, Nat.le_refl 1, stops, rfl⟩
      · simp only [final, hrecv]
      · simp only [log, hrecv]
        rfl
      · simp only [log, hrecv]
        rfl
    | failed frame reply e t₁ _ _ hr hh hs =>
      obtain rfl := hstop (by simp)
      have hrecv : perform t .recv = (.ok frame, t₁) := hr
      have hsend : perform t₁ (.send reply) = (.error e, t') := by
        simp only [perform, hs]
        rfl
      refine ⟨[.recv, .send reply], [], [], [frame], ?_, ?_, ?_, rfl, Nat.le_refl 1, stops, rfl⟩
      · simp only [final, hrecv, hsend]
      · simp only [log, hrecv, hsend]
        rfl
      · simp only [log, hrecv, hsend]
        rfl
    | answered frame reply t₁ _ _ hr hh hs =>
      obtain rfl := hnext frame reply t₁ s' hr hh rfl
      obtain ⟨calls, frames, replies, last, h⟩ := ih t' s' (registry.call (recordOf frame reply))
      exact ⟨_, _, _, _, h.cons hr hs⟩

theorem weight_records (frames replies : List Bytes) (h : frames.length = replies.length) :
    let rs := records (List.zipWith recordOf frames replies)
    weight (fun x => (single x).calls.toNat) rs = replies.length ∧
      weight (fun x => (single x).bytesOut.toNat) rs = weight frameLen frames ∧
      weight (fun x => (single x).bytesIn.toNat) rs = weight frameLen replies := by
  induction frames generalizing replies with
  | nil =>
    obtain rfl := List.length_eq_zero_iff.mp h.symm
    exact ⟨rfl, rfl, rfl⟩
  | cons frame frames ih =>
    cases replies with
    | nil => cases h
    | cons reply replies =>
      obtain ⟨hcalls, hout, hin⟩ := ih replies (Nat.succ.inj h)
      refine ⟨?_, ?_, ?_⟩
      · change 1 + weight _ (records (List.zipWith recordOf frames replies)) = _
        rw [hcalls, List.length_cons, Nat.add_comm]
      · change frameLen frame + weight _ (records (List.zipWith recordOf frames replies)) = _
        rw [hout, weight_cons]
      · change frameLen reply + weight _ (records (List.zipWith recordOf frames replies)) = _
        rw [hin, weight_cons]

/-- The registry of the loop and the counters under it, both started at zero: over every
transport the calls and the reply bytes of the registry are the frames and bytes sent, and the
request bytes those received, but for one last frame if the loop ended on it. -/
structure MetersAgree (t : T) (result : Option (Except IoError Unit)) (c : CountingTransport T)
    (total : CallStats) : Prop where
  calls : total.calls = c.framesSent
  bytesIn : total.bytesIn = c.bytesSent
  frames_le : c.framesRecv.toNat ≤ total.calls.toNat + 1
  calls_le : total.calls.toNat ≤ c.framesRecv.toNat
  bytes_le : total.bytesOut.toNat ≤ c.bytesRecv.toNat
  /-- The bytes of that frame are all the counters have beyond the registry. -/
  excess : ∃ calls frames last, c = final perform (new t) calls ∧
    receivedIn (log perform t calls) = frames ++ last ∧ last.length ≤ 1 ∧
    total.bytesOut.toNat = min (2 ^ 64 - 1) (weight frameLen frames) ∧
    c.bytesRecv.toNat = min (2 ^ 64 - 1) (weight frameLen frames + weight frameLen last)
  going : result = none → total.calls = c.framesRecv ∧ total.bytesOut = c.bytesRecv

theorem Metered.totals {t t' : T} {registry : ObsRegistry} {result : Option (Except IoError Unit)}
    {calls : List TransportCall} {frames replies last : List Bytes}
    (h : Metered t .new result t' registry calls frames replies last) (rows : ObsRegistry.Rows)
    (hrows : Lists registry.inner rows) :
    (ObsRegistry.total rows).calls.toNat = min (2 ^ 64 - 1) replies.length ∧
      (ObsRegistry.total rows).bytesOut.toNat = min (2 ^ 64 - 1) (weight frameLen frames) ∧
      (ObsRegistry.total rows).bytesIn.toNat = min (2 ^ 64 - 1) (weight frameLen replies) := by
  rw [h.registry] at hrows
  have hsum (field : CallStats → UInt64) (hf : field ∈ CallStats.counters) :=
    (ObsRegistry.toNat_total _ rows hrows field hf).2
  obtain ⟨hcalls, hout, hin⟩ := weight_records frames replies h.paired
  refine ⟨?_, ?_, ?_⟩
  · rw [hsum (·.calls) (by simp [CallStats.counters]), hcalls]
  · rw [hsum (·.bytesOut) (by simp [CallStats.counters]), hout]
  · rw [hsum (·.bytesIn) (by simp [CallStats.counters]), hin]

theorem Metered.shown {t : T} {c : CountingTransport T} {registry registry' : ObsRegistry}
    {result : Option (Except IoError Unit)} {calls : List TransportCall}
    {frames replies last : List Bytes}
    (h : Metered (CountingTransport.new t) registry result c registry' calls frames replies last) :
    c.framesSent.toNat = min (2 ^ 64 - 1) replies.length ∧
      c.bytesSent.toNat = min (2 ^ 64 - 1) (weight frameLen replies) ∧
      c.framesRecv.toNat = min (2 ^ 64 - 1) (frames.length + last.length) ∧
      c.bytesRecv.toNat =
        min (2 ^ 64 - 1) (weight frameLen frames + weight frameLen last) := by
  have hlog : log perform (CountingTransport.new t) calls = log perform t calls :=
    keeps.log_eq (CountingTransport.new t) calls
  have hbooks : c.tally = (log perform t calls).foldl Tally.note ⟨0, 0, 0, 0⟩ := by
    rw [h.after]
    exact keeps.books_final (CountingTransport.new t) calls
  have hsent := h.sent
  have hreceived := h.received
  rw [hlog] at hsent hreceived
  have hshows := shows_foldl (log perform t calls)
  rw [← hbooks] at hshows
  obtain ⟨hframesSent, hbytesSent, hframesRecv, hbytesRecv⟩ := hshows
  rw [hsent] at hframesSent hbytesSent
  rw [hreceived, List.length_append] at hframesRecv
  rw [hreceived, weight_append] at hbytesRecv
  exact ⟨hframesSent, hbytesSent, hframesRecv, hbytesRecv⟩

theorem Metered.agree {t : T} {c : CountingTransport T} {registry : ObsRegistry}
    {result : Option (Except IoError Unit)} {calls : List TransportCall}
    {frames replies last : List Bytes}
    (h : Metered (CountingTransport.new t) .new result c registry calls frames replies last)
    (rows : ObsRegistry.Rows) (hrows : Lists registry.inner rows) :
    MetersAgree t result c (ObsRegistry.total rows) := by
  obtain ⟨hcalls, hout, hin⟩ := h.totals rows hrows
  obtain ⟨hframesSent, hbytesSent, hframesRecv, hbytesRecv⟩ := h.shown
  have hpaired := h.paired
  have hlast := h.last_le
  have hreceived := h.received
  rw [keeps.log_eq (CountingTransport.new t) calls] at hreceived
  refine ⟨?_, ?_, ?_, ?_, ?_, ⟨calls, frames, last, h.after, hreceived, hlast, hout, hbytesRecv⟩,
    fun hgoing => ?_⟩
  · exact UInt64.toNat_inj.mp (hcalls.trans hframesSent.symm)
  · exact UInt64.toNat_inj.mp (hin.trans hbytesSent.symm)
  · omega
  · omega
  · omega
  · have hnone := h.going hgoing
    rw [hnone, List.length_nil, Nat.add_zero] at hframesRecv
    rw [hnone, weight_nil, Nat.add_zero] at hbytesRecv
    exact ⟨UInt64.toNat_inj.mp (by omega), UInt64.toNat_inj.mp (by omega)⟩

theorem meters_agree (n : Nat) (t : T) (s : Session) (rows : ObsRegistry.Rows)
    (hrows : Lists (serveWithMetrics n (CountingTransport.new t) s .new).2.2.2.inner rows) :
    MetersAgree t (serveWithMetrics n (CountingTransport.new t) s .new).1
      (serveWithMetrics n (CountingTransport.new t) s .new).2.1 (ObsRegistry.total rows) := by
  obtain ⟨calls, frames, replies, last, h⟩ := metered_calls n (CountingTransport.new t) s .new
  exact h.agree rows hrows

theorem exists_rows (n : Nat) (t : T) (s : Session) :
    ∃ rows, Lists (serveWithMetrics n t s .new).2.2.2.inner rows := by
  obtain ⟨calls, frames, replies, last, h⟩ := metered_calls n t s .new
  rw [h.registry]
  exact ObsRegistry.exists_lists_run _

/-- A session served over a queue that holds a request for nothing and then an empty frame. -/
theorem meters_agree_queued : ∃ rows : ObsRegistry.Rows,
    MetersAgree (Loopback.mk [noopFrame 1, []] [] true)
      (serveWithMetrics 2 (CountingTransport.new (Loopback.mk [noopFrame 1, []] [] true))
        (Session.new 1) .new).1
      (serveWithMetrics 2 (CountingTransport.new (Loopback.mk [noopFrame 1, []] [] true))
        (Session.new 1) .new).2.1 (ObsRegistry.total rows) := by
  obtain ⟨rows, hrows⟩ := exists_rows 2 (CountingTransport.new (Loopback.mk [noopFrame 1, []] [] true))
    (Session.new 1)
  exact ⟨rows, meters_agree 2 _ _ rows hrows⟩

end Graftx.Server
