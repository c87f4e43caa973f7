import Graftx.Server.Connection
import Mathlib.Data.List.Forall2

/-! The server process: connections are served one after the other, each with a session of its
own. What a client reads does not depend on who was connected before it, the session id in its
welcome apart. -/
namespace Graftx.Server
open Graftx.Protocol Graftx.Handles Lib.Machine

namespace Session

def withId (s : Session) (id : UInt64) : Session := { s with sessionId := id }

end Session

/-- Two replies that differ in the session id of a welcome at most. -/
def SameButId (id id' : UInt64) (a b : Bytes) : Prop :=
  a = b ∨ ∃ (header : FrameHeader) (w : Welcome), header.opcode = CoreOp.welcome ∧
    a = encodeFrame header (Welcome.encode { w with sessionId := id }) ∧
    b = encodeFrame header (Welcome.encode { w with sessionId := id' })

theorem SameButId.length_eq {id id' : UInt64} {a b : Bytes} (h : SameButId id id' a b) :
    a.length = b.length := by
  obtain rfl | ⟨header, w, -, rfl, rfl⟩ := h
  · rfl
  · rw [encodeFrame, encodeFrame, List.length_append, List.length_append,
      Welcome.decode_exact.length_encode, Welcome.decode_exact.length_encode]

theorem length_wire_alike {id id' : UInt64} {replies replies' : List Bytes}
    (h : List.Forall₂ (SameButId id id') replies replies') :
    (wire replies).length = (wire replies').length := by
  induction h with
  | nil => rfl
  | cons hsame _ ih =>
    rw [wire, wire, List.length_append, List.length_append, length_prefixed, length_prefixed,
      hsame.length_eq, ih]

inductive Alike (id id' : UInt64) :
    Except ProtocolError Bytes → Except ProtocolError Bytes → Prop where
  | refused (e : ProtocolError) : Alike id id' (.error e) (.error e)
  | answered {a b : Bytes} (h : SameButId id id' a b) : Alike id id' (.ok a) (.ok b)

theorem Alike.same {id id' : UInt64} (a : Except ProtocolError Bytes) : Alike id id' a a := by
  cases a with
  | error e => exact .refused e
  | ok reply => exact .answered (.inl rfl)

namespace Session

def AlikeCalls (id id' : UInt64) (a a' : Answer Session) : Prop :=
  Alike id id' a.1 a'.1 ∧ a'.2 = a.2.withId id'

variable (s : Session) (id : UInt64)

theorem refuse_withId (e : ProtocolError) :
    AlikeCalls s.sessionId id (.error e, s) (.error e, s.withId id) := ⟨.refused e, rfl⟩

theorem reply_withId (opcode reqId : UInt32) (body : Bytes) : AlikeCalls s.sessionId id
    (s.reply opcode reqId body) ((s.withId id).reply opcode reqId body) := ⟨.same _, rfl⟩

theorem greet_withId (reqId : UInt32) (body : Bytes) :
    AlikeCalls s.sessionId id (s.greet reqId body) ((s.withId id).greet reqId body) := by
  rw [greet, greet]
  cases Hello.decode body with
  | error e => exact s.refuse_withId id e
  | ok hello =>
    simp only
    split
    · exact s.refuse_withId id _
    · refine ⟨.answered (.inr ⟨(s.negotiated hello).replyHeader CoreOp.welcome reqId
        (s.negotiated hello).welcome.encode, (s.negotiated hello).welcome, rfl, rfl, ?_⟩), rfl⟩
      have hlen : ((s.withId id).negotiated hello).welcome.encode.length =
          (s.negotiated hello).welcome.encode.length := by
        rw [Welcome.decode_exact.length_encode, Welcome.decode_exact.length_encode]
      have hheader : ((s.withId id).negotiated hello).replyHeader CoreOp.welcome reqId
          ((s.withId id).negotiated hello).welcome.encode =
            (s.negotiated hello).replyHeader CoreOp.welcome reqId
              (s.negotiated hello).welcome.encode := by
        rw [replyHeader, replyHeader, hlen]
        rfl
      rw [hheader]
      rfl

theorem route_withId (opcode reqId : UInt32) (body : Bytes) :
    AlikeCalls s.sessionId id (s.route opcode reqId body)
      ((s.withId id).route opcode reqId body) := by
  have hbackends : (s.withId id).backends = s.backends := rfl
  rw [route, route, hbackends]
  cases s.backends.get (opcodeApi opcode) with
  | none => exact s.refuse_withId id _
  | some backend =>
    simp only
    rcases backend.handle opcode body with ⟨answer, backend'⟩
    cases answer with
    | error e => exact (s.register backend').refuse_withId id e
    | ok response => exact (s.register backend').reply_withId id opcode reqId response

theorem handle_withId (frame : Bytes) :
    AlikeCalls s.sessionId id (s.handle frame) ((s.withId id).handle frame) := by
  have hcap : (s.withId id).maxFrameBody = s.maxFrameBody := rfl
  rw [handle, handle, hcap]
  cases framed s.maxFrameBody frame with
  | error e => exact s.refuse_withId id e
  | ok p =>
    simp only
    split
    · exact s.greet_withId id _ _
    · split
      · exact s.reply_withId id _ _ _
      · exact s.route_withId id _ _ _

theorem sessionId_handle (frame : Bytes) : (s.handle frame).2.sessionId = s.sessionId := by
  have hh := s.handled frame
  generalize s.handle frame = a at hh
  cases hh <;> rfl

theorem repliesTo_withId (frames : List Bytes) :
    List.Forall₂ (SameButId s.sessionId id) (repliesTo handle s frames)
      (repliesTo handle (s.withId id) frames) := by
  induction frames generalizing s with
  | nil => exact .nil
  | cons frame frames ih =>
    obtain ⟨hans, hafter⟩ := s.handle_withId id frame
    have hid := s.sessionId_handle frame
    rcases h : s.handle frame with ⟨answer, s₁⟩
    rcases h' : (s.withId id).handle frame with ⟨answer', s₂⟩
    rw [h, h'] at hans hafter
    rw [h] at hid
    simp only at hans hafter hid
    cases hans with
    | refused e =>
      rw [repliesTo_cons_error _ _ _ _ e h, repliesTo_cons_error _ _ _ _ e h']
      exact .nil
    | answered hsame =>
      rw [repliesTo_cons_ok _ _ _ _ _ h, repliesTo_cons_ok _ _ _ _ _ h', hafter, ← hid]
      rw [← hid] at hsame
      exact .cons hsame (ih s₁)

end Session

inductive Notice where
  | acceptFailed (e : IoError)
  | serveError (e : IoError)

/-- How a connection went; without a result it is still being served. -/
structure Outcome (S : Type) where
  result : Option (Except IoError Unit)
  stream : S
  session : Session

section
variable {S σ : Type} [ByteStream S]

/-- The loop of `serve_tcp` over what has been accepted so far. A connection that does not end
keeps it from the later ones. -/
def serveIncoming (turns : Nat) (makeSession : σ → Session × σ) :
    σ → List (Except IoError S) → List Notice × List (Outcome S)
  | _, [] => ([], [])
  | st, .error e :: rest =>
    let (notices, outs) := serveIncoming turns makeSession st rest
    (.acceptFailed e :: notices, outs)
  | st, .ok stream :: rest =>
    let (session, st) := makeSession st
    match serve turns (StreamTransport.new stream) session with
    | (none, t, session) => ([], [⟨none, t.inner, session⟩])
    | (some result, t, session) =>
      let (notices, outs) := serveIncoming turns makeSession st rest
      let notices :=
        match result with
        | .error e => .serveError e :: notices
        | .ok () => notices
      (notices, ⟨some result, t.inner, session⟩ :: outs)

/-- With an address that cannot be bound nothing is served. -/
def serveTcp (turns : Nat) (makeSession : σ → Session × σ) (st : σ)
    (bound : Except IoError (List (Except IoError S))) :
    Except IoError (List Notice × List (Outcome S)) :=
  match bound with
  | .error e => .error e
  | .ok incoming => .ok (serveIncoming turns makeSession st incoming)

end

/-- The closure of `main`, over its counter. -/
def makeSession (nextId : UInt64) : Session × UInt64 := (newSession nextId, nextId + 1)

def connections {S : Type} (incoming : List (Except IoError S)) : List S :=
  incoming.filterMap Except.toOption

theorem serveIncoming_concludes (turns : Nat) (id : UInt64)
    (incoming : List (Except IoError Socket))
    (hturns : ∀ c ∈ connections incoming, c.arriving.flatten.length < 4 * turns) :
    (serveIncoming turns makeSession id incoming).2.length = (connections incoming).length ∧
      ∀ i c, (connections incoming)[i]? = some c → ∃ out,
        (serveIncoming turns makeSession id incoming).2[i]? = some out ∧
          let (frames, e) := unframe maxFrameDefault c.readError c.arriving.flatten
          Concludes c (newSession (id + UInt64.ofNat i)) frames e
            out.result out.stream out.session := by
  induction incoming generalizing id with
  | nil => exact ⟨rfl, fun i c h => by cases h⟩
  | cons first rest ih =>
    cases first with
    | error e => exact ih id hturns
    | ok c =>
      have hc := hturns c List.mem_cons_self
      obtain ⟨hlen, hrest⟩ := ih (id + 1) fun c' hc' => hturns c' (List.mem_cons_of_mem c hc')
      have hlen4 := length_unframe maxFrameDefault c.readError c.arriving.flatten
      have hends := serve_concludes turns (StreamTransport.new c) (newSession id) _ _ rfl
        (by
          change (unframe maxFrameDefault c.readError c.arriving.flatten).1.length < turns
          omega)
      rw [serveIncoming]
      simp only [makeSession]
      rcases hserve : serve turns (StreamTransport.new c) (newSession id) with ⟨result, t, s⟩
      rw [hserve] at hends
      obtain rfl := hends.result
      refine ⟨congrArg (· + 1) hlen, fun i c' hi => ?_⟩
      cases i with
      | zero =>
        cases hi
        refine ⟨_, rfl, ?_⟩
        have hid : id + UInt64.ofNat 0 = id := UInt64.add_zero id
        rw [hid]
        exact hends
      | succ i =>
        obtain ⟨out, hout, hserves⟩ := hrest i c' hi
        refine ⟨out, hout, ?_⟩
        rwa [Nat.add_comm i 1, UInt64.ofNat_add, ← UInt64.add_assoc]

theorem replies_newSession (id id' : UInt64) (frames : List Bytes) :
    List.Forall₂ (SameButId id id') (repliesTo Session.handle (newSession id) frames)
      (repliesTo Session.handle (newSession id') frames) :=
  (newSession id).repliesTo_withId id' frames

theorem served_newSession (room : Nat) (writeError : IoError) (id id' : UInt64)
    (frames : List Bytes) (e : IoError) : served room writeError (newSession id) frames e =
      served room writeError (newSession id') frames e := by
  have halike := replies_newSession id id' frames
  have hall : AllAnswered Session.handle (newSession id) frames ↔
      AllAnswered Session.handle (newSession id') frames := by
    rw [AllAnswered, AllAnswered, halike.length_eq]
  simp only [served, hall, length_wire_alike halike]

end Graftx.Server
