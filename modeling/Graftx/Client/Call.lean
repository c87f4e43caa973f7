import Graftx.Protocol.Frame
import Graftx.Protocol.Vk
import Graftx.Transport.Core

/-! What every client shim does: build one request frame, send it, take one frame back and
check it. The shims differ in the opcode, in the bodies and in how the reply is read. -/
namespace Graftx.Client
open Graftx.Protocol

inductive ClientError where
  | transport (e : IoError)
  | protocol (e : ProtocolError)
  | unexpectedReply (opcode : UInt32) (kind : FrameKind)
  deriving DecidableEq, Repr

/-- A client computation over a transport it holds exclusively. -/
abbrev Call (T : Type) := ExceptT ClientError (StateM T)

def Call.run {T α : Type} (call : Call T α) (t : T) : Except ClientError α × T := call t

/-- The `?` on a protocol result. -/
def fromProtocol {α : Type} : Except ProtocolError α → Except ClientError α
  | .ok x => .ok x
  | .error e => .error (.protocol e)

def requestHeader (opcode reqId : UInt32) (seq : UInt64) (body : Bytes) : FrameHeader where
  version := protocolMajor
  flags := 0
  kind := .request
  opcode
  reqId
  seq
  bodyLen := UInt32.ofNat body.length

def requestFrame (opcode reqId : UInt32) (seq : UInt64) (body : Bytes) : Bytes :=
  encodeFrame (requestHeader opcode reqId seq body) body

/-- The body of a reply frame, if its opcode and kind are the expected ones. -/
def readReply (expected : UInt32) (reply : Bytes) : Except ClientError Bytes := do
  let (h, b) ← fromProtocol (decodeFrame reply)
  -- the `reqId` of the reply is not compared
  if h.opcode ≠ expected ∨ h.kind ≠ .response then throw (.unexpectedReply h.opcode h.kind)
  return b

section
variable {T : Type} [Transport T] {α : Type}

def send (frame : Bytes) : Call T Unit := fun t =>
  match Transport.send t frame with
  | (.ok (), t) => (.ok (), t)
  | (.error e, t) => (.error (.transport e), t)

def recv : Call T Bytes := fun t =>
  match Transport.recv t with
  | (.ok reply, t) => (.ok reply, t)
  | (.error e, t) => (.error (.transport e), t)

def exchange (opcode expected : UInt32) (body : Bytes) (read : Bytes → Except ClientError α)
    (reqId : UInt32) (seq : UInt64) : Call T α := do
  send (requestFrame opcode reqId seq body)
  let reply ← recv
  let b ← (readReply expected reply : Except ClientError Bytes)
  (read b : Except ClientError α)

/-- An API call expects its own opcode back. -/
def call (opcode : UInt32) (body : Bytes) (read : Bytes → Except ClientError α) (reqId : UInt32)
    (seq : UInt64) : Call T α :=
  exchange opcode opcode body read reqId seq

end

/-- The body of an acknowledgement is not looked at. -/
def readAck (_ : Bytes) : Except ClientError Unit := .ok ()

def readHandle {α : Type} (decode : Bytes → Except ProtocolError α) (handle : α → Handle)
    (kind : UInt8) (b : Bytes) : Except ClientError Handle := do
  let resp ← fromProtocol (decode b)
  if (handle resp).kind ≠ kind then throw (.protocol (.badKind (handle resp).kind.toUInt16))
  return handle resp

def readHandles (kind : UInt8) (b : Bytes) : Except ClientError (List Handle) := do
  let resp ← fromProtocol (Vk.EnumeratePhysicalDevicesResponse.decode b)
  resp.devices.forM fun device =>
    if device.kind ≠ kind then throw (.protocol (.badKind device.kind.toUInt16)) else pure ()
  return resp.devices

def readWord {α : Type} (decode : Bytes → Except ProtocolError α) (word : α → UInt32) (b : Bytes) :
    Except ClientError UInt32 := do
  let resp ← fromProtocol (decode b)
  return word resp

section Laws
variable {T : Type} {α β : Type}

theorem Call.run_bind_ok {x : Call T α} {f : α → Call T β} {t t' : T} {a : α}
    (h : x.run t = (.ok a, t')) : Call.run (x >>= f) t = (f a).run t' := by
  change ExceptT.bindCont f (x.run t).1 (x.run t).2 = _
  rw [h]
  rfl

theorem Call.run_bind_error {x : Call T α} {f : α → Call T β} {t t' : T} {e : ClientError}
    (h : x.run t = (.error e, t')) : Call.run (x >>= f) t = (.error e, t') := by
  change ExceptT.bindCont f (x.run t).1 (x.run t).2 = _
  rw [h]
  rfl

theorem Call.run_lift (x : Except ClientError α) (t : T) :
    Call.run (liftM x : Call T α) t = (x, t) := by
  cases x <;> rfl

end Laws

section Exchange
variable {T : Type} [Transport T] {α : Type} {opcode expected : UInt32} {body : Bytes}
  {read : Bytes → Except ClientError α} {reqId : UInt32} {seq : UInt64} {t t' t'' : T}

theorem run_exchange_unsent {e : IoError}
    (h : Transport.send t (requestFrame opcode reqId seq body) = (.error e, t')) :
    (exchange opcode expected body read reqId seq).run t = (.error (.transport e), t') := by
  have hs : (send (requestFrame opcode reqId seq body) : Call T Unit).run t =
      (.error (.transport e), t') := by
    simp only [Call.run, send, h]
  rw [exchange, Call.run_bind_error hs]

theorem run_exchange_unanswered {e : IoError}
    (h : Transport.send t (requestFrame opcode reqId seq body) = (.ok (), t'))
    (hr : Transport.recv t' = (.error e, t'')) :
    (exchange opcode expected body read reqId seq).run t = (.error (.transport e), t'') := by
  have hs : (send (requestFrame opcode reqId seq body) : Call T Unit).run t = (.ok (), t') := by
    simp only [Call.run, send, h]
  have hrecv : (recv : Call T Bytes).run t' = (.error (.transport e), t'') := by
    simp only [Call.run, recv, hr]
  rw [exchange, Call.run_bind_ok hs, Call.run_bind_error hrecv]

theorem run_exchange_answered {reply : Bytes}
    (h : Transport.send t (requestFrame opcode reqId seq body) = (.ok (), t'))
    (hr : Transport.recv t' = (.ok reply, t'')) :
    (exchange opcode expected body read reqId seq).run t =
      ((readReply expected reply >>= read : Except ClientError α), t'') := by
  have hs : (send (requestFrame opcode reqId seq body) : Call T Unit).run t = (.ok (), t') := by
    simp only [Call.run, send, h]
  have hrecv : (recv : Call T Bytes).run t' = (.ok reply, t'') := by
    simp only [Call.run, recv, hr]
  rw [exchange, Call.run_bind_ok hs, Call.run_bind_ok hrecv]
  cases hreply : readReply expected reply with
  | error e =>
    rw [Call.run_bind_error (Call.run_lift (.error e) _)]
    rfl
  | ok b =>
    rw [Call.run_bind_ok (Call.run_lift (.ok b) _), Call.run_lift]
    rfl

end Exchange

theorem readReply_ok_iff {expected : UInt32} {reply b : Bytes} : readReply expected reply = .ok b ↔
    ∃ h, decodeFrame reply = .ok (h, b) ∧ h.opcode = expected ∧ h.kind = .response := by
  rw [readReply]
  cases decodeFrame reply with
  | error e => simp [fromProtocol, bind, Except.bind]
  | ok p =>
    obtain ⟨h, b'⟩ := p
    simp only [fromProtocol, bind, Except.bind, pure, Except.pure, throw, throwThe,
      MonadExceptOf.throw]
    split <;> grind

theorem readReply_encodeFrame (h : FrameHeader) (b : Bytes) (hk : h.kind = .response) :
    readReply h.opcode (encodeFrame h b) = .ok b := by
  simp [readReply, fromProtocol, hk, bind, Except.bind, pure, Except.pure]

theorem readHandle_ok {α : Type} {decode : Bytes → Except ProtocolError α} (handle : α → Handle)
    {kind : UInt8} {b : Bytes} {resp : α} (hd : decode b = .ok resp)
    (hk : (handle resp).kind = kind) : readHandle decode handle kind b = .ok (handle resp) := by
  simp [readHandle, fromProtocol, hd, hk, bind, Except.bind, pure, Except.pure]

theorem readHandles_singleton {kind : UInt8} (h : Handle) (hk : h.kind = kind) :
    readHandles kind (Vk.EnumeratePhysicalDevicesResponse.encode { devices := [h] }) = .ok [h] := by
  have hd := Vk.EnumeratePhysicalDevicesResponse.decode_exact.self { devices := [h] }
    (by simp [Vk.EnumeratePhysicalDevicesResponse.Fits])
  simp [readHandles, fromProtocol, hd, hk, bind, Except.bind, pure, Except.pure]

theorem readWord_ok {α : Type} {decode : Bytes → Except ProtocolError α} (word : α → UInt32)
    {b : Bytes} {resp : α} (hd : decode b = .ok resp) : readWord decode word b = .ok (word resp) := by
  rw [readWord, hd]
  rfl

end Graftx.Client
