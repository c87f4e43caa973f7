import Graftx.Client.Correlation

/-! The length a reply declares. Taking a frame apart leaves the comparison with the bytes that
follow to the caller: the session makes it for requests, and no shim makes it for replies. -/
namespace Graftx.Client
open Graftx.Protocol Graftx.Server

def Unchecked {α : Type} (read : Bytes → Except ClientError α) : Prop :=
  ∀ b declared actual, read b ≠ .error (.protocol (.bodyLenMismatch declared actual))

section Readers
variable {α : Type} {decode : Bytes → Except ProtocolError α} {encode : α → Bytes} {P : α → Prop}
  {need : Bytes → Nat}

theorem fromProtocol_unchecked (hd : Lib.ExactReader.Exact decode encode P need .unexpectedEof) :
    Unchecked fun b => fromProtocol (decode b) := by
  intro b declared actual h
  change fromProtocol (decode b) = _ at h
  cases hb : decode b with
  | ok x =>
    rw [hb] at h
    cases h
  | error e =>
    rw [hb, hd.only_eof b e hb] at h
    cases h

theorem readAck_unchecked : Unchecked readAck := by
  intro b declared actual h
  cases h

theorem readHandle_unchecked (hd : Lib.ExactReader.Exact decode encode P need .unexpectedEof)
    (handle : α → Handle) (kind : UInt8) : Unchecked (readHandle decode handle kind) := by
  intro b declared actual h
  rw [readHandle] at h
  cases hb : decode b with
  | error e =>
    rw [hb, hd.only_eof b e hb] at h
    cases h
  | ok x =>
    simp only [hb, fromProtocol, bind, Except.bind] at h
    split at h <;> cases h

theorem readWord_unchecked (hd : Lib.ExactReader.Exact decode encode P need .unexpectedEof)
    (word : α → UInt32) : Unchecked (readWord decode word) := by
  intro b declared actual h
  rw [readWord] at h
  cases hb : decode b with
  | error e =>
    rw [hb, hd.only_eof b e hb] at h
    cases h
  | ok x =>
    rw [hb] at h
    cases h

theorem forM_kinds_error (kind : UInt8) {e : ClientError} : ∀ devices : List Handle,
    (devices.forM fun device => if device.kind ≠ kind
      then throw (.protocol (.badKind device.kind.toUInt16)) else pure ()) =
        (.error e : Except ClientError PUnit) →
      ∃ device ∈ devices, e = .protocol (.badKind device.kind.toUInt16)
  | [], h => by cases h
  | device :: devices, h => by
    rw [List.forM_eq_forM, List.forM_cons] at h
    by_cases hk : device.kind ≠ kind
    · rw [if_pos hk] at h
      cases h
      exact ⟨device, by simp, rfl⟩
    · rw [if_neg hk] at h
      obtain ⟨other, hmem, he⟩ := forM_kinds_error kind devices h
      exact ⟨other, List.mem_cons_of_mem _ hmem, he⟩

theorem readHandles_unchecked (kind : UInt8) : Unchecked (readHandles kind) := by
  intro b declared actual h
  rw [readHandles] at h
  cases hb : Vk.EnumeratePhysicalDevicesResponse.decode b with
  | error e =>
    rw [hb, Vk.EnumeratePhysicalDevicesResponse.decode_exact.only_eof b e hb] at h
    cases h
  | ok resp =>
    simp only [hb, fromProtocol, bind, Except.bind] at h
    split at h
    · next e he =>
      obtain ⟨device, -, rfl⟩ := forM_kinds_error kind resp.devices he
      cases h
    · cases h

end Readers

/-! No shim has a reader that would notice. -/

theorem Vk.read_unchecked : ∀ r : VkRequest, Unchecked (Vk.read r)
  | .createInstance _ => readHandle_unchecked Vk.CreateInstanceResponse.decode_exact _ _
  | .enumeratePhysicalDevices _ => readHandles_unchecked _
  | .createDevice _ => readHandle_unchecked Vk.CreateDeviceResponse.decode_exact _ _
  | .getDeviceQueue _ => readHandle_unchecked Vk.GetDeviceQueueResponse.decode_exact _ _
  | .allocateMemory _ => readHandle_unchecked Vk.AllocateMemoryResponse.decode_exact _ _
  | .createBuffer _ => readHandle_unchecked Vk.CreateBufferResponse.decode_exact _ _
  | .bindBufferMemory _ => readAck_unchecked
  | .createCommandPool _ => readHandle_unchecked Vk.CreateCommandPoolResponse.decode_exact _ _
  | .allocateCommandBuffer _ =>
    readHandle_unchecked Vk.AllocateCommandBufferResponse.decode_exact _ _
  | .queueSubmit _ => readAck_unchecked
  | .cmdCopyBuffer _ => readAck_unchecked
  | .cmdDraw _ => readAck_unchecked
  | .destroyBuffer _ => readAck_unchecked
  | .freeMemory _ => readAck_unchecked
  | .destroyCommandPool _ => readAck_unchecked

theorem Gl.read_unchecked : ∀ r : GlRequest, Unchecked (Gl.read r)
  | .createContext => readHandle_unchecked Gl.CreateContextResponse.decode_exact _ _
  | .makeCurrent _ => readAck_unchecked
  | .genBuffer _ => readHandle_unchecked Gl.GenBufferResponse.decode_exact _ _
  | .swapBuffers _ => readAck_unchecked
  | .deleteBuffer _ => readAck_unchecked

theorem Cuda.read_unchecked : ∀ r : CudaRequest, Unchecked (Cuda.read r)
  | .ctxCreate _ => readHandle_unchecked Cuda.CtxCreateResponse.decode_exact _ _
  | .memAlloc _ => readHandle_unchecked Cuda.MemAllocResponse.decode_exact _ _
  | .memFree _ => readAck_unchecked

theorem Cl.read_unchecked : ∀ r : ClRequest, Unchecked (Cl.read r)
  | .createContext => readHandle_unchecked Cl.CreateContextResponse.decode_exact _ _
  | .createBuffer _ => readHandle_unchecked Cl.CreateBufferResponse.decode_exact _ _
  | .releaseBuffer _ => readAck_unchecked

theorem Hip.read_unchecked : ∀ r : HipRequest, Unchecked (Hip.read r)
  | .malloc _ => readHandle_unchecked Hip.MallocResponse.decode_exact _ _
  | .free _ => readAck_unchecked
  | .streamCreate => readHandle_unchecked Hip.StreamCreateResponse.decode_exact _ _

theorem L0.read_unchecked : ∀ r : L0Request, Unchecked (L0.read r)
  | .contextCreate => readHandle_unchecked L0.ContextCreateResponse.decode_exact _ _
  | .memAllocDevice _ => readHandle_unchecked L0.MemAllocDeviceResponse.decode_exact _ _
  | .memFree _ => readAck_unchecked

theorem Video.read_unchecked : ∀ r : VideoRequest, Unchecked (Video.read r)
  | .createDecodeSession _ =>
    readHandle_unchecked Video.CreateDecodeSessionResponse.decode_exact _ _
  | .decodeFrame _ => readWord_unchecked Video.DecodeFrameResponse.decode_exact _
  | .destroySession _ => readAck_unchecked

theorem Wgpu.read_unchecked : ∀ r : WgpuRequest, Unchecked (Wgpu.read r)
  | .requestDevice => readHandle_unchecked Wgpu.RequestDeviceResponse.decode_exact _ _
  | .createBuffer _ => readHandle_unchecked Wgpu.CreateBufferResponse.decode_exact _ _
  | .destroyBuffer _ => readAck_unchecked

theorem Optix.read_unchecked : ∀ r : OptixRequest, Unchecked (Optix.read r)
  | .contextCreate => readHandle_unchecked Optix.ContextCreateResponse.decode_exact _ _
  | .pipelineCreate _ => readHandle_unchecked Optix.PipelineCreateResponse.decode_exact _ _
  | .destroy _ => readAck_unchecked

theorem Sycl.read_unchecked : ∀ r : SyclRequest, Unchecked (Sycl.read r)
  | .queueCreate => readHandle_unchecked Sycl.QueueCreateResponse.decode_exact _ _
  | .mallocDevice _ => readHandle_unchecked Sycl.MallocDeviceResponse.decode_exact _ _
  | .free _ => readAck_unchecked

theorem Amf.read_unchecked : ∀ r : AmfRequest, Unchecked (Amf.read r)
  | .createEncoder _ => readHandle_unchecked Amf.CreateEncoderResponse.decode_exact _ _
  | .encodeFrame _ => readWord_unchecked Amf.EncodeFrameResponse.decode_exact _
  | .destroyEncoder _ => readAck_unchecked

namespace ShimCall
variable {T : Type} [Transport T]

theorem read_unchecked : ∀ c : ShimCall, Unchecked c.exchange.read
  | .handshake => fromProtocol_unchecked Welcome.decode_exact
  | .noop _ _ => readAck_unchecked
  | .vk r _ _ => Vk.read_unchecked r
  | .gl r _ _ => Gl.read_unchecked r
  | .cuda r _ _ => Cuda.read_unchecked r
  | .cl r _ _ => Cl.read_unchecked r
  | .hip r _ _ => Hip.read_unchecked r
  | .l0 r _ _ => L0.read_unchecked r
  | .video r _ _ => Video.read_unchecked r
  | .wgpu r _ _ => Wgpu.read_unchecked r
  | .optix r _ _ => Optix.read_unchecked r
  | .sycl r _ _ => Sycl.read_unchecked r
  | .amf r _ _ => Amf.read_unchecked r

def Answered (t : T) (c : ShimCall) (reply : Bytes) : Prop :=
  ∃ t' t'', Transport.send t c.frame = (.ok (), t') ∧ Transport.recv t' = (.ok reply, t'')

/-- The frame has a readable header, and another number of bytes behind it than it says. -/
def Misfit (reply : Bytes) (h : FrameHeader) (b : Bytes) : Prop :=
  decodeFrame reply = .ok (h, b) ∧ h.bodyLen.toNat ≠ b.length

theorem Answered.unique {t : T} {c : ShimCall} {reply reply' : Bytes} (h : Answered t c reply)
    (h' : Answered t c reply') : reply = reply' := by
  obtain ⟨t₁, t₂, hs, hr⟩ := h
  obtain ⟨t₁', t₂', hs', hr'⟩ := h'
  cases hs.symm.trans hs'
  cases hr.symm.trans hr'
  rfl

theorem Delivers.answered {t : T} {c : ShimCall} {reply : Bytes} {h : FrameHeader}
    {v : c.Result} (hd : Delivers t c reply h v) :
    ∃ b, Answered t c reply ∧ decodeFrame reply = .ok (h, b) := by
  obtain ⟨t', t'', b, hs, hr, hdecode, -⟩ := hd
  exact ⟨b, ⟨t', t'', hs, hr⟩, hdecode⟩

/-- What the session requires of a request, required of the reply to a call: a value is
returned only for a frame of the declared length, and any other frame is a length error. -/
structure ChecksLength (t : T) (c : ShimCall) : Prop where
  ok : ∀ v, (c.call.run t).1 = .ok v → ∃ reply h b, Answered t c reply ∧
    decodeFrame reply = .ok (h, b) ∧ h.bodyLen.toNat = b.length
  otherwise : ∀ reply h b, Answered t c reply → Misfit reply h b →
    (c.call.run t).1 = .error (.protocol (.bodyLenMismatch h.bodyLen b.length))

theorem run_answered {t : T} {c : ShimCall} {reply : Bytes} (ha : Answered t c reply) :
    (c.call.run t).1 = (readReply c.exchange.expected reply >>= c.exchange.read) := by
  obtain ⟨t', t'', hs, hr⟩ := ha
  rw [c.call_eq, run_exchange_answered hs hr]

theorem decodeFrame_unchecked {buf : Bytes} {declared : UInt32} {actual : Nat} :
    decodeFrame buf ≠ .error (.bodyLenMismatch declared actual) := by
  intro h
  rw [decodeFrame] at h
  split at h
  · cases h
  · cases hd : FrameHeader.decode buf with
    | ok header =>
      rw [hd] at h
      cases h
    | error e =>
      rw [hd] at h
      cases h
      rcases FrameHeader.only_eof_or_badKind buf _ hd with he | ⟨v, he⟩ <;> cases he

theorem readReply_unchecked (expected : UInt32) : Unchecked (readReply expected) := by
  intro reply declared actual h
  rw [readReply] at h
  cases hd : decodeFrame reply with
  | error e =>
    rw [hd] at h
    cases h
    exact decodeFrame_unchecked hd
  | ok p =>
    simp only [hd, fromProtocol, bind, Except.bind] at h
    split at h <;> cases h

theorem answered_unchecked {t : T} {c : ShimCall} {reply : Bytes} (ha : Answered t c reply)
    (declared : UInt32) (actual : Nat) :
    (c.call.run t).1 ≠ .error (.protocol (.bodyLenMismatch declared actual)) := by
  rw [run_answered ha]
  cases hb : readReply c.exchange.expected reply with
  | error e =>
    intro h
    cases h
    exact readReply_unchecked _ _ _ _ hb
  | ok b => exact c.read_unchecked b declared actual

/-- The call checks the length exactly when there is nothing to check: no frame of a wrong
length is delivered to it. And it returns no value for such a frame exactly when none
that is delivered has the opcode, the kind and the body it looks for. -/
theorem checksLength_iff (t : T) (c : ShimCall) :
    (ChecksLength t c ↔ ¬ ∃ reply h b, Answered t c reply ∧ Misfit reply h b) ∧
      ((∀ v, (c.call.run t).1 = .ok v → ∃ reply h b, Answered t c reply ∧
          decodeFrame reply = .ok (h, b) ∧ h.bodyLen.toNat = b.length) ↔
        ¬ ∃ reply h b v, Delivers t c reply h v ∧ Misfit reply h b) := by
  refine ⟨⟨?_, ?_⟩, ?_, ?_⟩
  · rintro hc ⟨reply, h, b, ha, hm⟩
    exact answered_unchecked ha _ _ (hc.otherwise reply h b ha hm)
  · intro hfit
    refine ⟨fun v hok => ?_, fun reply h b ha hm => absurd ⟨reply, h, b, ha, hm⟩ hfit⟩
    obtain ⟨reply, h, hd⟩ := (ok_iff t c v).mp hok
    obtain ⟨b, ha, hdecode⟩ := hd.answered
    refine ⟨reply, h, b, ha, hdecode, ?_⟩
    by_contra hne
    exact hfit ⟨reply, h, b, ha, hdecode, hne⟩
  · rintro hc ⟨reply, h, b, v, hd, hdecode, hne⟩
    obtain ⟨reply', h', b', ha', hdecode', heq⟩ := hc v ((ok_iff t c v).mpr ⟨reply, h, hd⟩)
    obtain ⟨_, ha, -⟩ := hd.answered
    cases ha.unique ha'
    cases hdecode.symm.trans hdecode'
    exact hne heq
  · intro hfit v hok
    obtain ⟨reply, h, hd⟩ := (ok_iff t c v).mp hok
    obtain ⟨b, ha, hdecode⟩ := hd.answered
    refine ⟨reply, h, b, ha, hdecode, ?_⟩
    by_contra hne
    exact hfit ⟨reply, h, b, v, hd, hdecode, hne⟩

/-- A reply that declares five bytes and carries none acknowledges a request for nothing. -/
theorem padded_reply_is_taken :
    ¬ ∀ (T : Type) [Transport T] (t : T) (c : ShimCall), ChecksLength t c := by
  intro h
  let reply := encodeFrame
    { version := protocolMajor, flags := 0, kind := .response, opcode := CoreOp.noop,
      reqId := 2, seq := 5, bodyLen := 5 } []
  have ha : Answered (⟨[reply], [], true⟩ : Loopback) (.noop 2 5) reply := ⟨_, _, rfl, rfl⟩
  have hok : ((ShimCall.noop 2 5).call.run (⟨[reply], [], true⟩ : Loopback)).1 = .ok () := by
    rw [run_answered ha]
    rfl
  obtain ⟨reply', h', b', ha', hdecode, heq⟩ := (h Loopback _ (.noop 2 5)).ok () hok
  cases ha.unique ha'
  cases (decodeFrame_encodeFrame _ _).symm.trans hdecode
  exact absurd heq (by decide)

theorem checksLength_session (l : SessionLink) (c : ShimCall) : ChecksLength l c := by
  rw [(checksLength_iff l c).1]
  rintro ⟨reply, h, b, ⟨l', l'', hs, hr⟩, hdecode, hne⟩
  rcases hh : l.session.handle c.frame with ⟨a, s'⟩
  simp only [Transport.send, hh] at hs
  cases a with
  | error e =>
    cases hs
    cases hr
  | ok reply' =>
    cases hs
    cases hr
    obtain ⟨request, _, answer, _, -, hrep, hto⟩ :=
      l.session.answers_of_ok c.frame reply (by rw [hh])
    cases hrep.symm.trans hdecode
    exact hne hto.bodyLen

end ShimCall
end Graftx.Client
