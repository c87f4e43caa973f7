import Graftx.Fuzz.Generator
import Graftx.Protocol.Apis
import Graftx.Protocol.Frame
import Graftx.Protocol.Reservation

/-! The fuzzer's loop. The decoders return on any bytes; what can end a run early is the
allocator, when it has no room for the list that an input announces. -/
namespace Graftx.Fuzz
open Graftx.Protocol Lcg
open Vk.EnumeratePhysicalDevicesResponse (count reserved decodeReserving)

/-- One call of a decoder: the bytes it asks the allocator for, and what it returns. -/
structure Decoding where
  reserves : Nat
  result : Except ProtocolError Unit

def plain {α : Type} (decode : Bytes → Except ProtocolError α) (buf : Bytes) : Decoding where
  reserves := 0
  result := (decode buf).map fun _ => ()

/-- A handle takes eight bytes. -/
def listing (buf : Bytes) : Decoding where
  reserves := 8 * (reserved buf).getD 0
  result := (decodeReserving buf).2.map fun _ => ()

/-- Every decoder the fuzzer feeds, in its order. -/
def decoders : List (Bytes → Decoding) :=
  [plain decodeFrame, plain Hello.decode, plain Welcome.decode,
    plain Vk.CreateInstanceRequest.decode, plain Vk.CreateInstanceResponse.decode,
    plain Vk.EnumeratePhysicalDevicesRequest.decode, listing, plain Vk.CreateDeviceRequest.decode,
    plain Vk.CreateDeviceResponse.decode, plain Vk.GetDeviceQueueRequest.decode,
    plain Vk.GetDeviceQueueResponse.decode, plain Vk.AllocateMemoryRequest.decode,
    plain Vk.AllocateMemoryResponse.decode, plain Vk.CreateBufferRequest.decode,
    plain Vk.CreateBufferResponse.decode, plain Vk.BindBufferMemoryRequest.decode,
    plain Vk.CreateCommandPoolRequest.decode, plain Vk.CreateCommandPoolResponse.decode,
    plain Vk.AllocateCommandBufferRequest.decode, plain Vk.AllocateCommandBufferResponse.decode,
    plain Vk.QueueSubmitRequest.decode, plain Vk.CmdCopyBufferRequest.decode,
    plain Vk.CmdDrawRequest.decode, plain Vk.DestroyBufferRequest.decode,
    plain Vk.FreeMemoryRequest.decode, plain Vk.DestroyCommandPoolRequest.decode,
    plain Gl.CreateContextResponse.decode, plain Gl.MakeCurrentRequest.decode,
    plain Gl.GenBufferRequest.decode, plain Gl.GenBufferResponse.decode,
    plain Cuda.CtxCreateRequest.decode, plain Cuda.CtxCreateResponse.decode,
    plain Cuda.MemAllocRequest.decode, plain Cuda.MemAllocResponse.decode,
    plain Cuda.MemFreeRequest.decode, plain Hip.MallocRequest.decode,
    plain Hip.MallocResponse.decode, plain Hip.FreeRequest.decode,
    plain Hip.StreamCreateResponse.decode, plain Cl.CreateContextResponse.decode,
    plain Cl.CreateBufferRequest.decode, plain Cl.CreateBufferResponse.decode,
    plain Cl.ReleaseBufferRequest.decode, plain L0.ContextCreateResponse.decode,
    plain L0.MemAllocDeviceRequest.decode, plain L0.MemAllocDeviceResponse.decode,
    plain L0.MemFreeRequest.decode, plain Video.CreateDecodeSessionRequest.decode,
    plain Video.CreateDecodeSessionResponse.decode, plain Video.DecodeFrameRequest.decode,
    plain Video.DecodeFrameResponse.decode, plain Video.DestroySessionRequest.decode,
    plain Wgpu.RequestDeviceResponse.decode, plain Wgpu.CreateBufferRequest.decode,
    plain Wgpu.CreateBufferResponse.decode, plain Wgpu.DestroyBufferRequest.decode,
    plain Optix.ContextCreateResponse.decode, plain Optix.PipelineCreateRequest.decode,
    plain Optix.PipelineCreateResponse.decode, plain Optix.DestroyRequest.decode,
    plain Sycl.QueueCreateResponse.decode, plain Sycl.MallocDeviceRequest.decode,
    plain Sycl.MallocDeviceResponse.decode, plain Sycl.FreeRequest.decode,
    plain Amf.CreateEncoderRequest.decode, plain Amf.CreateEncoderResponse.decode,
    plain Amf.EncodeFrameRequest.decode, plain Amf.EncodeFrameResponse.decode,
    plain Amf.DestroyEncoderRequest.decode]

/-- The calls on one input, with an allocator that grants requests of some sizes. Without a
result the process was aborted. -/
def exercise (grants : Nat → Bool) (buf : Bytes) : Option (List (Except ProtocolError Unit)) :=
  decoders.mapM fun decoder =>
    let call := decoder buf
    if call.reserves = 0 ∨ grants call.reserves then some call.result else none

/-- A loop whose turns make an item each and work on it: the items that got through, and whether
the loop went to its end. -/
def through {σ β γ : Type} (turn : σ → σ × β) (work : β → Option γ) : Nat → σ → List β × Bool
  | 0, _ => ([], true)
  | n + 1, s =>
    let (s, item) := turn s
    match work item with
    | none => ([], false)
    | some _ =>
      let (items, ended) := through turn work n s
      (item :: items, ended)

/-- The inputs that were gone through, and the count `fuzz_iter` returns unless it is aborted. -/
def fuzzIter (grants : Nat → Bool) (seed : UInt64) (n : Nat) : List Bytes × Option Nat :=
  let (bufs, ended) := through fillBuf (exercise grants) n (Lcg.new seed)
  (bufs, if ended then some n else none)

def Granted (grants : Nat → Bool) (buf : Bytes) : Prop :=
  buf.length < 4 ∨ count buf = 0 ∨ grants (8 * count buf) = true

instance (grants : Nat → Bool) (buf : Bytes) : Decidable (Granted grants buf) :=
  inferInstanceAs (Decidable (_ ∨ _ ∨ _))

theorem isSome_mapM_iff {α β : Type} (f : α → Option β) (l : List α) :
    (l.mapM f).isSome ↔ ∀ x ∈ l, (f x).isSome := by
  induction l with
  | nil => simp
  | cons x l ih =>
    rw [List.mapM_cons, List.forall_mem_cons, ← ih]
    cases f x with
    | none => simp
    | some y => cases l.mapM f <;> simp

theorem granted_iff (grants : Nat → Bool) (buf : Bytes) : Granted grants buf ↔
    (listing buf).reserves = 0 ∨ grants (listing buf).reserves = true := by
  rw [Granted, listing]
  by_cases h : buf.length < 4
  · simp [Vk.EnumeratePhysicalDevicesResponse.reserved_short h, h]
  · simp [Vk.EnumeratePhysicalDevicesResponse.reserved_long (Nat.not_lt.mp h), h]

theorem exercise_isSome_iff (grants : Nat → Bool) (buf : Bytes) :
    (exercise grants buf).isSome ↔ Granted grants buf := by
  rw [exercise, isSome_mapM_iff, granted_iff]
  have hplain {α : Type} (decode : Bytes → Except ProtocolError α) :
      (if (plain decode buf).reserves = 0 ∨ grants (plain decode buf).reserves = true
        then some (plain decode buf).result else none).isSome = true := rfl
  have hlisting : (if (listing buf).reserves = 0 ∨ grants (listing buf).reserves = true
        then some (listing buf).result else none).isSome = true ↔
      (listing buf).reserves = 0 ∨ grants (listing buf).reserves = true := by
    split <;> simp [*]
  simp only [decoders, List.forall_mem_cons, hplain, hlisting, true_and]
  simp

section
variable {σ β γ : Type} {turn : σ → σ × β} {work : β → Option γ} {s : Nat → σ} {item : Nat → β}
  {P : β → Prop} [DecidablePred P]

theorem through_eq (hturn : ∀ i, turn (s i) = (s (i + 1), item i))
    (hwork : ∀ b, (work b).isSome ↔ P b) (n i : Nat) :
    let items := (List.range n).map fun k => item (i + k)
    through turn work n (s i) = (items.takeWhile fun b => P b, decide (∀ b ∈ items, P b)) := by
  induction n generalizing i with
  | zero => rfl
  | succ n ih =>
    have hitems : ((List.range (n + 1)).map fun k => item (i + k)) =
        item i :: (List.range n).map fun k => item (i + 1 + k) := by
      rw [List.range_succ_eq_map, List.map_cons, List.map_map, Nat.add_zero]
      refine congrArg _ (List.map_congr_left fun k _ => ?_)
      rw [Function.comp_apply, Nat.add_assoc, Nat.add_comm 1]
    have hgot := hwork (item i)
    simp only [through, hturn, hitems]
    cases hw : work (item i) with
    | none =>
      have hno : ¬ P (item i) := fun h => by simpa [hw] using hgot.mpr h
      simp [hno]
    | some c =>
      have hyes : P (item i) := hgot.mp (by rw [hw]; rfl)
      simp [hyes, ih]

end

def inputs (seed : UInt64) (n : Nat) : List Bytes :=
  (List.range n).map fun i => bufferAt (Lcg.new seed) (startOf (Lcg.new seed) i)

theorem through_inputs (grants : Nat → Bool) (seed : UInt64) (n : Nat) :
    through fillBuf (exercise grants) n (Lcg.new seed) =
      ((inputs seed n).takeWhile fun buf => Granted grants buf,
        decide (∀ buf ∈ inputs seed n, Granted grants buf)) := by
  have hloop := through_eq (s := fun i => advance (startOf (Lcg.new seed) i) (Lcg.new seed))
    (fillBuf_startOf (Lcg.new seed)) (exercise_isSome_iff grants) n 0
  simp only [Nat.zero_add] at hloop
  exact hloop

end Graftx.Fuzz
