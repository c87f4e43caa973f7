import Graftx.Server.Lifetimes
import Graftx.Server.Media
import Graftx.Server.Vulkan

/-! Progress counters of objects. A counter is the number of answered requests that named its
object since the object was created, as far as 32 bits go, whatever else the run did. -/
namespace Graftx.Server
open Graftx.Protocol Graftx.Protocol.Vk Graftx.Handles Lib.Machine Lib.Ledger

/-- A counter in the objects of one family. It starts from zero, and an answered request that
names its object moves it on. -/
structure Counter (B : Type) [Backend B] where
  family : Family B
  count : Object family → UInt32
  target : Request B → Option Handle
  changes : ∀ (b : B) (opcode : UInt32) (r : Request B),
    Changes family (fun v => count v = 0) (fun old new => count new = saturatingSucc (count old))
      (target r) b (exec b opcode r)

namespace Counter
section
variable {B : Type} [Backend B] (C : Counter B)

def field : Field B where
  family := C.family
  init v := C.count v = 0
  target := C.target
  put _ _ old new := C.count new = saturatingSucc (C.count old)
  changes := C.changes

/-- How many requests of a run are answered and name the object of `h`. -/
def successes (b : B) (h : Handle) (is : List Input) : Nat :=
  (log step b is).countP (C.field.hits h)

@[simp] theorem successes_nil (b : B) (h : Handle) : C.successes b h [] = 0 := rfl

end

variable {B : Type} [Backend B] [Described B] (C : Counter B)

theorem successes_snoc (before js : List Input) (h : Handle) (i : Input) :
    C.successes (stateAfter B before) h (js ++ [i]) = C.successes (stateAfter B before) h js +
      if C.field.hits h (i, (step (stateAfter B (before ++ js)) i).1) then 1 else 0 := by
  rw [successes, successes, log_snoc, List.countP_append, List.countP_singleton, final_stateAfter]

theorem successes_of_fresh (before js : List Input) (h : Handle)
    (hf : (table (stateAfter B (before ++ js)) C.family).phase h.key = .fresh) :
    C.successes (stateAfter B before) h js = 0 := by
  induction js using List.reverseRecOn with
  | nil => rfl
  | append_singleton js i ih =>
    rw [← List.append_assoc] at hf
    have hle := rank_le_stateAfter (B := B) (before ++ js) [i] C.family h.key
    rw [hf] at hle
    have hprev := Phase.eq_fresh_of_le hle
    rw [C.successes_snoc, ih hprev, if_neg fun hh => ?_]
    obtain ⟨r, old, new, -, hold, -⟩ := C.field.put_of_hits _ i h hh
    have hlive := (HandleTable.phase_eq_live _ h).mpr (Option.isSome_iff_exists.mpr ⟨old, hold⟩)
    rw [show (table (stateAfter B (before ++ js)) C.family).phase h.key = .live from hlive] at hprev
    cases hprev

theorem count_eq_successes (before js : List Input) (h : Handle) (v : Object C.family)
    (hn : (table (stateAfter B before) C.family).get h = none)
    (hv : (table (stateAfter B (before ++ js)) C.family).get h = some v) :
    (C.count v).toNat = min (2 ^ 32 - 1) (C.successes (stateAfter B before) h js) := by
  induction js using List.reverseRecOn generalizing v with
  | nil =>
    rw [List.append_nil, hn] at hv
    cases hv
  | append_singleton js i ih =>
    rw [← List.append_assoc] at hv
    rw [C.successes_snoc]
    have hlive := Option.isSome_iff_exists.mpr ⟨v, hv⟩
    rw [stateAfter_snoc] at hv
    obtain ⟨hnone, h0, hh⟩ | ⟨hsame, hh⟩ | ⟨r, old, -, hold, hp, hh⟩ :=
      C.field.get_step _ i h v (sound_stateAfter (before ++ js) C.family) hv
    · have hnone : (table (stateAfter B (before ++ js)) C.family).get h = none := hnone
      have hfresh := fresh_of_not_live (B := B) (before ++ js) [i] C.family h
        (by simp [HandleTable.isLive, hnone]) hlive
      rw [hh, C.successes_of_fresh before js h hfresh, show C.count v = 0 from h0]
      rfl
    · rw [hh, ih v hsame]
      rfl
    · rw [hh, if_pos rfl, show C.count v = saturatingSucc (C.count old) from hp,
        toNat_saturatingSucc, ih old hold]
      omega

/-- What a counter does over the runs of its backend. -/
structure Counts : Prop where
  /-- It is the number of answered requests that named its object since it was created. -/
  counted : ∀ before js h v, (table (stateAfter B before) C.family).get h = none →
    (table (stateAfter B (before ++ js)) C.family).get h = some v →
    (C.count v).toNat = min (2 ^ 32 - 1) (C.successes (stateAfter B before) h js)
  /-- A request that fails or names another object leaves it. -/
  kept : ∀ is i h v v', (table (stateAfter B is) C.family).get h = some v →
    (table (stateAfter B (is ++ [i])) C.family).get h = some v' →
    C.field.hits h (i, (step (stateAfter B is) i).1) = false → C.count v' = C.count v
  /-- An object in a reused slot starts from zero. -/
  reused : ∀ is i h slot free, (C.family, h) ∈ (event (stateAfter B is) i).returned →
    (table (stateAfter B is) C.family).free = slot :: free →
    h.slot = slot ∧ (table (stateAfter B is) C.family).get h = none ∧
      ∃ v, (table (stateAfter B (is ++ [i])) C.family).get h = some v ∧ C.count v = 0
  /-- So does one that no handle resolves to, and stays there. -/
  unreached : ∀ is, ∀ e ∈ (table (stateAfter B is) C.family).iter,
    (table (stateAfter B is) C.family).get e.1 = some e.2 ∨ C.count e.2 = 0

theorem counts : Counts C where
  counted := C.count_eq_successes
  kept is i h v v' hv hv' hh := by
    rw [stateAfter_snoc] at hv'
    obtain ⟨hnone, -⟩ | ⟨hsame, -⟩ | ⟨r, old, -, -, -, hh'⟩ :=
      C.field.get_step _ i h v' (sound_stateAfter is C.family) hv'
    · cases hv.symm.trans hnone
    · cases hv.symm.trans hsame
      rfl
    · rw [hh] at hh'
      cases hh'
  reused is i h slot free := C.field.reused is i h slot free
  unreached is := (C.field.unreached_stateAfter is).resolves

end Counter

def VkRequest.records : VkRequest → Option Handle
  | .cmdCopyBuffer req => some req.commandBuffer
  | .cmdDraw req => some req.commandBuffer
  | _ => none

theorem recorded_changes (b : VulkanBackend) (opcode : UInt32) (r : VkRequest) :
    Changes (B := VulkanBackend) VkFamily.commandBuffer
      (fun v : CommandBufferState => v.recorded = 0)
      (fun old new : CommandBufferState => new.recorded = saturatingSucc old.recorded)
      r.records b (b.exec opcode r) := by
  have hd := VkRequest.exec_did b opcode r
  cases r with
  | allocateCommandBuffer req => exact .guard fun _ => .create (B := VulkanBackend) _ _ rfl
  | cmdCopyBuffer req =>
    refine .guard fun _ => .update req.commandBuffer _
      fun old new reply hc => ?_
    cases hc
    rfl
  | cmdDraw req =>
    refine .update (B := VulkanBackend) (f := VkFamily.commandBuffer) req.commandBuffer _
      fun old new reply hc => ?_
    cases hc
    rfl
  | _ => exact .other (hd.table_ne _ fun h => by cases h)

def commandsRecorded : Counter VulkanBackend where
  family := VkFamily.commandBuffer
  count := fun v : CommandBufferState => v.recorded
  target := VkRequest.records
  changes := recorded_changes

def VideoRequest.decodes : VideoRequest → Option Handle
  | .decodeFrame req => some req.session
  | _ => none

def framesDecoded : Counter VideoBackend where
  family := VideoFamily.session
  count := fun v : VideoSessionState => v.frames
  target := VideoRequest.decodes
  changes b opcode r := by
    cases r with
    | createDecodeSession req => exact .create _ _ rfl
    | decodeFrame req =>
      refine .update req.session _ fun old new reply hc => ?_
      cases hc
      rfl
    | destroySession req => exact .destroy _ req.session

def AmfRequest.encodes : AmfRequest → Option Handle
  | .encodeFrame req => some req.encoder
  | _ => none

def framesEncoded : Counter AmfBackend where
  family := AmfFamily.encoder
  count := fun v : AmfEncoderState => v.frames
  target := AmfRequest.encodes
  changes b opcode r := by
    cases r with
    | createEncoder req => exact .create _ _ rfl
    | encodeFrame req =>
      refine .update req.encoder _ fun old new reply hc => ?_
      cases hc
      rfl
    | destroyEncoder req => exact .destroy _ req.encoder

theorem decode_frame_reply (b : VideoBackend) (i : Input) (req : Video.DecodeFrameRequest)
    (reply : Bytes) (hr : request VideoBackend i.1 i.2 = .ok (.decodeFrame req))
    (hok : (step b i).1 = .ok reply) :
    ∃ v, b.sessions.get req.session = some v ∧
      Video.DecodeFrameResponse.decode reply = .ok ⟨v.frames⟩ := by
  rw [step, handle_of_request_ok b _ _ _ hr] at hok
  obtain hu | ⟨old, new, reply', hold, hc, hu⟩ := update_cases b i.1 VideoFamily.session req.session
    fun state => some ({ state with frames := saturatingSucc state.frames },
      Video.DecodeFrameResponse.encode { frameIndex := state.frames })
  · have hok : (refuse b i.1).1 = .ok reply := hu ▸ hok
    cases hok
  · have hok : Except.ok reply' = .ok reply := (congrArg Prod.fst hu).symm.trans hok
    cases hok
    cases hc
    exact ⟨old, hold, Video.DecodeFrameResponse.decode_exact.self _ trivial⟩

/-- Every session, encoder and command buffer counts its own answered requests, and a session
answers with the number of frames decoded on it before. -/
theorem progress_counters :
    (framesDecoded.Counts ∧ framesEncoded.Counts ∧ commandsRecorded.Counts) ∧
      ∀ before js i req reply,
        (stateAfter VideoBackend before).sessions.get req.session = none →
        request VideoBackend i.1 i.2 = .ok (.decodeFrame req) →
        (step (stateAfter VideoBackend (before ++ js)) i).1 = .ok reply →
        ∃ response, Video.DecodeFrameResponse.decode reply = .ok response ∧
          response.frameIndex.toNat = min (2 ^ 32 - 1)
            (framesDecoded.successes (stateAfter VideoBackend before) req.session js) := by
  refine ⟨⟨framesDecoded.counts, framesEncoded.counts, commandsRecorded.counts⟩, ?_⟩
  intro before js i req reply hn hr hok
  obtain ⟨v, hv, hd⟩ := decode_frame_reply _ i req reply hr hok
  exact ⟨_, hd, framesDecoded.count_eq_successes before js req.session v hn hv⟩

end Graftx.Server
