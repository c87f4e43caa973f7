import Graftx.Server.Tracking
import Graftx.Server.Vulkan

/-! The Vulkan backend seen from outside. A history is the list of requests with their
answers; the specification says from the history alone which request is answered next and
which handles a reply may carry. Nothing in it mentions tables, slots or generations. -/
namespace Graftx.Server
open Graftx.Protocol Graftx.Protocol.Vk Graftx.Handles Lib.Machine

abbrev Exchange := Input × Except ProtocolError Bytes

namespace VkHistory

/-- The bytes the fields of a request take, for the implemented opcodes. -/
def fieldBytes (opcode : UInt32) : Option Nat :=
  if opcode = VkOp.createInstance then some 4
  else if opcode = VkOp.enumeratePhysicalDevices then some 8
  else if opcode = VkOp.createDevice then some 8
  else if opcode = VkOp.getDeviceQueue then some 16
  else if opcode = VkOp.allocateMemory then some 16
  else if opcode = VkOp.createBuffer then some 20
  else if opcode = VkOp.bindBufferMemory then some 24
  else if opcode = VkOp.createCommandPool then some 12
  else if opcode = VkOp.allocateCommandBuffer then some 8
  else if opcode = VkOp.queueSubmit then some 16
  else if opcode = VkOp.cmdCopyBuffer then some 32
  else if opcode = VkOp.cmdDraw then some 16
  else if opcode = VkOp.destroyBuffer then some 8
  else if opcode = VkOp.freeMemory then some 8
  else if opcode = VkOp.destroyCommandPool then some 8
  else none

def destroys : VkRequest → Option Handle
  | .destroyBuffer req => some req.buffer
  | .freeMemory req => some req.memory
  | .destroyCommandPool req => some req.pool
  | _ => none

def binds : VkRequest → Option Handle
  | .bindBufferMemory req => some req.buffer
  | _ => none

def accepted (e : Exchange) : Option (VkRequest × Bytes) :=
  match request VulkanBackend e.1.1 e.1.2, e.2 with
  | .ok r, .ok reply => some (r, reply)
  | _, _ => none

def handed (e : Exchange) : List (VkFamily × Handle) :=
  match accepted e with
  | some (r, reply) => r.returned reply
  | none => []

def IssuedIn (l : List Exchange) (f : VkFamily) (h : Handle) : Prop := ∃ e ∈ l, (f, h) ∈ handed e

def DestroyedIn (l : List Exchange) (h : Handle) : Prop :=
  ∃ e ∈ l, ∃ r reply, accepted e = some (r, reply) ∧ destroys r = some h

def BoundIn (l : List Exchange) (h : Handle) : Prop :=
  ∃ e ∈ l, ∃ r reply, accepted e = some (r, reply) ∧ binds r = some h

def createdIn (l : List Exchange) (f : VkFamily) : Nat :=
  (l.flatMap handed).countP fun p => p.1 = f

/-- Every handle argument was returned before, for the role it is used in. -/
def NamesRoles (l : List Exchange) (i : Input) : Prop :=
  ∀ r, request VulkanBackend i.1 i.2 = .ok r → ∀ u ∈ r.uses, IssuedIn l u.1 u.2

instance (l : List Exchange) (f : VkFamily) (h : Handle) : Decidable (IssuedIn l f h) :=
  inferInstanceAs (Decidable (∃ e ∈ l, (f, h) ∈ handed e))

instance (l : List Exchange) (i : Input) : Decidable (NamesRoles l i) :=
  match hr : request VulkanBackend i.1 i.2 with
  | .error _ => isTrue fun _ h => by rw [hr] at h; cases h
  | .ok r => decidable_of_iff (∀ u ∈ r.uses, IssuedIn l u.1 u.2)
      ⟨fun h r' hr' => by rw [hr] at hr'; cases hr'; exact h, fun h => h r hr⟩

/-- The request is implemented, long enough, names nothing destroyed and binds no buffer
a second time. -/
def Accepts (l : List Exchange) (i : Input) : Prop :=
  (∃ n, fieldBytes i.1 = some n ∧ n ≤ i.2.length) ∧
    ∀ r, request VulkanBackend i.1 i.2 = .ok r →
      (∀ u ∈ r.uses, ¬ DestroyedIn l u.2) ∧ ∀ h, binds r = some h → ¬ BoundIn l h

/-- What the specification allows after the history `l`. -/
structure Allows (l : List Exchange) (e : Exchange) : Prop where
  answered : (∃ reply, e.2 = .ok reply) ↔ Accepts l e.1
  issues : ∀ r reply f, accepted e = some (r, reply) → r.effect = .create f →
    ∃ h, handed e = [(f, h)] ∧ h.kind = f.kind ∧ ∀ g, ¬ IssuedIn l g h

def history (is : List Input) : List Exchange := log step VulkanBackend.new is

def logged (e : Exchange) : Input × Event VkFamily :=
  (e.1, ⟨handed e, (accepted e).bind fun p => p.1.effect.destroyed⟩)

section Views
variable (l : List Exchange) (f : VkFamily) (h : Handle)

theorem issued_logged : Issued (l.map logged) f h ↔ IssuedIn l f h := by
  simp [Issued, IssuedIn, logged]

theorem created_logged : created (l.map logged) f = createdIn l f := by
  rw [created, createdIn, List.flatMap_map]
  rfl

theorem destroys_eq (r : VkRequest) : destroys r = r.effect.destroyed.map Prod.snd := by
  cases r <;> rfl

theorem destroyedIn_iff : DestroyedIn l h ↔ ∃ g, Destroyed (l.map logged) g h := by
  constructor
  · rintro ⟨e, he, r, reply, ha, hd⟩
    rw [destroys_eq, Option.map_eq_some_iff] at hd
    obtain ⟨⟨g, h'⟩, hd, rfl⟩ := hd
    exact ⟨g, logged e, List.mem_map_of_mem he, by simp only [logged, ha, Option.bind_some, hd]⟩
  · rintro ⟨g, e', he', hd⟩
    obtain ⟨e, he, rfl⟩ := List.mem_map.mp he'
    obtain ⟨⟨r, reply⟩, ha, hd⟩ := Option.bind_eq_some_iff.mp hd
    exact ⟨e, he, r, reply, ha, by rw [destroys_eq, hd]; rfl⟩

end Views

theorem logged_step (b : VulkanBackend) (i : Input) :
    logged (i, (step b i).1) = (i, event b i) := by
  simp only [logged, handed, accepted, event]
  cases hr : request VulkanBackend i.1 i.2 with
  | error e => rfl
  | ok r =>
    rw [step, handle_of_request_ok b _ _ r hr]
    dsimp only
    cases (Backend.exec b i.1 r).1 with
    | error e => rfl
    | ok reply => rfl

theorem decodes_arm {α : Type} {decode : Bytes → Except ProtocolError α} {encode : α → Bytes}
    {k : Nat} (h : ExactBody decode encode k) {c : Prop} [Decidable c] (mk : α → VkRequest)
    {body : Bytes} {rest : Except ProtocolError VkRequest} {m : Option Nat}
    (hrest : (∃ r, rest = .ok r) ↔ ∃ n, m = some n ∧ n ≤ body.length) :
    (∃ r, (if c then mk <$> decode body else rest) = .ok r) ↔
      ∃ n, (if c then some k else m) = some n ∧ n ≤ body.length := by
  split
  · simp only [Option.some.injEq, exists_eq_left', ← h.ok_iff body]
    cases decode body with
    | ok a => exact iff_of_true ⟨mk a, rfl⟩ ⟨a, rfl⟩
    | error e => exact iff_of_false (by rintro ⟨r, hr⟩; cases hr) (by rintro ⟨a, ha⟩; cases ha)
  · exact hrest

theorem decode_ok_iff (opcode : UInt32) (body : Bytes) :
    (∃ r, VkRequest.decode opcode body = .ok r) ↔
      ∃ n, fieldBytes opcode = some n ∧ n ≤ body.length := by
  unfold VkRequest.decode fieldBytes
  refine decodes_arm CreateInstanceRequest.decode_exact _ ?_
  refine decodes_arm EnumeratePhysicalDevicesRequest.decode_exact _ ?_
  refine decodes_arm CreateDeviceRequest.decode_exact _ ?_
  refine decodes_arm GetDeviceQueueRequest.decode_exact _ ?_
  refine decodes_arm AllocateMemoryRequest.decode_exact _ ?_
  refine decodes_arm CreateBufferRequest.decode_exact _ ?_
  refine decodes_arm BindBufferMemoryRequest.decode_exact _ ?_
  refine decodes_arm CreateCommandPoolRequest.decode_exact _ ?_
  refine decodes_arm AllocateCommandBufferRequest.decode_exact _ ?_
  refine decodes_arm QueueSubmitRequest.decode_exact _ ?_
  refine decodes_arm CmdCopyBufferRequest.decode_exact _ ?_
  refine decodes_arm CmdDrawRequest.decode_exact _ ?_
  refine decodes_arm DestroyBufferRequest.decode_exact _ ?_
  refine decodes_arm FreeMemoryRequest.decode_exact _ ?_
  refine decodes_arm DestroyCommandPoolRequest.decode_exact _ ?_
  exact iff_of_false nofun nofun

theorem ite_some_imp {c : Prop} [Decidable c] {P : Prop} {k n : Nat} {m : Option Nat} (hc : c → P)
    (hm : m = some n → P) (h : (if c then some k else m) = some n) : P := by
  by_cases hp : c
  · exact hc hp
  · rw [if_neg hp] at h
    exact hm h

theorem vk_of_fieldBytes (opcode : UInt32) (n : Nat) :
    fieldBytes opcode = some n → opcodeApi opcode = (api VulkanBackend).byte := by
  unfold fieldBytes
  iterate 15 refine ite_some_imp (by rintro rfl; rfl) ?_
  exact nofun

theorem request_ok_iff (i : Input) : (∃ r, request VulkanBackend i.1 i.2 = .ok r) ↔
    ∃ n, fieldBytes i.1 = some n ∧ n ≤ i.2.length := by
  rw [request]
  split
  · rename_i hne
    refine iff_of_false (by simp) ?_
    rintro ⟨n, hn, -⟩
    exact hne (vk_of_fieldBytes i.1 n hn)
  · exact decode_ok_iff i.1 i.2

theorem accepted_iff (e : Exchange) (r : VkRequest) (reply : Bytes) :
    accepted e = some (r, reply) ↔
      request VulkanBackend e.1.1 e.1.2 = .ok r ∧ e.2 = .ok reply := by
  rw [accepted]
  split
  · rename_i hr he
    simp [hr, he]
  · rename_i hno
    refine iff_of_false nofun ?_
    rintro ⟨hr, he⟩
    exact hno r reply hr he

theorem BoundIn.snoc_iff (l : List Exchange) (e : Exchange) (h : Handle) :
    BoundIn (l ++ [e]) h ↔
      BoundIn l h ∨ ∃ r reply, accepted e = some (r, reply) ∧ binds r = some h := by
  simp [BoundIn, or_and_right, exists_or]

end VkHistory
end Graftx.Server
