import Graftx.Server.VkHistory
import Graftx.Server.References

/-! The Vulkan backend refines its history specification. The simulation relation ties all
eight tables to the history at once: which handles resolve, and which buffers are bound. -/
namespace Graftx.Server
open Graftx.Protocol Graftx.Protocol.Vk Graftx.Handles Lib.Machine

namespace VkHistory

section
variable (b : VulkanBackend) (opcode : UInt32) (r : VkRequest) (h : Handle)

theorem buffer_exec (v : BufferState) (hv : ((b.exec opcode r).2.table .buffer).get h = some v) :
    (∃ v₀ : BufferState, (b.table .buffer).get h = some v₀ ∧ (v.bound.isSome ↔ v₀.bound.isSome ∨
        (∃ reply, (b.exec opcode r).1 = .ok reply) ∧ ∃ h', binds r = some h' ∧ h'.key = h.key)) ∨
      v.bound = none ∧ binds r = none ∧ ∃ reply, (b.exec opcode r).1 = .ok reply ∧
        ∃ h', (VkFamily.buffer, h') ∈ r.returned reply ∧ h'.key = h.key := by
  have hd := VkRequest.exec_did b opcode r
  cases r with
  | createBuffer req =>
    simp only [VulkanBackend.exec] at hv ⊢
    split at hv
    · exact .inl ⟨v, hv, by simp [binds]⟩
    · rename_i hlive
      rw [if_neg hlive]
      obtain hold | ⟨rfl, hk⟩ := get_create b VkFamily.buffer _ v _ h hv
      · exact .inl ⟨v, hold, by simp [binds]⟩
      · refine .inr ⟨rfl, rfl, _, rfl, _, ?_, hk.symm⟩
        rw [VkRequest.returned,
          carried_ok _ _ _ _ (CreateBufferResponse.decode_exact.self _ trivial)]
        exact List.mem_singleton.mpr rfl
  | bindBufferMemory req =>
    simp only [VulkanBackend.exec] at hv ⊢
    split at hv
    · rename_i hnone
      rw [if_pos hnone]
      exact .inl ⟨v, hv, by simp⟩
    · rename_i hlive
      rw [if_neg hlive]
      obtain hu | ⟨old, new, reply, hold, hc, hu⟩ := update_cases b opcode VkFamily.buffer
        req.buffer fun state => state.bind req.memory req.offset
      · rw [hu] at hv ⊢
        exact .inl ⟨v, hv, by simp⟩
      · rw [hu] at hv ⊢
        have hv : (if h.key = req.buffer.key then some new else b.buffers.get h) = some v :=
          (b.buffers.get_store req.buffer h old new hold).symm.trans hv
        split at hv
        · rename_i hk
          cases hv
          refine .inl ⟨old, (b.buffers.get_congr h req.buffer hk).trans hold, ?_⟩
          rw [BufferState.bind] at hc
          split at hc
          · cases hc
            simp [binds, hk]
          · cases hc
        · rename_i hk
          exact .inl ⟨v, hv, by simp [binds, Ne.symm hk]⟩
  | destroyBuffer req =>
    exact .inl ⟨v, get_destroy b opcode VkFamily.buffer VkFamily.buffer _ h v hv, by simp [binds]⟩
  | _ =>
    have ht : (b.exec opcode _).2.table .buffer = b.table .buffer :=
      hd.table_ne _ fun h => by cases h
    rw [ht] at hv
    exact .inl ⟨v, hv, by simp [binds]⟩

theorem instance_exec (v : InstanceState)
    (hv : ((b.exec opcode r).2.table .inst).get h = some v) :
    (b.table .inst).get h = some v ∨ v.created = true := by
  have hd := VkRequest.exec_did b opcode r
  cases r with
  | createInstance req =>
    obtain hold | ⟨rfl, -⟩ := get_create b VkFamily.inst _ v _ h hv
    · exact .inl hold
    · exact .inr rfl
  | _ =>
    have ht : (b.exec opcode _).2.table .inst = b.table .inst := hd.table_ne _ fun h => by cases h
    rw [ht] at hv
    exact .inl hv

end

/-- The state stands as the history says. -/
structure Simulates (l : List Exchange) (b : VulkanBackend) : Prop where
  tables : AllTrack (l.map logged) b
  binding : ∀ h (v : BufferState), h.kind = VkFamily.buffer.kind → b.buffers.get h = some v →
    (v.bound.isSome ↔ BoundIn l h)
  bound_issued : ∀ h, BoundIn l h → IssuedIn l .buffer h
  instances : ∀ h (v : InstanceState), b.instances.get h = some v → v.created = true

theorem simulates_new : Simulates [] VulkanBackend.new where
  tables f := by
    rw [show table VulkanBackend.new f = HandleTable.new from Tables.table_empty f]
    exact Tracks.start
  binding _ _ _ hv := by cases hv
  bound_issued _ hb := by
    obtain ⟨e, he, -⟩ := hb
    cases he
  instances _ _ hv := by cases hv

section
variable {l : List Exchange} {b : VulkanBackend} {i : Input}

theorem namesIssued_of_roles (hn : NamesRoles l i) : NamesIssued (l.map logged) b i :=
  fun r hr u hu => (issued_logged l u.1 u.2).mpr (hn r hr u hu)

theorem fits_logged (hfits : ∀ f, createdIn l f < 2 ^ 32) (f : VkFamily) :
    created (l.map logged) f < 2 ^ 32 := by
  rw [created_logged]
  exact hfits f

theorem handed_step : handed (i, (step b i).1) = (event b i).returned :=
  congrArg (fun x : Input × Event VkFamily => x.2.returned) (logged_step b i)

theorem binds_used (r : VkRequest) (h : Handle) (hb : binds r = some h) :
    (VkFamily.buffer, h) ∈ r.uses := by
  cases r <;> cases hb
  simp [VkRequest.uses]

theorem step_request {r : VkRequest} (hr : request VulkanBackend i.1 i.2 = .ok r) :
    step b i = b.exec i.1 r := handle_of_request_ok b i.1 i.2 r hr

theorem Simulates.binding_step (hs : Simulates l b) (hfits : ∀ f, createdIn l f < 2 ^ 32)
    (hn : NamesRoles l i) (h : Handle) (v : BufferState) (hk : h.kind = VkFamily.buffer.kind)
    (hv : (step b i).2.buffers.get h = some v) :
    v.bound.isSome ↔ BoundIn (l ++ [(i, (step b i).1)]) h := by
  rw [BoundIn.snoc_iff]
  simp only [accepted_iff]
  cases hr : request VulkanBackend i.1 i.2 with
  | error e =>
    rw [step, handle_of_request_error b _ _ e hr] at hv
    rw [hs.binding h v hk hv]
    simp
  | ok r =>
    rw [step_request hr] at hv ⊢
    have hsame (h' : Handle) (hk' : h'.kind = VkFamily.buffer.kind) (hkey : h'.key = h.key) :
        h' = h := by
      obtain ⟨hslot, hgen⟩ := (Handle.key_eq_iff h' h).mp hkey
      exact Handle.ext_fields h' h (hk'.trans hk.symm) hgen hslot
    obtain ⟨v₀, hold, hiff⟩ | ⟨hnone, hbinds, reply, hok, h', hm, hkey⟩ :=
      buffer_exec b i.1 r h v hv
    · rw [hiff, hs.binding h v₀ hk hold]
      refine or_congr Iff.rfl ⟨?_, ?_⟩
      · rintro ⟨⟨reply, hok⟩, h', hb, hkey⟩
        have hi := (issued_logged l _ _).mpr (hn r hr _ (binds_used r h' hb))
        obtain rfl := hsame h' ((hs.tables VkFamily.buffer).kinds h' hi) hkey
        exact ⟨r, reply, ⟨rfl, hok⟩, hb⟩
      · rintro ⟨r', reply, ⟨hr', hok⟩, hb⟩
        cases hr'
        exact ⟨⟨reply, hok⟩, h, hb, rfl⟩
    · have ha : accepted (i, (step b i).1) = some (r, reply) :=
        (accepted_iff _ r reply).mpr ⟨hr, (congrArg Prod.fst (step_request hr)).trans hok⟩
      have hm' : (VkFamily.buffer, h') ∈ (event b i).returned := by
        rw [← handed_step, handed, ha]
        exact hm
      obtain rfl := hsame h' (kind_of_returned b i VkFamily.buffer h' hm') hkey
      have hnew := never_issued _ b i hs.tables (fits_logged hfits) VkFamily.buffer VkFamily.buffer
        h' hm'
      rw [issued_logged] at hnew
      refine iff_of_false (by simp [hnone]) ?_
      rintro (hb | ⟨r', reply', ⟨hr', -⟩, hb⟩)
      · exact hnew (hs.bound_issued h' hb)
      · cases hr'
        rw [hbinds] at hb
        cases hb

theorem Simulates.step (hs : Simulates l b) (hfits : ∀ f, createdIn l f < 2 ^ 32)
    (hn : NamesRoles l i) : Simulates (l ++ [(i, (Server.step b i).1)]) (Server.step b i).2 where
  tables := by
    rw [List.map_append, List.map_singleton, logged_step]
    exact allTrack_step _ b i hs.tables (fits_logged hfits) (namesIssued_of_roles hn)
  binding := hs.binding_step hfits hn
  bound_issued h hb := by
    have hi : IssuedIn l .buffer h := by
      obtain hb | ⟨r, reply, ha, hb⟩ := (BoundIn.snoc_iff _ _ h).mp hb
      · exact hs.bound_issued h hb
      · exact hn r ((accepted_iff _ r reply).mp ha).1 _ (binds_used r h hb)
    obtain ⟨e, he, hm⟩ := hi
    exact ⟨e, List.mem_append_left _ he, hm⟩
  instances h v hv := by
    cases hr : request VulkanBackend i.1 i.2 with
    | error e =>
      rw [Server.step, handle_of_request_error b _ _ e hr] at hv
      exact hs.instances h v hv
    | ok r =>
      rw [step_request hr] at hv
      obtain hold | hnew := instance_exec b i.1 r h v hv
      · exact hs.instances h v hold
      · exact hnew

end

section
variable {l : List Exchange} {b : VulkanBackend} {i : Input}

theorem Simulates.destroyedIn_iff (hs : Simulates l b) (f : VkFamily) (h : Handle)
    (hi : IssuedIn l f h) : DestroyedIn l h ↔ Destroyed (l.map logged) f h := by
  have hi := (issued_logged l f h).mpr hi
  rw [VkHistory.destroyedIn_iff]
  constructor
  · rintro ⟨g, hd⟩
    have hg := (hs.tables g).kinds h ((hs.tables g).destroyed_issued h hd)
    have hf := (hs.tables f).kinds h hi
    obtain rfl : g = f := Tables.kind_inj (B := VulkanBackend) g f (hg.symm.trans hf)
    exact hd
  · exact fun hd => ⟨f, hd⟩

theorem Simulates.isLive_iff (hs : Simulates l b) (f : VkFamily) (h : Handle)
    (hi : IssuedIn l f h) : (b.table f).isLive h ↔ ¬ DestroyedIn l h := by
  rw [hs.destroyedIn_iff f h hi]
  exact (hs.tables f).isLive_iff h ((issued_logged l f h).mpr hi)

theorem Simulates.extra_iff (hs : Simulates l b) (r : VkRequest)
    (hn : ∀ u ∈ r.uses, IssuedIn l u.1 u.2) (hl : ∀ u ∈ r.uses, (b.table u.1).isLive u.2) :
    r.extra b ↔ ∀ h, binds r = some h → ¬ BoundIn l h := by
  cases r with
  | enumeratePhysicalDevices req =>
    have hlive := hl (.inst, req.inst) (List.mem_singleton.mpr rfl)
    obtain ⟨v, hv⟩ := Option.isSome_iff_exists.mp hlive
    have hv : b.instances.get req.inst = some v := hv
    simp [VkRequest.extra, binds, hv, hs.instances req.inst v hv]
  | bindBufferMemory req =>
    have hu : (VkFamily.buffer, req.buffer) ∈ (VkRequest.bindBufferMemory req).uses :=
      binds_used _ _ rfl
    obtain ⟨v, hv⟩ := Option.isSome_iff_exists.mp (hl _ hu)
    have hv : b.buffers.get req.buffer = some v := hv
    have hk := (hs.tables VkFamily.buffer).kinds req.buffer ((issued_logged l _ _).mpr (hn _ hu))
    have hb := hs.binding req.buffer v hk hv
    simp [VkRequest.extra, binds, hv, ← hb]
  | _ => simp [VkRequest.extra, binds]

theorem Simulates.admits_iff (hs : Simulates l b) (r : VkRequest)
    (hn : ∀ u ∈ r.uses, IssuedIn l u.1 u.2) :
    admits b r ↔ (∀ u ∈ r.uses, ¬ DestroyedIn l u.2) ∧ ∀ h, binds r = some h → ¬ BoundIn l h := by
  have hlive : (∀ u ∈ r.uses, (b.table u.1).isLive u.2) ↔ ∀ u ∈ r.uses, ¬ DestroyedIn l u.2 :=
    forall₂_congr fun u hu => hs.isLive_iff u.1 u.2 (hn u hu)
  change (r.uses.all (fun u => (b.table u.1).isLive u.2) && r.extra b) = true ↔ _
  rw [Bool.and_eq_true, List.all_eq_true, ← hlive]
  exact and_congr_right fun hl => hs.extra_iff r hn hl

/-- The next request is answered as the history says. -/
theorem Simulates.answered (hs : Simulates l b) (hn : NamesRoles l i) :
    (∃ reply, (Server.step b i).1 = .ok reply) ↔ Accepts l i := by
  rw [Accepts, ← request_ok_iff]
  cases hr : request VulkanBackend i.1 i.2 with
  | error e => simp [Server.step, handle_of_request_error b _ _ e hr]
  | ok r =>
    rw [answered_iff b i r hr, hs.admits_iff r (hn r hr)]
    simp

theorem Simulates.allows (hs : Simulates l b) (hfits : ∀ f, createdIn l f < 2 ^ 32)
    (hn : NamesRoles l i) : Allows l (i, (Server.step b i).1) where
  answered := hs.answered hn
  issues r reply f ha he := by
    obtain ⟨hr, hok⟩ := (accepted_iff _ r reply).mp ha
    have hok : (b.exec i.1 r).1 = .ok reply := (congrArg Prod.fst (step_request hr)).symm.trans hok
    obtain ⟨h, hret⟩ := (he ▸ VkRequest.exec_did b i.1 r).returned_of_create hok
    have hh : handed (i, (Server.step b i).1) = [(f, h)] := by
      rw [handed, ha]
      exact hret
    have hm : (f, h) ∈ (event b i).returned := by
      rw [← handed_step, hh]
      exact List.mem_singleton.mpr rfl
    refine ⟨h, hh, kind_of_returned b i f h hm, fun g hg => ?_⟩
    exact never_issued _ b i hs.tables (fits_logged hfits) f g h hm ((issued_logged l g h).mpr hg)

end

theorem createdIn_le_append (l l' : List Exchange) (f : VkFamily) :
    createdIn l f ≤ createdIn (l ++ l') f := by
  rw [createdIn, createdIn, List.flatMap_append, List.countP_append]
  exact Nat.le_add_right _ _

/-- Every run whose handle arguments keep their roles, and that creates fewer than `2 ^ 32`
objects of each family, goes as the specification says. -/
theorem refines_history (is : List Input)
    (hroles : Along (fun l e => NamesRoles l e.1) (history is))
    (hfits : ∀ f, createdIn (history is) f < 2 ^ 32) : Along Allows (history is) := by
  have hreq : Along (fun l e => NamesRoles l e.1 ∧ ∀ f, createdIn l f < 2 ^ 32) (history is) := by
    intro l e l' he
    refine ⟨hroles l e l' he, fun f => Nat.lt_of_le_of_lt ?_ (hfits f)⟩
    rw [he]
    exact createdIn_le_append l _ f
  refine (run_simulates VulkanBackend.new simulates_new ?_ is hreq).1
  intro l b i hs hi
  exact ⟨hs.allows hi.2 hi.1, hs.step hi.2 hi.1⟩

def destroyedTwice : List Input :=
  [(VkOp.createInstance, (CreateInstanceRequest.mk 0).encode),
    (VkOp.enumeratePhysicalDevices, (EnumeratePhysicalDevicesRequest.mk (Handle.new 1 0 0)).encode),
    (VkOp.createDevice, (CreateDeviceRequest.mk (Handle.new 2 0 0)).encode),
    (VkOp.createBuffer, (CreateBufferRequest.mk (Handle.new 3 0 0) 64 0).encode),
    (VkOp.destroyBuffer, (DestroyBufferRequest.mk (Handle.new 6 0 0)).encode),
    (VkOp.destroyBuffer, (DestroyBufferRequest.mk (Handle.new 6 0 0)).encode)]

theorem refines_history_destroyed_twice : Along Allows (history destroyedTwice) :=
  refines_history destroyedTwice (by decide +kernel) fun f => by cases f <;> decide +kernel

end VkHistory
end Graftx.Server
