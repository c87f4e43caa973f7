import Graftx.Server.Lifetimes
import Graftx.Server.VkHistory

/-! A buffer is bound once. The memory and the offset are written by the one bind that finds
the buffer unbound, and stay until the buffer is destroyed. -/
namespace Graftx.Server
open Graftx.Protocol Graftx.Protocol.Vk Graftx.Handles Lib.Machine

/-- What an answered bind writes: an unbound buffer gets a memory that resolves. -/
def bindPut (b : VulkanBackend) (r : VkRequest) (old new : BufferState) : Prop :=
  ∃ req, r = .bindBufferMemory req ∧ b.memories.isLive req.memory ∧ old.bound = none ∧
    new.bound = some (req.memory, req.offset)

theorem buffer_changes (b : VulkanBackend) (opcode : UInt32) (r : VkRequest) :
    Changes (B := VulkanBackend) VkFamily.buffer (fun v : BufferState => v.bound = none)
      (bindPut b r) (VkHistory.binds r) b (b.exec opcode r) := by
  have hd := VkRequest.exec_did b opcode r
  cases r with
  | createBuffer req => exact .guard fun _ => .create _ _ rfl
  | bindBufferMemory req =>
    refine .guard fun hlive => .update req.buffer _ fun old new reply hc => ?_
    refine ⟨req, rfl, b.memories.isLive_of_not_isNone _ hlive, ?_⟩
    rw [BufferState.bind] at hc
    split at hc
    · rename_i hnone
      cases hc
      exact ⟨Option.isNone_iff_eq_none.mp hnone, rfl⟩
    · cases hc
  | destroyBuffer req => exact .destroy _ req.buffer
  | _ => exact .other (hd.table_ne _ fun h => by cases h)

def bufferBinding : Field VulkanBackend where
  family := VkFamily.buffer
  init := fun v : BufferState => v.bound = none
  target := VkHistory.binds
  put := bindPut
  changes := buffer_changes

/-- In state `b` the input is a BIND_BUFFER_MEMORY that succeeds: it names the buffer of `h`,
with memory `m` and offset `o`. -/
def Binds (b : VulkanBackend) (i : Input) (h m : Handle) (o : UInt64) : Prop :=
  ∃ req reply, request VulkanBackend i.1 i.2 = .ok (.bindBufferMemory req) ∧
    (step b i).1 = .ok reply ∧ req.buffer.key = h.key ∧ req.memory = m ∧ req.offset = o

def DestroysBuffer (b : VulkanBackend) (i : Input) (h : Handle) : Prop :=
  ∃ req reply, request VulkanBackend i.1 i.2 = .ok (.destroyBuffer req) ∧
    (step b i).1 = .ok reply ∧ req.buffer.key = h.key

section
variable {b : VulkanBackend} {i : Input} {h : Handle}

theorem binds_of_hits (hh : bufferBinding.hits h (i, (step b i).1)) (r : VkRequest)
    (hr : request VulkanBackend i.1 i.2 = .ok r) (old new : BufferState)
    (hp : bindPut b r old new) : ∃ m o, Binds b i h m o ∧ b.memories.isLive m ∧
      old.bound = none ∧ new.bound = some (m, o) := by
  obtain ⟨r', reply, h', hr', hok, ht, hk⟩ := (bufferBinding.hits_iff h _).mp hh
  cases hr.symm.trans hr'
  obtain ⟨req, rfl, hlive, hold, hnew⟩ := hp
  cases ht
  exact ⟨req.memory, req.offset, ⟨req, reply, hr, hok, hk, rfl, rfl⟩, hlive, hold, hnew⟩

end

section
variable (is : List Input)

theorem binding_step (i : Input) (h : Handle) (v : BufferState)
    (hv : (stateAfter VulkanBackend (is ++ [i])).buffers.get h = some v) :
    ((stateAfter VulkanBackend is).buffers.get h = none ∧ v.bound = none) ∨
      (stateAfter VulkanBackend is).buffers.get h = some v ∨
      ∃ old m o, (stateAfter VulkanBackend is).buffers.get h = some old ∧ old.bound = none ∧
        v.bound = some (m, o) ∧ Binds (stateAfter VulkanBackend is) i h m o ∧
        (stateAfter VulkanBackend is).memories.isLive m := by
  rw [stateAfter_snoc] at hv
  obtain ⟨hnone, hi, -⟩ | ⟨hsame, -⟩ | ⟨r, old, hr, hold, hp, hh⟩ :=
    bufferBinding.get_step _ i h v (sound_stateAfter is _) hv
  · exact .inl ⟨hnone, hi⟩
  · exact .inr (.inl hsame)
  · obtain ⟨m, o, hb, hm, hnone, hsome⟩ := binds_of_hits hh r hr old v hp
    exact .inr (.inr ⟨old, m, o, hold, hnone, hsome, hb, hm⟩)

theorem bound_kept (js : List Input) (h : Handle) (v v' : BufferState) (p : Handle × UInt64)
    (hv : (stateAfter VulkanBackend is).buffers.get h = some v) (hb : v.bound = some p)
    (hv' : (stateAfter VulkanBackend (is ++ js)).buffers.get h = some v') : v'.bound = some p := by
  induction js using List.reverseRecOn generalizing v' with
  | nil =>
    rw [List.append_nil, hv] at hv'
    cases hv'
    exact hb
  | append_singleton js j ih =>
    rw [← List.append_assoc] at hv'
    have hlive := live_between (B := VulkanBackend) is js [j] VkFamily.buffer h
      (Option.isSome_iff_exists.mpr ⟨v, hv⟩) (Option.isSome_iff_exists.mpr ⟨v', hv'⟩)
    obtain ⟨old, hold⟩ := Option.isSome_iff_exists.mp hlive
    have hold : (stateAfter VulkanBackend (is ++ js)).buffers.get h = some old := hold
    have hsome := ih old hold
    obtain ⟨hnone, -⟩ | hsame | ⟨old', m, o, hold', hnone, -⟩ := binding_step _ j h v' hv'
    · rw [hnone] at hold
      cases hold
    · rw [hold] at hsame
      cases hsame
      exact hsome
    · rw [hold] at hold'
      cases hold'
      rw [hsome] at hnone
      cases hnone

theorem bound_of_binds (i : Input) (h m : Handle) (o : UInt64)
    (hb : Binds (stateAfter VulkanBackend is) i h m o) :
    ∃ old v, (stateAfter VulkanBackend is).buffers.get h = some old ∧ old.bound = none ∧
      (stateAfter VulkanBackend (is ++ [i])).buffers.get h = some v ∧ v.bound = some (m, o) := by
  obtain ⟨req, reply, hr, hok, hk, rfl, rfl⟩ := hb
  obtain ⟨r, old, v, hr', hold, hv, req', rfl, -, hnone, hsome⟩ := bufferBinding.put_of_hits _ i h
    ((bufferBinding.hits_iff h _).mpr ⟨_, reply, req.buffer, hr, hok, rfl, hk⟩)
  cases hr.symm.trans hr'
  exact ⟨old, v, hold, hnone, by rw [stateAfter_snoc]; exact hv, hsome⟩

theorem not_binds_later (i : Input) (js : List Input) (j : Input) (h m m' : Handle)
    (o o' : UInt64) (hb : Binds (stateAfter VulkanBackend is) i h m o) :
    ¬ Binds (stateAfter VulkanBackend (is ++ i :: js)) j h m' o' := by
  intro hb'
  obtain ⟨-, v, -, -, hv, hsome⟩ := bound_of_binds is i h m o hb
  obtain ⟨old, -, hold, hnone, -⟩ := bound_of_binds _ j h m' o' hb'
  rw [List.append_cons] at hold
  rw [bound_kept (is ++ [i]) js h v old (m, o) hv hsome hold] at hnone
  cases hnone

theorem bind_unique (is' after after' : List Input) (i i' : Input) (h m m' : Handle) (o o' : UInt64)
    (he : is ++ i :: after = is' ++ i' :: after') (hb : Binds (stateAfter VulkanBackend is) i h m o)
    (hb' : Binds (stateAfter VulkanBackend is') i' h m' o') : is' = is := by
  obtain ⟨mid, rfl, hmid⟩ | ⟨mid, rfl, hmid⟩ := List.append_eq_append_iff.mp he
  · cases mid with
    | nil => exact List.append_nil is
    | cons j mid =>
      cases hmid
      exact absurd hb' (not_binds_later is i mid i' h m m' o o' hb)
  · cases mid with
    | nil => exact (List.append_nil is').symm
    | cons j mid =>
      cases hmid
      exact absurd hb (not_binds_later is' i' mid i h m' m o' o hb')

theorem bind_of_bound (h m : Handle) (o : UInt64) (v : BufferState)
    (hv : (stateAfter VulkanBackend is).buffers.get h = some v) (hb : v.bound = some (m, o)) :
    ∃ before i after, is = before ++ i :: after ∧
      Binds (stateAfter VulkanBackend before) i h m o ∧
      (stateAfter VulkanBackend before).memories.isLive m := by
  induction is using List.reverseRecOn generalizing v with
  | nil => cases hv
  | append_singleton is i ih =>
    obtain ⟨-, hnone⟩ | hsame | ⟨old, m', o', -, -, hsome, hbind, hm⟩ := binding_step is i h v hv
    · rw [hb] at hnone
      cases hnone
    · obtain ⟨before, j, after, rfl, hrest⟩ := ih v hsame hb
      exact ⟨before, j, after ++ [i], by simp, hrest⟩
    · rw [hb] at hsome
      cases hsome
      exact ⟨is, i, [], rfl, hbind, hm⟩

theorem destroysBuffer_of_lost (b : VulkanBackend) (i : Input) (h : Handle)
    (hl : b.buffers.isLive h) (hn : ¬ (step b i).2.buffers.isLive h) : DestroysBuffer b i h := by
  obtain ⟨h', hd, hk⟩ := destroyed_of_lost b i VkFamily.buffer h hl hn
  obtain ⟨r, reply, hr, hok, he⟩ := effect_of_destroyed b i VkFamily.buffer h' hd
  have he : VkRequest.effect r = .destroy .buffer h' := he
  cases r <;> cases he
  exact ⟨_, reply, hr, hok, hk⟩

theorem bound_until_destroyed (js : List Input) (h : Handle) (v : BufferState)
    (p : Handle × UInt64) (hv : (stateAfter VulkanBackend is).buffers.get h = some v)
    (hb : v.bound = some p) (hno : ∀ mid j rest, js = mid ++ j :: rest →
      ¬ DestroysBuffer (stateAfter VulkanBackend (is ++ mid)) j h) :
    ∃ v', (stateAfter VulkanBackend (is ++ js)).buffers.get h = some v' ∧ v'.bound = some p := by
  have hlive : (stateAfter VulkanBackend (is ++ js)).buffers.isLive h := by
    induction js using List.reverseRecOn with
    | nil => exact Option.isSome_iff_exists.mpr ⟨v, by rw [List.append_nil, hv]⟩
    | append_singleton js j ih =>
      have hprev := ih fun mid k rest he => hno mid k (rest ++ [j]) (by simp [he])
      by_contra hlost
      rw [← List.append_assoc, stateAfter_snoc] at hlost
      exact hno js j [] rfl (destroysBuffer_of_lost _ j h hprev hlost)
  obtain ⟨v', hv'⟩ := Option.isSome_iff_exists.mp hlive
  exact ⟨v', hv', bound_kept is js h v v' p hv hb hv'⟩

end

/-- What the bindings of buffers do in a run. -/
structure BoundOnce (is : List Input) : Prop where
  /-- A binding was written by one bind of the run, while its memory resolved; no other bind of
  the run names the buffer and succeeds. -/
  once : ∀ h v m o, (stateAfter VulkanBackend is).buffers.get h = some v → v.bound = some (m, o) →
    ∃ before i after, is = before ++ i :: after ∧
      Binds (stateAfter VulkanBackend before) i h m o ∧
      (stateAfter VulkanBackend before).memories.isLive m ∧
      ∀ before' i' after' m' o', is = before' ++ i' :: after' →
        Binds (stateAfter VulkanBackend before') i' h m' o' → before' = before
  /-- However the run goes on, it stays until a destroy of the buffer succeeds. -/
  kept : ∀ js h v p, (stateAfter VulkanBackend is).buffers.get h = some v → v.bound = some p →
    (∀ mid j rest, js = mid ++ j :: rest →
      ¬ DestroysBuffer (stateAfter VulkanBackend (is ++ mid)) j h) →
    ∃ v', (stateAfter VulkanBackend (is ++ js)).buffers.get h = some v' ∧ v'.bound = some p
  /-- A bind that fails changes no buffer. -/
  failed : ∀ (i : Input) e, i.1 = VkOp.bindBufferMemory →
    (step (stateAfter VulkanBackend is) i).1 = .error e →
    (stateAfter VulkanBackend (is ++ [i])).buffers = (stateAfter VulkanBackend is).buffers
  /-- A buffer that comes to resolve is unbound, -/
  fresh : ∀ i h v, (stateAfter VulkanBackend is).buffers.get h = none →
    (stateAfter VulkanBackend (is ++ [i])).buffers.get h = some v → v.bound = none
  /-- and one created in a reused slot does come to resolve. -/
  reused : ∀ i h slot free,
    (VkFamily.buffer, h) ∈ (event (stateAfter VulkanBackend is) i).returned →
    (stateAfter VulkanBackend is).buffers.free = slot :: free →
    h.slot = slot ∧ (stateAfter VulkanBackend is).buffers.get h = none ∧
      ∃ v, (stateAfter VulkanBackend (is ++ [i])).buffers.get h = some v ∧ v.bound = none
  /-- A buffer of the table that its handle does not resolve to is unbound. -/
  unreached : ∀ e ∈ (stateAfter VulkanBackend is).buffers.iter,
    (stateAfter VulkanBackend is).buffers.get e.1 = some e.2 ∨ e.2.bound = none

/-- A buffer is bound at most once, in every run of the backend. -/
theorem bound_once (is : List Input) : BoundOnce is where
  once h v m o hv hb := by
    obtain ⟨before, i, after, rfl, hbind, hm⟩ := bind_of_bound is h m o v hv hb
    exact ⟨before, i, after, rfl, hbind, hm, fun before' i' after' m' o' he hb' =>
      bind_unique before before' after after' i i' h m m' o o' he hbind hb'⟩
  kept js h v p hv hb hno := bound_until_destroyed is js h v p hv hb hno
  failed i e _ he := by rw [stateAfter_snoc, step_error _ i e he]
  fresh i h v hn hv := by
    obtain ⟨-, hb⟩ | hsame | ⟨old, m, o, hold, -⟩ := binding_step is i h v hv
    · exact hb
    · rw [hn] at hsame
      cases hsame
    · rw [hn] at hold
      cases hold
  reused i h slot free hm hfree := bufferBinding.reused is i h slot free hm hfree
  unreached e he := (bufferBinding.unreached_stateAfter is).resolves e he

end Graftx.Server
