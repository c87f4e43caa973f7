import Graftx.Server.BufferBinding
import Graftx.Server.VkRefinement
import Graftx.Server.Compute
import Graftx.Server.Media
import Graftx.Server.Optix
import Graftx.Handles.WellFormed

/-! What a backend holds at any moment, read off its log, whatever its clients ask for: the
objects created and not destroyed since. No handle has to be one that was handed out, and a
guessed one counts as the object it happens to reach. From this follows which requests are
answered. -/
namespace Graftx.Server
open Graftx.Protocol Graftx.Handles Lib.Machine Lib.Ledger

section
variable {F : Type}

def IssuedKey (l : List (Input × Event F)) (f : F) (key : UInt32 × UInt32) : Prop :=
  ∃ e ∈ l, ∃ h, (f, h) ∈ e.2.returned ∧ h.key = key

def DestroyedKey (l : List (Input × Event F)) (f : F) (key : UInt32 × UInt32) : Prop :=
  ∃ e ∈ l, ∃ h, e.2.destroyed = some (f, h) ∧ h.key = key

def destroyed [DecidableEq F] (l : List (Input × Event F)) (f : F) : Nat :=
  (l.flatMap fun e => e.2.destroyed.toList).countP fun p => p.1 = f

variable (l : List (Input × Event F)) (e : Input × Event F) (f : F)

theorem issuedKey_snoc (key : UInt32 × UInt32) : IssuedKey (l ++ [e]) f key ↔
    IssuedKey l f key ∨ ∃ h, (f, h) ∈ e.2.returned ∧ h.key = key := by
  simp [IssuedKey, or_and_right, exists_or]

theorem destroyedKey_snoc (key : UInt32 × UInt32) : DestroyedKey (l ++ [e]) f key ↔
    DestroyedKey l f key ∨ ∃ h, e.2.destroyed = some (f, h) ∧ h.key = key := by
  simp [DestroyedKey, or_and_right, exists_or]

theorem destroyed_snoc [DecidableEq F] : destroyed (l ++ [e]) f =
    destroyed l f + e.2.destroyed.toList.countP fun p => p.1 = f := by
  simp [destroyed]

end

section
variable {F : Type} [DecidableEq F] {α : Type}

/-- The table of family `f` holds what the log created and did not destroy. -/
structure Conserves (f : F) (l : List (Input × Event F)) (t : HandleTable α) : Prop where
  accounted : t.Accounted
  bounded : t.slots.length ≤ created l f
  issued : ∀ key, t.phase key ≠ .fresh ↔ IssuedKey l f key
  destroyed : ∀ key, t.phase key = .spent ↔ DestroyedKey l f key
  count : t.live + Server.destroyed l f = created l f

variable {f : F} {l : List (Input × Event F)} {t t' : HandleTable α} {e : Input × Event F}

theorem live_store (t : HandleTable α) (i : Nat) (v : α) : (t.store i v).live = t.live := by
  rw [HandleTable.store]
  split <;> rfl

theorem Conserves.start : Conserves f [] (HandleTable.new : HandleTable α) where
  accounted := HandleTable.accounted_new
  bounded := Nat.le_refl 0
  issued key := by simp [IssuedKey, HandleTable.phase, HandleTable.new]
  destroyed key := by simp [DestroyedKey, HandleTable.phase, HandleTable.new]
  count := rfl

theorem Conserves.isLive_iff (hc : Conserves f l t) (h : Handle) :
    t.isLive h ↔ IssuedKey l f h.key ∧ ¬ DestroyedKey l f h.key := by
  rw [HandleTable.isLive, ← t.phase_eq_live, ← hc.issued, ← hc.destroyed]
  cases t.phase h.key <;> decide

theorem Conserves.quiet (hc : Conserves f l t) (hacc : t'.Accounted)
    (hlen : t'.slots.length = t.slots.length) (hlive : t'.live = t.live)
    (hphase : ∀ key, t'.phase key = t.phase key) (hr : ∀ h, (f, h) ∉ e.2.returned)
    (hd : ∀ h, e.2.destroyed ≠ some (f, h)) : Conserves f (l ++ [e]) t' := by
  have hnone (ps : List (F × Handle)) (hps : ∀ h, (f, h) ∉ ps) :
      ps.countP (fun p => p.1 = f) = 0 := by
    refine List.countP_eq_zero.mpr fun p hp hf => hps p.2 ?_
    have hf : p.1 = f := of_decide_eq_true hf
    rw [← hf]
    exact hp
  have hcreated : created (l ++ [e]) f = created l f := by
    rw [created_snoc, hnone _ hr, Nat.add_zero]
  have hdestroyed : Server.destroyed (l ++ [e]) f = Server.destroyed l f := by
    rw [destroyed_snoc, hnone _ (fun h => by simpa using hd h), Nat.add_zero]
  refine ⟨hacc, by rw [hlen, hcreated]; exact hc.bounded, fun key => ?_, fun key => ?_, ?_⟩
  · rw [hphase, hc.issued, issuedKey_snoc]
    exact ⟨.inl, fun h => h.resolve_right fun ⟨h, hh, _⟩ => hr h hh⟩
  · rw [hphase, hc.destroyed, destroyedKey_snoc]
    exact ⟨.inl, fun h => h.resolve_right fun ⟨h, hh, _⟩ => hd h hh⟩
  · rw [hlive, hcreated, hdestroyed]
    exact hc.count

theorem Conserves.insert (hc : Conserves f l t) (k : UInt8) (v : α)
    (hfits : created l f < 2 ^ 32) (i : Input) :
    Conserves f (l ++ [(i, ⟨[(f, (t.insert k v).1)], none⟩)]) (t.insert k v).2 := by
  have hbound := hc.bounded
  have hcount := hc.count
  obtain ⟨hfresh, hphase⟩ := t.phase_insert k v hc.accounted.sound (by
    rw [HandleTable.Fits]
    omega)
  have hcreated : created (l ++ [(i, ⟨[(f, (t.insert k v).1)], none⟩)]) f = created l f + 1 := by
    rw [created_snoc]
    simp
  have hdestroyed : Server.destroyed (l ++ [(i, ⟨[(f, (t.insert k v).1)], none⟩)]) f =
      Server.destroyed l f := by
    rw [destroyed_snoc]
    rfl
  refine ⟨t.accounted_insert k v hc.accounted, ?_, fun key => ?_, fun key => ?_, ?_⟩
  · have hlen := t.length_insert_le k v
    rw [hcreated]
    omega
  · rw [hphase, issuedKey_snoc, ← hc.issued]
    by_cases hk : key = (t.insert k v).1.key
    · rw [if_pos hk]
      exact iff_of_true (by decide) (.inr ⟨_, List.mem_singleton.mpr rfl, hk.symm⟩)
    · rw [if_neg hk]
      refine ⟨.inl, fun h => h.resolve_right ?_⟩
      rintro ⟨h', hh, hkey⟩
      cases List.mem_singleton.mp hh
      exact hk hkey.symm
  · rw [hphase, destroyedKey_snoc, ← hc.destroyed]
    by_cases hk : key = (t.insert k v).1.key
    · rw [if_pos hk, hk, hfresh]
      simp
    · rw [if_neg hk]
      simp
  · rw [t.live_insert, hcreated, hdestroyed]
    omega

theorem Conserves.release (hc : Conserves f l t) (h₀ : Handle) (v : α) (hg : t.get h₀ = some v)
    (i : Input) :
    Conserves f (l ++ [(i, ⟨[], some (f, h₀)⟩)]) (t.release h₀.slot.toNat) := by
  obtain ⟨slot, hi, hv⟩ := t.slot_of_get h₀ v hg
  have hsome : slot.value.isSome := by rw [hv]; rfl
  obtain ⟨hacc, hlive⟩ := t.accounted_release h₀.slot slot hi hsome hc.accounted
  have hphase := t.phase_release h₀.slot slot hi hsome hc.accounted.sound
  have hcount := hc.count
  have hkey : (h₀.slot, slot.generation) = h₀.key := by
    obtain ⟨slot', hl, -⟩ := (t.get_eq_some h₀ v).mp hg
    obtain ⟨hi', hgen⟩ := (t.lookup_eq_some h₀ slot').mp hl
    cases hi.symm.trans hi'
    rw [hgen]
    rfl
  have hlive₀ : t.phase h₀.key = .live := (t.phase_eq_live h₀).mpr (by rw [hg]; rfl)
  have hcreated : created (l ++ [(i, ⟨[], some (f, h₀)⟩)]) f = created l f := by
    rw [created_snoc]
    rfl
  have hdestroyed : Server.destroyed (l ++ [(i, ⟨[], some (f, h₀)⟩)]) f =
      Server.destroyed l f + 1 := by
    rw [destroyed_snoc]
    simp
  rw [hkey] at hphase
  refine ⟨hacc, ?_, fun key => ?_, fun key => ?_, ?_⟩
  · rw [t.length_release, hcreated]
    exact hc.bounded
  · rw [hphase, issuedKey_snoc, ← hc.issued]
    by_cases hk : key = h₀.key
    · rw [if_pos hk, hk, hlive₀]
      exact iff_of_true (by decide) (.inl (by decide))
    · rw [if_neg hk]
      simp
  · rw [hphase, destroyedKey_snoc, ← hc.destroyed]
    by_cases hk : key = h₀.key
    · rw [if_pos hk]
      exact iff_of_true rfl (.inr ⟨h₀, rfl, hk.symm⟩)
    · rw [if_neg hk]
      refine ⟨.inl, fun h => h.resolve_right ?_⟩
      rintro ⟨h', hh, hkey'⟩
      cases hh
      exact hk hkey'.symm
  · rw [hcreated, hdestroyed]
    omega

end

section
variable {B : Type} [Backend B] [Described B]

theorem conserves_step (l : List (Input × Event (Family B))) (b : B) (i : Input) (f : Family B)
    (hc : Conserves f l (table b f)) (hfits : created l f < 2 ^ 32) :
    Conserves f (l ++ [(i, event b i)]) (table (step b i).2 f) := by
  have hs := tableStep b i f
  generalize table (step b i).2 f = t' at hs ⊢
  generalize event b i = e at hs ⊢
  cases hs with
  | same e hr hd => exact hc.quiet hc.accounted rfl rfl (fun _ => rfl) hr hd
  | created state => exact hc.insert (kind f) state hfits i
  | wrote h₀ old new hg =>
    obtain ⟨slot, hslot, hv⟩ := (table b f).slot_of_get h₀ old hg
    have hsome : slot.value.isSome := by rw [hv]; rfl
    exact hc.quiet ((table b f).accounted_store _ slot new hslot hsome hc.accounted)
      ((table b f).length_store _ new) (live_store _ _ new)
      ((table b f).phase_store _ slot new hslot hsome) (by simp) (by simp)
  | destroyed h₀ old hg => exact hc.release h₀ old hg i

theorem conserves (is : List Input) (f : Family B) (hfits : created (logOf B is) f < 2 ^ 32) :
    Conserves f (logOf B is) (table (stateAfter B is) f) := by
  induction is using List.reverseRecOn with
  | nil =>
    rw [table_stateAfter_nil]
    exact .start
  | append_singleton is i ih =>
    have hfits' := Nat.lt_of_le_of_lt (created_init_le is i f) hfits
    rw [logOf_snoc, stateAfter_snoc]
    exact conserves_step _ _ i f (ih hfits') hfits'

/-- A new object gets a slot and a generation that no earlier one of its family had. -/
theorem new_key (is : List Input) (i : Input)
    (hfits : ∀ f, created (logOf B (is ++ [i])) f < 2 ^ 32) (f : Family B) (h : Handle)
    (hm : (f, h) ∈ (event (stateAfter B is) i).returned) : ¬ IssuedKey (logOf B is) f h.key := by
  have hfits' := Nat.lt_of_le_of_lt (created_init_le is i f) (hfits f)
  have hc := conserves is f hfits'
  have hs := tableStep (stateAfter B is) i f
  generalize table (step (stateAfter B is) i).2 f = t' at hs
  generalize event (stateAfter B is) i = e at hs hm
  cases hs with
  | same e hr hd => exact absurd hm (hr h)
  | created state =>
    cases List.mem_singleton.mp hm
    obtain ⟨hfresh, -⟩ := (table (stateAfter B is) f).phase_insert (kind f) state
      hc.accounted.sound (Nat.lt_of_le_of_lt hc.bounded hfits')
    rw [← hc.issued, hfresh]
    exact fun hne => hne rfl
  | wrote => cases hm
  | destroyed => cases hm

/-- The object was created and is not destroyed; only its slot and generation are asked. -/
def Stands {F : Type} (l : List (Input × Event F)) (f : F) (h : Handle) : Prop :=
  IssuedKey l f h.key ∧ ¬ DestroyedKey l f h.key

def AllStand (B : Type) [Backend B] [Described B] (names : Request B → List (Family B × Handle))
    (is : List Input) (r : Request B) : Prop :=
  ∀ u ∈ names r, Stands (logOf B is) u.1 u.2

variable (B) in
/-- After any requests that have created fewer than `2 ^ 32` objects of each family, a backend
holds what it created and did not destroy, in number and one by one; no two objects of a family
were created under one slot and generation; and the next request is answered if and only if it
decodes and what came before serves it. -/
structure ConservesObjects (serves : List Input → Request B → Prop) : Prop where
  count : ∀ is : List Input, (∀ f, created (logOf B is) f < 2 ^ 32) → ∀ f,
    (table (stateAfter B is) f).live + destroyed (logOf B is) f = created (logOf B is) f
  holds : ∀ is : List Input, (∀ f, created (logOf B is) f < 2 ^ 32) → ∀ f h,
    (table (stateAfter B is) f).isLive h ↔ Stands (logOf B is) f h
  once : ∀ is : List Input, (∀ f, created (logOf B is) f < 2 ^ 32) →
    Along (fun l e => ∀ f h, (f, h) ∈ e.2.returned → ¬ IssuedKey l f h.key) (logOf B is)
  answers : ∀ is : List Input, (∀ f, created (logOf B is) f < 2 ^ 32) → ∀ i,
    (∃ reply, (step (stateAfter B is) i).1 = .ok reply) ↔
      ∃ r, request B i.1 i.2 = .ok r ∧ serves is r

theorem isLive_iff_stands (is : List Input) (hfits : ∀ f, created (logOf B is) f < 2 ^ 32)
    (f : Family B) (h : Handle) :
    (table (stateAfter B is) f).isLive h ↔ Stands (logOf B is) f h :=
  (conserves is f (hfits f)).isLive_iff h

theorem along_new_key (is : List Input) (hfits : ∀ f, created (logOf B is) f < 2 ^ 32) :
    Along (fun l e => ∀ f h, (f, h) ∈ e.2.returned → ¬ IssuedKey l f h.key) (logOf B is) := by
  induction is using List.reverseRecOn with
  | nil => exact along_nil
  | append_singleton is i ih =>
    have hfits' (f : Family B) := Nat.lt_of_le_of_lt (created_init_le is i f) (hfits f)
    rw [logOf_snoc]
    exact (along_snoc _ _).mpr ⟨ih hfits', fun f h hm => new_key is i hfits f h hm⟩

theorem conservesObjects {serves : List Input → Request B → Prop}
    (h : ∀ is, (∀ f, created (logOf B is) f < 2 ^ 32) → ∀ r,
      admits (stateAfter B is) r ↔ serves is r) : ConservesObjects B serves where
  count is hfits f := (conserves is f (hfits f)).count
  holds := isLive_iff_stands
  once := along_new_key
  answers is hfits i := by
    cases hr : request B i.1 i.2 with
    | error e => simp [step, handle_of_request_error _ _ _ e hr]
    | ok r =>
      rw [answered_iff _ i r hr, h is hfits r]
      simp

theorem admits_iff (is : List Input) (hfits : ∀ f, created (logOf B is) f < 2 ^ 32)
    (r : Request B) : admits (stateAfter B is) r ↔
      (∀ u ∈ uses (stateAfter B is) r, Stands (logOf B is) u.1 u.2) ∧
        extra (stateAfter B is) r = true := by
  have hlive : (∀ u ∈ uses (stateAfter B is) r, (table (stateAfter B is) u.1).isLive u.2) ↔
      ∀ u ∈ uses (stateAfter B is) r, Stands (logOf B is) u.1 u.2 :=
    forall₂_congr fun u _ => isLive_iff_stands is hfits u.1 u.2
  rw [admits, admitted, Bool.and_eq_true, List.all_eq_true, hlive]

theorem conservesObjects_of_live (names : Request B → List (Family B × Handle))
    (hnames : ∀ (b : B) r, uses b r = names r) (hextra : ∀ (b : B) r, extra b r = true) :
    ConservesObjects B (AllStand B names) := by
  refine conservesObjects fun is hfits r => ?_
  rw [admits_iff is hfits, hnames, AllStand]
  exact and_iff_left (hextra _ r)

end

section
variable (is : List Input)

/-- An accepted `BIND_BUFFER_MEMORY` named the buffer. -/
def BoundBefore (h : Handle) : Prop :=
  ∃ before i after m o, is = before ++ i :: after ∧ Binds (stateAfter VulkanBackend before) i h m o

def VkServes (r : VkRequest) : Prop :=
  AllStand VulkanBackend VkRequest.uses is r ∧
    ∀ req, r = .bindBufferMemory req → ¬ BoundBefore is req.buffer

theorem bound_iff (h : Handle) (v : BufferState)
    (hv : (stateAfter VulkanBackend is).buffers.get h = some v) :
    v.bound.isNone ↔ ¬ BoundBefore is h := by
  rw [Option.isNone_iff_eq_none]
  constructor
  · rintro hnone ⟨before, i, after, m, o, rfl, hb⟩
    obtain ⟨-, w, -, -, hw, hsome⟩ := bound_of_binds before i h m o hb
    rw [List.append_cons] at hv
    rw [bound_kept (before ++ [i]) after h w v (m, o) hw hsome hv] at hnone
    cases hnone
  · intro hno
    refine Option.eq_none_iff_forall_ne_some.mpr fun ⟨m, o⟩ hsome => hno ?_
    obtain ⟨before, i, after, he, hb, -⟩ := bind_of_bound is h m o v hv hsome
    exact ⟨before, i, after, m, o, he, hb⟩

theorem instance_created (h : Handle) (v : InstanceState)
    (hv : (stateAfter VulkanBackend is).instances.get h = some v) : v.created = true := by
  induction is using List.reverseRecOn with
  | nil => cases hv
  | append_singleton is i ih =>
    rw [stateAfter_snoc] at hv
    cases hr : request VulkanBackend i.1 i.2 with
    | error e =>
      rw [step, handle_of_request_error _ _ _ e hr] at hv
      exact ih hv
    | ok r =>
      rw [VkHistory.step_request hr] at hv
      obtain hold | hnew := VkHistory.instance_exec _ i.1 r h v hv
      · exact ih hold
      · exact hnew

theorem vulkan_conserves : ConservesObjects VulkanBackend VkServes := by
  refine conservesObjects fun is hfits r => ?_
  rw [admits_iff is hfits]
  refine and_congr_right fun hstand => ?_
  have hlive (u : VkFamily × Handle) (hu : u ∈ r.uses) :
      ((stateAfter VulkanBackend is).table u.1).isLive u.2 :=
    (isLive_iff_stands is hfits u.1 u.2).mpr (hstand u hu)
  change r.extra _ = true ↔ _
  cases r with
  | enumeratePhysicalDevices req =>
    obtain ⟨v, hv⟩ := Option.isSome_iff_exists.mp
      (hlive (.inst, req.inst) (List.mem_singleton.mpr rfl))
    have hv : (stateAfter VulkanBackend is).instances.get req.inst = some v := hv
    simp [VkRequest.extra, hv, instance_created is req.inst v hv]
  | bindBufferMemory req =>
    obtain ⟨v, hv⟩ := Option.isSome_iff_exists.mp
      (hlive (.buffer, req.buffer) (VkHistory.binds_used (.bindBufferMemory req) _ rfl))
    have hv : (stateAfter VulkanBackend is).buffers.get req.buffer = some v := hv
    simp [VkRequest.extra, hv, bound_iff is req.buffer v hv]
  | _ => simp [VkRequest.extra]

theorem context_exec (b : GlBackend) (opcode : UInt32) (r : GlRequest) (h : Handle) (v : CtxState)
    (hv : ((b.exec opcode r).2.table .context).get h = some v) :
    (b.table .context).get h = some v ∨ v.created = true := by
  have hd := GlRequest.exec_did b opcode r
  cases r with
  | createContext =>
    obtain hold | ⟨rfl, -⟩ := get_create b GlFamily.context _ v _ h hv
    · exact .inl hold
    · exact .inr rfl
  | _ =>
    have ht : (b.exec opcode _).2.table .context = b.table .context :=
      hd.table_ne _ fun h => by cases h
    rw [ht] at hv
    exact .inl hv

theorem context_created (h : Handle) (v : CtxState)
    (hv : (stateAfter GlBackend is).contexts.get h = some v) : v.created = true := by
  induction is using List.reverseRecOn with
  | nil => cases hv
  | append_singleton is i ih =>
    rw [stateAfter_snoc] at hv
    cases hr : request GlBackend i.1 i.2 with
    | error e =>
      rw [step, handle_of_request_error _ _ _ e hr] at hv
      exact ih hv
    | ok r =>
      rw [step, handle_of_request_ok _ _ _ r hr] at hv
      obtain hold | hnew := context_exec _ i.1 r h v hv
      · exact ih hold
      · exact hnew

theorem gl_conserves : ConservesObjects GlBackend (AllStand GlBackend GlRequest.uses) := by
  refine conservesObjects fun is hfits r => ?_
  rw [admits_iff is hfits]
  refine and_iff_left_of_imp fun hstand => ?_
  have hcreated (context : Handle) (hu : (GlFamily.context, context) ∈ r.uses) :
      ((stateAfter GlBackend is).contexts.get context).any (·.created) = true := by
    obtain ⟨v, hv⟩ := Option.isSome_iff_exists.mp
      ((isLive_iff_stands is hfits GlFamily.context context).mpr (hstand _ hu))
    have hv : (stateAfter GlBackend is).contexts.get context = some v := hv
    rw [hv, Option.any_some]
    exact context_created is context v hv
  change r.extra _ = true
  cases r with
  | createContext => rfl
  | deleteBuffer req => rfl
  | makeCurrent req => exact hcreated req.context (List.mem_singleton.mpr rfl)
  | genBuffer req => exact hcreated req.context (List.mem_singleton.mpr rfl)
  | swapBuffers req => exact hcreated req.context (List.mem_singleton.mpr rfl)

/-- A destroy is for a pipeline or a context, whichever stands under its handle. -/
def OptixServes : OptixRequest → Prop
  | .contextCreate => True
  | .pipelineCreate req => Stands (logOf OptixBackend is) .context req.context
  | .destroy req => Stands (logOf OptixBackend is) .pipeline req.handle ∨
      Stands (logOf OptixBackend is) .context req.handle

theorem optix_conserves : ConservesObjects OptixBackend OptixServes := by
  refine conservesObjects fun is hfits r => ?_
  have hiff := isLive_iff_stands (B := OptixBackend) is hfits
  rw [admits_iff is hfits]
  refine (and_iff_left rfl).trans ?_
  change (∀ u ∈ r.uses _, _) ↔ _
  cases r with
  | contextCreate => simp [OptixRequest.uses, OptixServes]
  | pipelineCreate req => simp [OptixRequest.uses, OptixServes]
  | destroy req =>
    have hpipeline : (stateAfter OptixBackend is).pipelines.isLive req.handle = true ↔
      Stands (logOf OptixBackend is) OptixFamily.pipeline req.handle :=
      hiff OptixFamily.pipeline req.handle
    simp only [OptixRequest.uses, List.forall_mem_singleton, OptixBackend.destroyed, OptixServes]
    by_cases hp : (stateAfter OptixBackend is).pipelines.isLive req.handle = true
    · have hstands := hpipeline.mp hp
      rw [if_pos hp]
      exact iff_of_true hstands (.inl hstands)
    · have hnone := mt hpipeline.mpr hp
      rw [if_neg hp]
      exact (or_iff_right hnone).symm

end

theorem backends_conserve_objects :
    ConservesObjects VulkanBackend VkServes ∧
      ConservesObjects GlBackend (AllStand GlBackend GlRequest.uses) ∧
      ConservesObjects CudaBackend (AllStand CudaBackend CudaRequest.uses) ∧
      ConservesObjects ClBackend (AllStand ClBackend ClRequest.uses) ∧
      ConservesObjects HipBackend (AllStand HipBackend HipRequest.uses) ∧
      ConservesObjects L0Backend (AllStand L0Backend L0Request.uses) ∧
      ConservesObjects VideoBackend (AllStand VideoBackend VideoRequest.uses) ∧
      ConservesObjects WebGpuBackend (AllStand WebGpuBackend WgpuRequest.uses) ∧
      ConservesObjects OptixBackend OptixServes ∧
      ConservesObjects SyclBackend (AllStand SyclBackend SyclRequest.uses) ∧
      ConservesObjects AmfBackend (AllStand AmfBackend AmfRequest.uses) := by
  refine ⟨vulkan_conserves, gl_conserves, ?_, ?_, ?_, ?_, ?_, ?_, optix_conserves, ?_, ?_⟩
  all_goals exact conservesObjects_of_live _ (fun _ _ => rfl) fun _ _ => rfl

end Graftx.Server
