import Graftx.Server.References
import Graftx.Handles.Lifetimes

/-! Life times of objects over whole runs, and a field of the objects of one family that
only some requests write. Nothing here asks that slot indices fit. -/
namespace Graftx.Server
open Graftx.Protocol Graftx.Handles Graftx.Handles.HandleTable Lib.Machine Lib.Ledger

def written (target : Option Handle) : Except ProtocolError Bytes → Option Handle
  | .ok _ => target
  | .error _ => none

section Arms
variable {B : Type} [Tables B] {f : Family B} {init : Object f → Prop}
  {put : Object f → Object f → Prop} {target : Option Handle} {b : B} {opcode : UInt32}

/-- The answer changes the table of `f` once at most, as `init` and `put` say. -/
def Changes (f : Family B) (init : Object f → Prop) (put : Object f → Object f → Prop)
    (target : Option Handle) (b : B) (a : Answer B) : Prop :=
  Change init put (table b f) (written target a.1) (table a.2 f)

theorem Changes.refuse : Changes f init put target b (refuse b opcode) := .same

theorem Changes.guard {c : Prop} [Decidable c] {a : Answer B}
    (h : ¬ c → Changes f init put target b a) :
    Changes f init put target b (if c then Server.refuse b opcode else a) := by
  split
  · exact .refuse
  · rename_i hc
    exact h hc

theorem Changes.other {a : Answer B} (h : table a.2 f = table b f) :
    Changes f init put none b a := by
  have hw : written none a.1 = none := by cases a.1 <;> rfl
  rw [Changes, h, hw]
  exact .same

theorem Changes.create (state : Object f) (response : Handle → Bytes) (h : init state) :
    Changes f init put none b (create b f state response) := by
  rw [Changes, Server.create, Tables.table_set_self]
  exact .inserted (kind f) state h

theorem Changes.update (h : Handle) (change : Object f → Option (Object f × Bytes))
    (hp : ∀ old new reply, change old = some (new, reply) → put old new) :
    Changes f init put (some h) b (update b opcode f h change) := by
  obtain hu | ⟨old, new, reply, hg, hc, hu⟩ := update_cases b opcode f h change
  · rw [hu]
    exact .refuse
  · rw [hu, Changes, Tables.table_set_self]
    exact .wrote h old new hg (hp old new reply hc)

theorem Changes.destroy (g : Family B) (h : Handle) :
    Changes f init put none b (destroy b opcode g h) := by
  rw [Server.destroy]
  cases hg : (table b g).get h with
  | none =>
    rw [(table b g).remove_of_get_none h hg]
    exact .refuse
  | some old =>
    rw [(table b g).remove_of_get_some h old hg]
    obtain ⟨rfl, ht⟩ | ⟨-, ht⟩ := table_setTable b g f ((table b g).release h.slot.toNat)
    · rw [Changes, ht]
      exact .freed h old hg
    · exact .other ht

/-- The references of the objects of `f` stay, or come to name an object of `parent` that
resolves. -/
def Records (f parent : Family B) (ref : Object f → Option Handle) (b : B) (a : Answer B) : Prop :=
  ∃ target, Changes f (fun v => ∀ q, ref v = some q → (table a.2 parent).isLive q)
    (fun old new => ∀ q, ref new = some q → ref old = some q ∨ (table a.2 parent).isLive q)
    target b a

theorem Records.recorded {parent : Family B} {ref : Object f → Option Handle} {a : Answer B}
    (hr : Records f parent ref b a) (h q : Handle) (v : Object f)
    (hv : (table a.2 f).get h = some v) (hq : ref v = some q) :
    (∃ v₀, (table b f).get h = some v₀ ∧ ref v₀ = some q) ∨ (table a.2 parent).isLive q := by
  obtain ⟨target, hc⟩ := hr
  obtain hold | hinit | ⟨old, hold, hput⟩ := hc.get_origin h v hv
  · exact .inl ⟨v, hold, hq⟩
  · exact .inr (hinit q hq)
  · exact (hput q hq).imp_left fun ho => ⟨old, hold, ho⟩

end Arms

section Runs
variable {B : Type} [Backend B] [Described B]

theorem final_stateAfter (is js : List Input) :
    final step (stateAfter B is) js = stateAfter B (is ++ js) := by
  induction js using List.reverseRecOn with
  | nil => rw [List.append_nil, final]
  | append_singleton js i ih => rw [final_snoc, ih, ← List.append_assoc, stateAfter_snoc]

/-- Any table of any backend changes in one of the four ways. -/
theorem change_step (b : B) (i : Input) (f : Family B) :
    ∃ w, Change (fun _ => True) (fun _ _ => True) (table b f) w (table (step b i).2 f) := by
  have hs := tableStep b i f
  generalize table (step b i).2 f = t' at hs ⊢
  generalize event b i = e at hs
  cases hs with
  | same => exact ⟨none, .same⟩
  | created state => exact ⟨none, .inserted (kind f) state trivial⟩
  | wrote h old new hg => exact ⟨some h, .wrote h old new hg trivial⟩
  | destroyed h old hg => exact ⟨none, .freed h old hg⟩

theorem sound_stateAfter (is : List Input) (f : Family B) :
    (table (stateAfter B is) f).Sound := by
  induction is using List.reverseRecOn with
  | nil =>
    rw [table_stateAfter_nil]
    exact sound_new
  | append_singleton is i ih =>
    rw [stateAfter_snoc]
    obtain ⟨w, hc⟩ := change_step (stateAfter B is) i f
    exact hc.sound ih

theorem rank_le_stateAfter (is js : List Input) (f : Family B) (k : UInt32 × UInt32) :
    ((table (stateAfter B is) f).phase k).rank ≤
      ((table (stateAfter B (is ++ js)) f).phase k).rank := by
  induction js using List.reverseRecOn with
  | nil => rw [List.append_nil]
  | append_singleton js i ih =>
    rw [← List.append_assoc, stateAfter_snoc]
    obtain ⟨w, hc⟩ := change_step (stateAfter B (is ++ js)) i f
    exact Nat.le_trans ih (hc.rank_le (sound_stateAfter _ f) k)

theorem live_between (is js ks : List Input) (f : Family B) (h : Handle)
    (hearly : (table (stateAfter B is) f).isLive h)
    (hlate : (table (stateAfter B (is ++ js ++ ks)) f).isLive h) :
    (table (stateAfter B (is ++ js)) f).isLive h := by
  have h₁ := rank_le_stateAfter (B := B) is js f h.key
  have h₂ := rank_le_stateAfter (B := B) (is ++ js) ks f h.key
  rw [(phase_eq_live _ h).mpr hearly] at h₁
  rw [(phase_eq_live _ h).mpr hlate] at h₂
  exact (phase_eq_live _ h).mp (Phase.rank_inj (Nat.le_antisymm h₂ h₁))

theorem fresh_of_not_live (is js : List Input) (f : Family B) (h : Handle)
    (hn : ¬ (table (stateAfter B is) f).isLive h)
    (hl : (table (stateAfter B (is ++ js)) f).isLive h) :
    (table (stateAfter B is) f).phase h.key = .fresh := by
  have hle := rank_le_stateAfter (B := B) is js f h.key
  rw [(phase_eq_live _ h).mpr hl] at hle
  cases hp : (table (stateAfter B is) f).phase h.key with
  | fresh => rfl
  | live => exact absurd ((phase_eq_live _ h).mp hp) hn
  | spent =>
    rw [hp] at hle
    exact absurd hle (by decide)

end Runs

/-- A field of the objects of one family: `init` holds of it in a new object, `target` is the
object a request writes it in, and `put` says how. -/
structure Field (B : Type) [Backend B] where
  family : Family B
  init : Object family → Prop
  target : Request B → Option Handle
  put : B → Request B → Object family → Object family → Prop
  changes : ∀ (b : B) (opcode : UInt32) (r : Request B),
    Changes family init (put b r) (target r) b (exec b opcode r)

namespace Field

section
variable {B : Type} [Backend B] (F : Field B)

def hits (h : Handle) (e : Input × Except ProtocolError Bytes) : Bool :=
  match request B e.1.1 e.1.2 with
  | .error _ => false
  | .ok r => (written (F.target r) e.2).any fun h' => h'.key = h.key

theorem hits_iff (h : Handle) (e : Input × Except ProtocolError Bytes) :
    F.hits h e ↔ ∃ r reply h', request B e.1.1 e.1.2 = .ok r ∧ e.2 = .ok reply ∧
      F.target r = some h' ∧ h'.key = h.key := by
  rw [hits]
  cases request B e.1.1 e.1.2 with
  | error e' => simp
  | ok r => cases e.2 <;> simp [written, Option.any_eq_true]

theorem get_step (b : B) (i : Input) (h : Handle) (v : Object F.family)
    (hb : (table b F.family).Sound) (hg : (table (step b i).2 F.family).get h = some v) :
    ((table b F.family).get h = none ∧ F.init v ∧ F.hits h (i, (step b i).1) = false) ∨
      ((table b F.family).get h = some v ∧ F.hits h (i, (step b i).1) = false) ∨
      ∃ r old, request B i.1 i.2 = .ok r ∧ (table b F.family).get h = some old ∧
        F.put b r old v ∧ F.hits h (i, (step b i).1) := by
  rw [hits]
  cases hr : request B i.1 i.2 with
  | error e =>
    rw [step, handle_of_request_error b _ _ e hr] at hg
    exact .inr (.inl ⟨hg, rfl⟩)
  | ok r =>
    rw [step, handle_of_request_ok b _ _ r hr] at hg ⊢
    dsimp only
    obtain ⟨hnone, hi, hw⟩ | ⟨hsame, hne⟩ | ⟨h', old, hw, hk, hold, hp⟩ :=
      (F.changes b i.1 r).get_cases hb h v hg
    · exact .inl ⟨hnone, hi, by simp [hw]⟩
    · refine .inr (.inl ⟨hsame, ?_⟩)
      cases hw : written (F.target r) (exec b i.1 r).1 with
      | none => rfl
      | some h' => simpa using hne h' hw
    · exact .inr (.inr ⟨r, old, rfl, hold, hp, by simp [hw, hk]⟩)

theorem put_of_hits (b : B) (i : Input) (h : Handle) (hh : F.hits h (i, (step b i).1)) :
    ∃ r old new, request B i.1 i.2 = .ok r ∧ (table b F.family).get h = some old ∧
      (table (step b i).2 F.family).get h = some new ∧ F.put b r old new := by
  obtain ⟨r, reply, h', hr, hok, ht, hk⟩ := (F.hits_iff h _).mp hh
  rw [step, handle_of_request_ok b _ _ r hr] at hok ⊢
  have hc := F.changes b i.1 r
  have hw : written (F.target r) (exec b i.1 r).1 = some h' := by
    rw [show (exec b i.1 r).1 = .ok reply from hok, ht, written]
  rw [Changes, hw] at hc
  generalize table (exec b i.1 r).2 F.family = t' at hc ⊢
  cases hc with
  | wrote _ old new hg hp =>
    refine ⟨r, old, new, hr, (get_congr _ h h' hk.symm).trans hg, ?_, hp⟩
    rw [get_store _ h' h old new hg, if_pos hk.symm]

end

variable {B : Type} [Backend B] [Described B] (F : Field B)

theorem unreached_stateAfter (is : List Input) :
    (table (stateAfter B is) F.family).Unreached F.init := by
  induction is using List.reverseRecOn with
  | nil =>
    rw [table_stateAfter_nil]
    exact fun i slot v hi => by simp [new] at hi
  | append_singleton is i ih =>
    rw [stateAfter_snoc, step]
    cases hr : request B i.1 i.2 with
    | error e =>
      rw [handle_of_request_error _ _ _ e hr]
      exact ih
    | ok r =>
      rw [handle_of_request_ok _ _ _ r hr]
      exact (F.changes (stateAfter B is) i.1 r).unreached ih

theorem reused (is : List Input) (i : Input) (h : Handle) (slot : UInt32) (free : List UInt32)
    (hm : (F.family, h) ∈ (event (stateAfter B is) i).returned)
    (hfree : (table (stateAfter B is) F.family).free = slot :: free) :
    h.slot = slot ∧ (table (stateAfter B is) F.family).get h = none ∧
      ∃ v, (table (stateAfter B (is ++ [i])) F.family).get h = some v ∧ F.init v := by
  have hsound := sound_stateAfter (B := B) is F.family
  have hstep := F.get_step (stateAfter B is) i h
  have hs := tableStep (stateAfter B is) i F.family
  rw [stateAfter_snoc]
  generalize table (step (stateAfter B is) i).2 F.family = t' at hs hstep ⊢
  generalize event (stateAfter B is) i = e at hm hs
  cases hs with
  | same e hr hd => exact absurd hm (hr h)
  | created state =>
    cases List.mem_singleton.mp hm
    obtain ⟨hslot, hnone, hnew⟩ := insert_reused _ (kind F.family) state slot free hsound hfree
    refine ⟨hslot, hnone, state, hnew, ?_⟩
    obtain ⟨-, hi, -⟩ | ⟨hsame, -⟩ | ⟨r, old, -, hold, -⟩ := hstep state hsound hnew
    · exact hi
    · rw [hnone] at hsame
      cases hsame
    · rw [hnone] at hold
      cases hold
  | wrote => cases hm
  | destroyed => cases hm

end Field
end Graftx.Server
