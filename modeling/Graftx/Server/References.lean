import Graftx.Server.History

/-! References between objects. A child records the handle of its parent when it is made, and
nothing is asked of that handle afterwards; so a reference can dangle, but only through an
accepted destroy of the parent. -/
namespace Graftx.Server
open Graftx.Protocol Graftx.Handles Lib.Machine

section Tables
variable {B : Type} [Tables B] (b : B)

def Effect.family {F : Type} : Effect F → Option F
  | .keep => none
  | .create f => some f
  | .write f _ => some f
  | .destroy f _ => some f

theorem Did.table_ne {R : Type} {returned : R → Bytes → List (Family B × Handle)} {b : B} {r : R}
    {eff : Effect (Family B)} {a : Answer B} (h : Did returned b r eff a) (g : Family B)
    (hg : eff.family ≠ some g) : table a.2 g = table b g := by
  have hne (f : Family B) (hf : some f ≠ some g) : g ≠ f := fun he => hf (by rw [he])
  cases h with
  | refused => rfl
  | kept => rfl
  | created f state response hr => exact Tables.table_set_ne _ _ _ _ (hne f hg)
  | wrote f h old new reply hget hr => exact Tables.table_set_ne _ _ _ _ (hne f hg)
  | destroyed f h old hget hr => exact Tables.table_set_ne _ _ _ _ (hne f hg)

theorem get_create (f : Family B) (state v : Object f) (response : Handle → Bytes) (h : Handle)
    (hg : (table (create b f state response).2 f).get h = some v) :
    (table b f).get h = some v ∨ v = state ∧ h.key = ((table b f).insert (kind f) state).1.key := by
  simp only [create, Tables.table_set_self] at hg
  by_cases hk : h.key = ((table b f).insert (kind f) state).1.key
  · exact ((table b f).get_of_get_insert (kind f) state v h hg).imp_right fun hv => ⟨hv, hk⟩
  · rw [(table b f).get_insert_of_key_ne _ _ h hk] at hg
    exact .inl hg

theorem get_destroy (opcode : UInt32) (f g : Family B) (h₀ h : Handle) (v : Object g)
    (hg : (table (destroy b opcode f h₀).2 g).get h = some v) : (table b g).get h = some v := by
  rw [destroy] at hg
  split at hg
  · exact hg
  · rename_i t hr
    have ht : t = ((table b f).remove h₀).2 := by rw [hr]
    obtain ⟨rfl, hset⟩ | ⟨-, hset⟩ := table_setTable b f g t
    · rw [hset, ht, HandleTable.get_remove] at hg
      split at hg
      · cases hg
      · exact hg
    · rwa [hset] at hg

theorem update_cases (opcode : UInt32) (f : Family B) (h₀ : Handle)
    (change : Object f → Option (Object f × Bytes)) :
    update b opcode f h₀ change = refuse b opcode ∨
      ∃ old new reply, (table b f).get h₀ = some old ∧ change old = some (new, reply) ∧
        update b opcode f h₀ change =
          (.ok reply, setTable b f ((table b f).store h₀.slot.toNat new)) := by
  rw [update]
  split
  · exact .inl rfl
  · rename_i old put hm
    obtain ⟨hold, rfl⟩ := ((table b f).getMut_eq_some h₀ old put).mp hm
    split
    · exact .inl rfl
    · rename_i new reply hc
      exact .inr ⟨old, new, reply, hold, hc, rfl⟩

end Tables

section
variable {B : Type} [Backend B] [Described B]

theorem destroyed_of_lost (b : B) (i : Input) (f : Family B) (h : Handle)
    (hl : (table b f).isLive h) (hn : ¬ (table (step b i).2 f).isLive h) :
    ∃ h', (event b i).destroyed = some (f, h') ∧ h'.key = h.key := by
  have hs := tableStep b i f
  generalize table (step b i).2 f = t' at hn hs
  generalize event b i = e at hs ⊢
  cases hs with
  | same => exact absurd hl hn
  | created state => exact absurd ((table b f).isLive_insert (kind f) state h hl) hn
  | wrote h₀ old new hg =>
    exact absurd (((table b f).isLive_store h₀ h old new hg).mpr hl) hn
  | destroyed h₀ old hg =>
    by_cases hk : h.key = h₀.key
    · exact ⟨h₀, rfl, hk.symm⟩
    · refine absurd ?_ hn
      rwa [HandleTable.isLive, HandleTable.get_release _ _ _ old hg, if_neg hk]

/-- A field of the objects of one family that names an object of another. After a step the
field of a live child is what it was, or its parent resolves. -/
structure Reference (B : Type) [Backend B] [Described B] where
  child : Family B
  parent : Family B
  ref : Object child → Option Handle
  recorded : ∀ (b : B) (i : Input) (h q : Handle) (v : Object child),
    (table (step b i).2 child).get h = some v → ref v = some q →
    (∃ v₀, (table b child).get h = some v₀ ∧ ref v₀ = some q) ∨ (table (step b i).2 parent).isLive q

def Reference.ofExec (child parent : Family B) (ref : Object child → Option Handle)
    (recorded : ∀ (b : B) (opcode : UInt32) (r : Request B) (h q : Handle) (v : Object child),
      (table (exec b opcode r).2 child).get h = some v → ref v = some q →
      (∃ v₀, (table b child).get h = some v₀ ∧ ref v₀ = some q) ∨
        (table (exec b opcode r).2 parent).isLive q) : Reference B where
  child
  parent
  ref
  recorded b i h q v hv hq := by
    cases hr : request B i.1 i.2 with
    | error e =>
      rw [step, handle_of_request_error b _ _ e hr] at hv
      exact .inl ⟨v, hv, hq⟩
    | ok r =>
      rw [step, handle_of_request_ok b _ _ r hr] at hv ⊢
      exact recorded b i.1 r h q v hv hq

def Reference.Refers (R : Reference B) (b : B) (h q : Handle) : Prop :=
  ∃ v, (table b R.child).get h = some v ∧ R.ref v = some q

/-- At some point of the run an accepted destroy took the parent `q` away from under `h`. -/
def Reference.Orphaned (R : Reference B) (is : List Input) (h q : Handle) : Prop :=
  ∃ before i after, is = before ++ i :: after ∧ R.Refers (stateAfter B before) h q ∧
    (table (stateAfter B before) R.parent).isLive q ∧
    ∃ q', (event (stateAfter B before) i).destroyed = some (R.parent, q') ∧ q'.key = q.key

theorem Reference.Orphaned.snoc {R : Reference B} {is : List Input} {h q : Handle}
    (ho : R.Orphaned is h q) (i : Input) : R.Orphaned (is ++ [i]) h q := by
  obtain ⟨before, j, after, rfl, hrest⟩ := ho
  exact ⟨before, j, after ++ [i], by simp, hrest⟩

theorem Reference.resolves_or_orphaned (R : Reference B) (is : List Input) (h q : Handle)
    (hr : R.Refers (stateAfter B is) h q) :
    (table (stateAfter B is) R.parent).isLive q ∨ R.Orphaned is h q := by
  induction is using List.reverseRecOn with
  | nil =>
    obtain ⟨v, hv, -⟩ := hr
    rw [table_stateAfter_nil] at hv
    cases hv
  | append_singleton is i ih =>
    obtain ⟨v, hv, hq⟩ := hr
    rw [stateAfter_snoc] at hv ⊢
    obtain hold | hlive := R.recorded (stateAfter B is) i h q v hv hq
    · obtain hlive | ho := ih hold
      · by_cases hnow : (table (step (stateAfter B is) i).2 R.parent).isLive q
        · exact .inl hnow
        · have hd := destroyed_of_lost (stateAfter B is) i R.parent q hlive hnow
          exact .inr ⟨is, i, [], rfl, hold, hlive, hd⟩
      · exact .inr (ho.snoc i)
    · exact .inl hlive

end
end Graftx.Server
