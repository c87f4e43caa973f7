import Graftx.Server.Backend
import Graftx.Lib.Machine

/-! Runs of one backend and what their logs say about handles: which were handed out,
for which family, and which objects were destroyed since. Proved once for every
described backend. -/
namespace Graftx.Server
open Graftx.Protocol Graftx.Handles Lib.Machine

abbrev Input := UInt32 × Bytes

/-- What an answered request did: the handles its reply carries and the object it
destroyed. Both are empty for a refused request. -/
structure Event (F : Type) where
  returned : List (F × Handle)
  destroyed : Option (F × Handle)

def Effect.destroyed {F : Type} : Effect F → Option (F × Handle)
  | .destroy f h => some (f, h)
  | _ => none

theorem Effect.eq_destroy {F : Type} {e : Effect F} {f : F} {h : Handle}
    (hd : e.destroyed = some (f, h)) : e = .destroy f h := by
  cases e with
  | destroy g h' =>
    cases hd
    rfl
  | _ => cases hd

/-- The log says that `h` was handed out for `f` and its object not destroyed since. -/
def Outstanding {F : Type} (l : List (Input × Event F)) (f : F) (h : Handle) : Prop :=
  ∃ before e after, l = before ++ e :: after ∧ (f, h) ∈ e.2.returned ∧
    ∀ e' ∈ after, ∀ h', e'.2.destroyed = some (f, h') → h'.key ≠ h.key

theorem Outstanding.of_returned {F : Type} (l : List (Input × Event F)) (e : Input × Event F)
    (f : F) (h : Handle) (hm : (f, h) ∈ e.2.returned) : Outstanding (l ++ [e]) f h :=
  ⟨l, e, [], rfl, hm, fun _ he => absurd he List.not_mem_nil⟩

theorem Outstanding.snoc {F : Type} {l : List (Input × Event F)} {f : F} {h : Handle}
    (ho : Outstanding l f h) (e : Input × Event F)
    (he : ∀ h', e.2.destroyed = some (f, h') → h'.key ≠ h.key) : Outstanding (l ++ [e]) f h := by
  obtain ⟨before, e₀, after, rfl, hm, hafter⟩ := ho
  refine ⟨before, e₀, after ++ [e], by rw [List.append_assoc, List.cons_append], hm, ?_⟩
  intro e' he'
  obtain he' | he' := List.mem_append.mp he'
  · exact hafter e' he'
  · rw [List.mem_singleton.mp he']
    exact he

section
variable {B : Type} [Backend B]

def step (b : B) (i : Input) : Answer B := handle b i.1 i.2

variable [Described B]

def event (b : B) (i : Input) : Event (Family B) :=
  match request B i.1 i.2 with
  | .error _ => ⟨[], none⟩
  | .ok r =>
    match (exec b i.1 r).1 with
    | .error _ => ⟨[], none⟩
    | .ok reply => ⟨returned r reply, (effect b r).destroyed⟩

theorem effect_of_destroyed (b : B) (i : Input) (f : Family B) (h : Handle)
    (hd : (event b i).destroyed = some (f, h)) :
    ∃ r reply, request B i.1 i.2 = .ok r ∧ (step b i).1 = .ok reply ∧ effect b r = .destroy f h := by
  rw [event] at hd
  split at hd
  · cases hd
  · rename_i r hr
    split at hd
    · cases hd
    · rename_i reply hok
      refine ⟨r, reply, hr, ?_, Effect.eq_destroy hd⟩
      rw [step, handle_of_request_ok b _ _ r hr, hok]

def observe (b : B) (i : Input) : Event (Family B) × B := (event b i, (step b i).2)

theorem step_error (b : B) (i : Input) (e : ProtocolError) (h : (step b i).1 = .error e) :
    (step b i).2 = b := by
  cases hr : request B i.1 i.2 with
  | error e' => rw [step, handle_of_request_error b _ _ e' hr]
  | ok r =>
    rw [step, handle_of_request_ok b _ _ r hr] at h ⊢
    have hd := Described.did b i.1 r
    generalize exec b i.1 r = a at h hd ⊢
    generalize effect b r = eff at hd
    cases hd with
    | refused => rfl
    | kept => rfl
    | created f state response => cases h
    | wrote => cases h
    | destroyed => cases h

inductive Stepped (b : B) : Event (Family B) → B → Prop where
  | same (e : Event (Family B)) (hr : e.returned = []) (hd : e.destroyed = none) : Stepped b e b
  | created (f : Family B) (state : Object f) : Stepped b
      ⟨[(f, ((table b f).insert (kind f) state).1)], none⟩
      (setTable b f ((table b f).insert (kind f) state).2)
  | wrote (f : Family B) (h : Handle) (old new : Object f) (hg : (table b f).get h = some old) :
      Stepped b ⟨[], none⟩ (setTable b f ((table b f).store h.slot.toNat new))
  | destroyed (f : Family B) (h : Handle) (old : Object f) (hg : (table b f).get h = some old) :
      Stepped b ⟨[], some (f, h)⟩ (setTable b f ((table b f).release h.slot.toNat))

theorem stepped (b : B) (i : Input) : Stepped b (event b i) (step b i).2 := by
  cases hr : request B i.1 i.2 with
  | error e' =>
    rw [step, handle_of_request_error b _ _ e' hr, event, hr]
    exact .same _ rfl rfl
  | ok r =>
    rw [step, handle_of_request_ok b _ _ r hr, event, hr]
    have hd := Described.did b i.1 r
    change Stepped b (match (exec b i.1 r).1 with
      | .error _ => ⟨[], none⟩
      | .ok reply => ⟨returned r reply, (effect b r).destroyed⟩) (exec b i.1 r).2
    generalize exec b i.1 r = a at hd ⊢
    generalize heff : effect b r = eff at hd ⊢
    cases hd with
    | refused => exact .same _ rfl rfl
    | kept reply hret => exact .same _ hret rfl
    | created f state response hret =>
      simp only [create, hret]
      exact .created f state
    | wrote f h old new reply hg hret =>
      simp only [hret]
      exact .wrote f h old new hg
    | destroyed f h old hg hret =>
      simp only [hret]
      exact .destroyed f h old hg

/-- A step of the backend as one of its tables sees it. -/
inductive TableStep (f : Family B) (t : HandleTable (Object f)) :
    Event (Family B) → HandleTable (Object f) → Prop where
  | same (e : Event (Family B)) (hr : ∀ h, (f, h) ∉ e.returned)
      (hd : ∀ h, e.destroyed ≠ some (f, h)) : TableStep f t e t
  | created (state : Object f) : TableStep f t
      ⟨[(f, (t.insert (kind f) state).1)], none⟩ (t.insert (kind f) state).2
  | wrote (h : Handle) (old new : Object f) (hg : t.get h = some old) :
      TableStep f t ⟨[], none⟩ (t.store h.slot.toNat new)
  | destroyed (h : Handle) (old : Object f) (hg : t.get h = some old) :
      TableStep f t ⟨[], some (f, h)⟩ (t.release h.slot.toNat)

theorem tableStep (b : B) (i : Input) (f : Family B) :
    TableStep f (table b f) (event b i) (table (step b i).2 f) := by
  have hs := stepped b i
  generalize (step b i).2 = b' at hs ⊢
  generalize event b i = e at hs ⊢
  cases hs with
  | same e hr hd =>
    exact .same e (fun h => by rw [hr]; exact List.not_mem_nil) fun h hd' => by
      rw [hd] at hd'
      cases hd'
  | created g state =>
    obtain ⟨rfl, ht⟩ | ⟨hne, ht⟩ := table_setTable b g f ((table b g).insert (kind g) state).2
    · rw [ht]
      exact .created state
    · rw [ht]
      refine .same _ (fun h hmem => ?_) fun h hd => by cases hd
      cases List.mem_singleton.mp hmem
      exact hne rfl
  | wrote g h old new hg =>
    obtain ⟨rfl, ht⟩ | ⟨hne, ht⟩ := table_setTable b g f ((table b g).store h.slot.toNat new)
    · rw [ht]
      exact .wrote h old new hg
    · rw [ht]
      exact .same _ (fun h => List.not_mem_nil) fun h hd => by cases hd
  | destroyed g h old hg =>
    obtain ⟨rfl, ht⟩ | ⟨hne, ht⟩ := table_setTable b g f ((table b g).release h.slot.toNat)
    · rw [ht]
      exact .destroyed h old hg
    · rw [ht]
      refine .same _ (fun h => List.not_mem_nil) fun h' hd => ?_
      cases hd
      exact hne rfl

theorem live_step (b : B) (i : Input) (f : Family B) (h : Handle)
    (hl : (table (step b i).2 f).isLive h) :
    (∃ h₀, (f, h₀) ∈ (event b i).returned ∧ h₀.key = h.key) ∨
      (table b f).isLive h ∧ ∀ h', (event b i).destroyed = some (f, h') → h'.key ≠ h.key := by
  have hs := tableStep b i f
  generalize table (step b i).2 f = t' at hl hs
  generalize event b i = e at hs ⊢
  cases hs with
  | same e hr hd => exact .inr ⟨hl, fun h' he => absurd he (hd h')⟩
  | created state =>
    by_cases hk : ((table b f).insert (kind f) state).1.key = h.key
    · exact .inl ⟨_, List.mem_singleton.mpr rfl, hk⟩
    · refine .inr ⟨?_, fun h' he => by cases he⟩
      rwa [HandleTable.isLive, HandleTable.get_insert_of_key_ne _ _ _ _ (Ne.symm hk)] at hl
  | wrote h₀ old new hg =>
    exact .inr ⟨((table b f).isLive_store h₀ h old new hg).mp hl, fun h' he => by cases he⟩
  | destroyed h₀ old hg =>
    rw [HandleTable.isLive, HandleTable.get_release _ _ _ old hg] at hl
    split at hl
    · cases hl
    · rename_i hk
      refine .inr ⟨hl, fun h' he => ?_⟩
      cases he
      exact Ne.symm hk

theorem kind_of_returned (b : B) (i : Input) (f : Family B) (h : Handle)
    (hm : (f, h) ∈ (event b i).returned) : h.kind = kind f := by
  have hs := tableStep b i f
  generalize table (step b i).2 f = t' at hs
  generalize event b i = e at hs hm
  cases hs with
  | same e hr hd => exact absurd hm (hr h)
  | created state =>
    cases List.mem_singleton.mp hm
    exact (table b f).kind_insert (kind f) state
  | wrote => cases hm
  | destroyed => cases hm

def Issued {F : Type} (l : List (Input × Event F)) (f : F) (h : Handle) : Prop :=
  ∃ e ∈ l, (f, h) ∈ e.2.returned

theorem Issued.snoc_iff {F : Type} (l : List (Input × Event F)) (e : Input × Event F) (f : F)
    (h : Handle) : Issued (l ++ [e]) f h ↔ Issued l f h ∨ (f, h) ∈ e.2.returned := by
  simp [Issued, or_and_right, exists_or]

instance {F : Type} [DecidableEq F] (l : List (Input × Event F)) (f : F) (h : Handle) :
    Decidable (Issued l f h) :=
  inferInstanceAs (Decidable (∃ e ∈ l, (f, h) ∈ e.2.returned))

def stateAfter (B : Type) [Backend B] [Described B] (is : List Input) : B :=
  final observe (Tables.empty : B) is

def logOf (B : Type) [Backend B] [Described B] (is : List Input) :
    List (Input × Event (Family B)) :=
  log observe (Tables.empty : B) is

theorem stateAfter_snoc (is : List Input) (i : Input) :
    stateAfter B (is ++ [i]) = (step (stateAfter B is) i).2 := final_snoc _ is i

theorem logOf_snoc (is : List Input) (i : Input) :
    logOf B (is ++ [i]) = logOf B is ++ [(i, event (stateAfter B is) i)] := log_snoc _ is i

theorem table_stateAfter_nil (f : Family B) : table (stateAfter B []) f = HandleTable.new :=
  Tables.table_empty f

theorem outstanding_of_live (is : List Input) (f : Family B) (h : Handle)
    (hl : (table (stateAfter B is) f).isLive h) (hk : h.kind = kind f) :
    Outstanding (logOf B is) f h := by
  induction is using List.reverseRecOn with
  | nil =>
    rw [table_stateAfter_nil] at hl
    cases hl
  | append_singleton is i ih =>
    rw [stateAfter_snoc] at hl
    rw [logOf_snoc]
    obtain ⟨h₀, hm, hkey⟩ | ⟨hold, hne⟩ := live_step _ i f h hl
    · obtain ⟨hs, hg⟩ := (Handle.key_eq_iff _ _).mp hkey
      have heq : h₀ = h := Handle.ext_fields _ _ ((kind_of_returned _ i f h₀ hm).trans hk.symm) hg hs
      exact .of_returned _ _ f h (heq ▸ hm)
    · exact (ih hold).snoc _ hne

theorem kind_of_issued (is : List Input) (f : Family B) (h : Handle)
    (hi : Issued (logOf B is) f h) : h.kind = kind f := by
  induction is using List.reverseRecOn with
  | nil =>
    obtain ⟨e, he, -⟩ := hi
    exact absurd he List.not_mem_nil
  | append_singleton is i ih =>
    rw [logOf_snoc, Issued.snoc_iff] at hi
    obtain hi | hm := hi
    · exact ih hi
    · exact kind_of_returned _ i f h hm

theorem kind_of_outstanding (is : List Input) (f : Family B) (h : Handle)
    (ho : Outstanding (logOf B is) f h) : h.kind = kind f := by
  obtain ⟨before, e, after, hl, hm, -⟩ := ho
  refine kind_of_issued is f h ⟨e, ?_, hm⟩
  rw [hl]
  exact List.mem_append_right _ List.mem_cons_self

/-- Answering the request respects handles: it is answered only if every handle it names
was handed out for the family it is used in and not destroyed since; otherwise it is
refused and nothing changes. -/
def Respects (l : List (Input × Event (Family B))) (b : B) (i : Input) : Prop :=
  (∀ r, request B i.1 i.2 = .ok r → (∃ reply, (step b i).1 = .ok reply) →
    ∀ u ∈ uses b r, Outstanding l u.1 u.2) ∧
  ∀ e, (step b i).1 = .error e → (step b i).2 = b

/-- If the request passes the table lookups, its handles carry the kinds of the tables. -/
def KindsMatch (b : B) (i : Input) : Prop :=
  ∀ r, request B i.1 i.2 = .ok r → admits b r → ∀ u ∈ uses b r, u.2.kind = kind u.1

theorem answered_iff (b : B) (i : Input) (r : Request B) (hr : request B i.1 i.2 = .ok r) :
    (∃ reply, (step b i).1 = .ok reply) ↔ admits b r := by
  rw [step, handle_of_request_ok b _ _ r hr]
  exact Described.ok_iff b i.1 r

theorem respects_iff (is : List Input) (i : Input) :
    Respects (logOf B is) (stateAfter B is) i ↔ KindsMatch (stateAfter B is) i := by
  constructor
  · rintro ⟨h, -⟩ r hr ha u hu
    exact kind_of_outstanding is u.1 u.2 (h r hr ((answered_iff _ i r hr).mpr ha) u hu)
  · intro h
    refine ⟨fun r hr hok u hu => ?_, step_error _ i⟩
    have ha := (answered_iff _ i r hr).mp hok
    exact outstanding_of_live is u.1 u.2 (live_of_admits _ r ha u hu) (h r hr ha u hu)

end
end Graftx.Server
