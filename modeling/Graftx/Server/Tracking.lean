import Graftx.Server.History
import Graftx.Handles.Lifecycle

/-! When clients name only handles they were given, and slots do not run out, the tables
can be read off the log: a handle that was handed out resolves until a request destroys it,
and is never handed out again. Kind bytes play no part in this. -/
namespace Graftx.Server
open Graftx.Protocol Graftx.Handles Lib.Machine Lib.Ledger

def Destroyed {F : Type} (l : List (Input × Event F)) (f : F) (h : Handle) : Prop :=
  ∃ e ∈ l, e.2.destroyed = some (f, h)

def created {F : Type} [DecidableEq F] (l : List (Input × Event F)) (f : F) : Nat :=
  (l.flatMap fun e => e.2.returned).countP fun p => p.1 = f

theorem Destroyed.snoc_iff {F : Type} (l : List (Input × Event F)) (e : Input × Event F) (f : F)
    (h : Handle) : Destroyed (l ++ [e]) f h ↔ Destroyed l f h ∨ e.2.destroyed = some (f, h) := by
  simp [Destroyed, or_and_right, exists_or]

theorem created_snoc {F : Type} [DecidableEq F] (l : List (Input × Event F)) (e : Input × Event F)
    (f : F) :
    created (l ++ [e]) f = created l f + e.2.returned.countP fun p => p.1 = f := by
  simp [created]

section
variable {F : Type} [DecidableEq F] {α : Type} {k : UInt8} {f : F}
  {l : List (Input × Event F)} {t : HandleTable α} {e : Input × Event F}

/-- The table of family `f`, whose kind byte is `k`, stands as the log says. -/
structure Tracks (k : UInt8) (f : F) (l : List (Input × Event F)) (t : HandleTable α) : Prop where
  sound : t.Sound
  bounded : t.slots.length ≤ created l f
  kinds : ∀ h, Issued l f h → h.kind = k
  destroyed_issued : ∀ h, Destroyed l f h → Issued l f h
  live : ∀ h, Issued l f h → ¬ Destroyed l f h → t.phase h.key = .live
  spent : ∀ h, Destroyed l f h → t.phase h.key = .spent

theorem Tracks.start : Tracks k f [] (HandleTable.new : HandleTable α) where
  sound := HandleTable.sound_new
  bounded := Nat.le_refl 0
  kinds _ h := absurd h (by simp [Issued])
  destroyed_issued _ h := absurd h (by simp [Destroyed])
  live _ h := absurd h (by simp [Issued])
  spent _ h := absurd h (by simp [Destroyed])

theorem Tracks.not_fresh (ht : Tracks k f l t) (h : Handle) (hi : Issued l f h) :
    t.phase h.key ≠ .fresh := by
  by_cases hd : Destroyed l f h
  · rw [ht.spent h hd]
    decide
  · rw [ht.live h hi hd]
    decide

theorem Tracks.isLive_iff (ht : Tracks k f l t) (h : Handle) (hi : Issued l f h) :
    t.isLive h ↔ ¬ Destroyed l f h := by
  rw [HandleTable.isLive, ← t.phase_eq_live]
  constructor
  · intro hl hd
    rw [ht.spent h hd] at hl
    cases hl
  · exact ht.live h hi

theorem Tracks.quiet {t' : HandleTable α} (ht : Tracks k f l t) (hsound : t'.Sound)
    (hlen : t'.slots.length = t.slots.length) (hphase : ∀ key, t'.phase key = t.phase key)
    (hr : ∀ h, (f, h) ∉ e.2.returned) (hd : ∀ h, e.2.destroyed ≠ some (f, h)) :
    Tracks k f (l ++ [e]) t' := by
  have hissued (h : Handle) : Issued (l ++ [e]) f h ↔ Issued l f h := by
    simp [Issued.snoc_iff, hr]
  have hdestroyed (h : Handle) : Destroyed (l ++ [e]) f h ↔ Destroyed l f h := by
    simp [Destroyed.snoc_iff, hd]
  refine ⟨hsound, ?_, ?_, ?_, ?_, ?_⟩
  · rw [hlen, created_snoc]
    exact Nat.le_trans ht.bounded (Nat.le_add_right _ _)
  · exact fun h hi => ht.kinds h ((hissued h).mp hi)
  · exact fun h hd' => (hissued h).mpr (ht.destroyed_issued h ((hdestroyed h).mp hd'))
  · intro h hi hn
    rw [hphase]
    exact ht.live h ((hissued h).mp hi) fun hd' => hn ((hdestroyed h).mpr hd')
  · intro h hd'
    rw [hphase]
    exact ht.spent h ((hdestroyed h).mp hd')

theorem Tracks.insert (ht : Tracks k f l t) (v : α) (hfits : created l f < 2 ^ 32) (i : Input) :
    ¬ Issued l f (t.insert k v).1 ∧
      Tracks k f (l ++ [(i, ⟨[(f, (t.insert k v).1)], none⟩)]) (t.insert k v).2 := by
  obtain ⟨hfresh, hphase⟩ :=
    t.phase_insert k v ht.sound (Nat.lt_of_le_of_lt ht.bounded hfits)
  have hnew : ¬ Issued l f (t.insert k v).1 := fun hi => ht.not_fresh _ hi hfresh
  have hkey (h : Handle) (hi : Issued l f h) : h.key ≠ (t.insert k v).1.key := by
    intro heq
    refine ht.not_fresh h hi ?_
    rw [heq]
    exact hfresh
  refine ⟨hnew, t.sound_insert k v ht.sound, ?_, ?_, ?_, ?_, ?_⟩
  · have hlen := t.length_insert_le k v
    have hb := ht.bounded
    simp only [created_snoc, List.countP_singleton, decide_true, if_true]
    omega
  · intro h hi
    obtain hi | hm := (Issued.snoc_iff _ _ f h).mp hi
    · exact ht.kinds h hi
    · cases List.mem_singleton.mp hm
      exact t.kind_insert k v
  · intro h hd
    obtain hd | hd := (Destroyed.snoc_iff _ _ f h).mp hd
    · exact (Issued.snoc_iff _ _ f h).mpr (.inl (ht.destroyed_issued h hd))
    · cases hd
  · intro h hi hn
    rw [hphase]
    obtain hi | hm := (Issued.snoc_iff _ _ f h).mp hi
    · rw [if_neg (hkey h hi)]
      exact ht.live h hi fun hd => hn ((Destroyed.snoc_iff _ _ f h).mpr (.inl hd))
    · cases List.mem_singleton.mp hm
      exact if_pos rfl
  · intro h hd
    obtain hd | hd := (Destroyed.snoc_iff _ _ f h).mp hd
    · rw [hphase, if_neg (hkey h (ht.destroyed_issued h hd))]
      exact ht.spent h hd
    · cases hd

theorem Tracks.release (ht : Tracks k f l t) (h₀ : Handle) (v : α) (hg : t.get h₀ = some v)
    (hi₀ : Issued l f h₀) (i : Input) :
    Tracks k f (l ++ [(i, ⟨[], some (f, h₀)⟩)]) (t.release h₀.slot.toNat) := by
  obtain ⟨slot, hl, hv⟩ := (t.get_eq_some h₀ v).mp hg
  obtain ⟨hslot, hgen⟩ := (t.lookup_eq_some h₀ slot).mp hl
  have hsome : slot.value.isSome := by rw [hv]; rfl
  have hphase (key) : (t.release h₀.slot.toNat).phase key =
      if key = h₀.key then .spent else t.phase key := by
    rw [t.phase_release h₀.slot slot hslot hsome ht.sound, hgen]
    rfl
  have hissued (h : Handle) :
      Issued (l ++ [(i, ⟨[], some (f, h₀)⟩)]) f h ↔ Issued l f h := by
    simp [Issued.snoc_iff]
  refine ⟨t.sound_release h₀.slot slot hslot hsome ht.sound, ?_, ?_, ?_, ?_, ?_⟩
  · rw [t.length_release, created_snoc]
    exact Nat.le_trans ht.bounded (Nat.le_add_right _ _)
  · exact fun h hi => ht.kinds h ((hissued h).mp hi)
  · intro h hd
    obtain hd | hd := (Destroyed.snoc_iff _ _ f h).mp hd
    · exact (hissued h).mpr (ht.destroyed_issued h hd)
    · cases hd
      exact (hissued _).mpr hi₀
  · intro h hi hn
    have hi := (hissued h).mp hi
    have hne : h.key ≠ h₀.key := by
      intro hkey
      obtain ⟨hs, hg'⟩ := (Handle.key_eq_iff h h₀).mp hkey
      obtain rfl := Handle.ext_fields h h₀ ((ht.kinds h hi).trans (ht.kinds h₀ hi₀).symm) hg' hs
      exact hn ((Destroyed.snoc_iff _ _ f h).mpr (.inr rfl))
    rw [hphase, if_neg hne]
    exact ht.live h hi fun hd => hn ((Destroyed.snoc_iff _ _ f h).mpr (.inl hd))
  · intro h hd
    rw [hphase]
    obtain hd | hd := (Destroyed.snoc_iff _ _ f h).mp hd
    · split
      · rfl
      · exact ht.spent h hd
    · cases hd
      exact if_pos rfl

end

section
variable {B : Type} [Backend B] [Described B]

def AllTrack (l : List (Input × Event (Family B))) (b : B) : Prop :=
  ∀ f, Tracks (kind f) f l (table b f)

/-- Every handle a request names was handed out before, for the family it is used in. -/
def NamesIssued (l : List (Input × Event (Family B))) (b : B) (i : Input) : Prop :=
  ∀ r, request B i.1 i.2 = .ok r → ∀ u ∈ uses b r, Issued l u.1 u.2

theorem destroyed_used (b : B) (i : Input) (f : Family B) (h : Handle)
    (hd : (event b i).destroyed = some (f, h)) :
    ∃ r, request B i.1 i.2 = .ok r ∧ (f, h) ∈ uses b r := by
  obtain ⟨r, -, hr, -, heff⟩ := effect_of_destroyed b i f h hd
  exact ⟨r, hr, Described.destroy_used b r f h heff⟩

theorem allTrack_step (l : List (Input × Event (Family B))) (b : B) (i : Input)
    (ht : AllTrack l b) (hfits : ∀ f, created l f < 2 ^ 32) (hn : NamesIssued l b i) :
    AllTrack (l ++ [(i, event b i)]) (step b i).2 := by
  have hused (f : Family B) (h : Handle) (hd : (event b i).destroyed = some (f, h)) :
      Issued l f h := by
    obtain ⟨r, hr, hu⟩ := destroyed_used b i f h hd
    exact hn r hr (f, h) hu
  intro f
  have hs := tableStep b i f
  generalize table (step b i).2 f = t' at hs ⊢
  generalize event b i = e at hs hused ⊢
  cases hs with
  | same e hr hd => exact (ht f).quiet (ht f).sound rfl (fun _ => rfl) hr hd
  | created state => exact ((ht f).insert state (hfits f) i).2
  | wrote h₀ old new hg =>
    obtain ⟨slot, hslot, hv⟩ := (table b f).slot_of_get h₀ old hg
    have hsome : slot.value.isSome := by rw [hv]; rfl
    exact (ht f).quiet ((table b f).sound_store _ slot new hslot hsome (ht f).sound)
      ((table b f).length_store _ new) ((table b f).phase_store _ slot new hslot hsome)
      (by simp) (by simp)
  | destroyed h₀ old hg => exact (ht f).release h₀ old hg (hused f h₀ rfl) i

theorem never_issued (l : List (Input × Event (Family B))) (b : B) (i : Input)
    (ht : AllTrack l b) (hfits : ∀ f, created l f < 2 ^ 32) (f g : Family B) (h : Handle)
    (hm : (f, h) ∈ (event b i).returned) : ¬ Issued l g h := by
  have hk := kind_of_returned b i f h hm
  have hs := stepped b i
  generalize (step b i).2 = b' at hs
  generalize event b i = e at hs hm
  cases hs with
  | same e hr hd =>
    rw [hr] at hm
    cases hm
  | created f' state =>
    cases List.mem_singleton.mp hm
    intro hi
    obtain rfl := Tables.kind_inj f g (hk.symm.trans ((ht g).kinds _ hi))
    exact ((ht f).insert state (hfits f) i).1 hi
  | wrote => cases hm
  | destroyed => cases hm

theorem created_init_le (is : List Input) (i : Input) (f : Family B) :
    created (logOf B is) f ≤ created (logOf B (is ++ [i])) f := by
  rw [logOf_snoc, created_snoc]
  exact Nat.le_add_right _ _

end
end Graftx.Server
