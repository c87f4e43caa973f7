import Graftx.Lib.Machine

/-! Names with a life cycle. A machine keeps a ledger when the phase of every name
only moves forward and an issued name was fresh. No name is then issued twice, and a
spent name stays spent. -/
namespace Lib.Ledger
open Lib.Machine
universe u v w x
variable {σ : Type u} {ι : Type v} {ο : Type w} {κ : Type x}

inductive Phase where
  | fresh | live | spent
  deriving DecidableEq, Repr

def Phase.rank : Phase → Nat
  | .fresh => 0
  | .live => 1
  | .spent => 2

@[simp] theorem Phase.rank_fresh : fresh.rank = 0 := rfl
@[simp] theorem Phase.rank_live : live.rank = 1 := rfl
@[simp] theorem Phase.rank_spent : spent.rank = 2 := rfl

theorem Phase.rank_le (p : Phase) : p.rank ≤ 2 := by
  cases p <;> decide

theorem Phase.rank_inj {p q : Phase} (h : p.rank = q.rank) : p = q := by
  cases p <;> cases q <;> first | rfl | cases h

theorem Phase.eq_fresh_of_le {p : Phase} (h : p.rank ≤ fresh.rank) : p = .fresh :=
  rank_inj (Nat.le_zero.mp h)

theorem Phase.eq_spent_of_le {p : Phase} (h : spent.rank ≤ p.rank) : p = .spent :=
  rank_inj (Nat.le_antisymm p.rank_le h)

/-- `Fits` is a capacity bound that later states can only break; `Inv` is what the
ledger rests on while the bound holds. -/
structure Keeps (step : σ → ι → ο × σ) (issues : ο → Option κ) (phase : σ → κ → Phase)
    (Fits Inv : σ → Prop) : Prop where
  fits_back : ∀ s i, Fits (step s i).2 → Fits s
  inv_step : ∀ s i, Inv s → Fits (step s i).2 → Inv (step s i).2
  forward : ∀ s i k, Inv s → Fits (step s i).2 → (phase s k).rank ≤ (phase (step s i).2 k).rank
  issue : ∀ s i k, Inv s → Fits (step s i).2 → issues (step s i).1 = some k →
    phase s k = .fresh ∧ phase (step s i).2 k = .live

variable {step : σ → ι → ο × σ} {issues : ο → Option κ} {phase : σ → κ → Phase}
  {Fits Inv : σ → Prop}

def issued (issues : ο → Option κ) (l : List (ι × ο)) : List κ := l.filterMap fun e => issues e.2

namespace Keeps
variable (L : Keeps step issues phase Fits Inv)
include L

theorem fits_start (s : σ) (is : List ι) (h : Fits (final step s is)) : Fits s := by
  induction is generalizing s with
  | nil => exact h
  | cons i is ih => exact L.fits_back s i (ih _ h)

theorem fits_prefix (s : σ) (is js : List ι) (h : Fits (final step s (is ++ js))) :
    Fits (final step s is) := by
  rw [final_append] at h
  exact L.fits_start _ js h

theorem inv_final (s : σ) (is : List ι) (hs : Inv s) (h : Fits (final step s is)) :
    Inv (final step s is) := by
  induction is generalizing s with
  | nil => exact hs
  | cons i is ih => exact ih _ (L.inv_step s i hs (L.fits_start _ is h)) h

theorem forward_final (s : σ) (is : List ι) (k : κ) (hs : Inv s) (h : Fits (final step s is)) :
    (phase s k).rank ≤ (phase (final step s is) k).rank := by
  induction is generalizing s with
  | nil => exact Nat.le_refl _
  | cons i is ih =>
    have hf := L.fits_start _ is h
    exact Nat.le_trans (L.forward s i k hs hf) (ih _ (L.inv_step s i hs hf) h)

theorem spent_final (s : σ) (is : List ι) (k : κ) (hs : Inv s) (h : Fits (final step s is))
    (hk : phase s k = .spent) : phase (final step s is) k = .spent := by
  have hf := L.forward_final s is k hs h
  rw [hk] at hf
  exact Phase.eq_spent_of_le hf

theorem spent_of_dropped (s : σ) (i : ι) (k : κ) (hs : Inv s) (h : Fits (step s i).2)
    (hlive : phase s k = .live) (hdrop : phase (step s i).2 k ≠ .live) :
    phase (step s i).2 k = .spent := by
  have hf := L.forward s i k hs h
  rw [hlive] at hf
  cases hp : phase (step s i).2 k with
  | fresh => rw [hp] at hf; exact absurd hf (by decide)
  | live => exact absurd hp hdrop
  | spent => rfl

theorem fresh_of_issued (s : σ) (is : List ι) (k : κ) (hs : Inv s) (h : Fits (final step s is))
    (hk : k ∈ issued issues (log step s is)) :
    phase s k = .fresh ∧ phase (final step s is) k ≠ .fresh := by
  induction is generalizing s with
  | nil => simp [issued, log] at hk
  | cons i is ih =>
    have hf := L.fits_start _ is h
    have hi := L.inv_step s i hs hf
    have hk' : issues (step s i).1 = some k ∨ k ∈ issued issues (log step (step s i).2 is) := by
      simp only [issued, log, List.filterMap_cons] at hk
      split at hk
      · exact .inr hk
      · rename_i hsome
        obtain rfl | hk := List.mem_cons.mp hk
        · exact .inl hsome
        · exact .inr hk
    obtain hnow | hlater := hk'
    · obtain ⟨hfresh, hlive⟩ := L.issue s i k hs hf hnow
      refine ⟨hfresh, fun hend => ?_⟩
      have hle := L.forward_final _ is k hi h
      rw [hlive] at hle
      change Phase.rank .live ≤ (phase (final step (step s i).2 is) k).rank at hle
      rw [show phase (final step (step s i).2 is) k = .fresh from hend] at hle
      exact absurd hle (by decide)
    · obtain ⟨hfresh, hend⟩ := ih _ hi h hlater
      have hle := L.forward s i k hs hf
      rw [hfresh] at hle
      exact ⟨Phase.eq_fresh_of_le hle, hend⟩

/-- No name is issued twice. -/
theorem issued_nodup (s : σ) (is : List ι) (hs : Inv s) (h : Fits (final step s is)) :
    (issued issues (log step s is)).Nodup := by
  induction is generalizing s with
  | nil => exact List.nodup_nil
  | cons i is ih =>
    have hf := L.fits_start _ is h
    have hi := L.inv_step s i hs hf
    have hrest := ih _ hi h
    simp only [issued, log, List.filterMap_cons]
    split
    · exact hrest
    · rename_i k hsome
      refine List.nodup_cons.mpr ⟨fun hmem => ?_, hrest⟩
      have hfresh := (L.fresh_of_issued _ is k hi h hmem).1
      rw [(L.issue s i k hs hf hsome).2] at hfresh
      cases hfresh

end Keeps
end Lib.Ledger
