import Graftx.Lib.Machine

/-! A machine with a component inside that some inputs reach. Over a whole run the component
goes through what it would go through alone, sent what reaches it and nothing else. -/
namespace Lib.Machine
universe u v w x y z r
variable {σ : Type u} {ι : Type v} {ο : Type w} {τ : Type x} {κ : Type y} {ρ : Type z} {ω : Type r}

section
variable (step : σ → ι → ο × σ) (sent : σ → ι → Option κ)

def inbox : σ → List ι → List κ
  | _, [] => []
  | s, i :: is => (sent s i).toList ++ inbox (step s i).2 is

def answersTo (answer : ο → ω) : σ → List ι → List ω
  | _, [] => []
  | s, i :: is =>
    ((sent s i).map fun _ => answer (step s i).1).toList ++ answersTo answer (step s i).2 is

end

/-- The conditions on single steps. `Holds s t` is that the component of `s` is `t`. -/
structure Component (step : σ → ι → ο × σ) (sent : σ → ι → Option κ) (Holds : σ → τ → Prop)
    (sub : τ → κ → ρ × τ) (answer : ο → ω) (subAnswer : ρ → ω) : Prop where
  quiet : ∀ s t i, Holds s t → sent s i = none → Holds (step s i).2 t
  reached : ∀ s t i k, Holds s t → sent s i = some k →
    Holds (step s i).2 (sub t k).2 ∧ answer (step s i).1 = subAnswer (sub t k).1

namespace Component
variable {step : σ → ι → ο × σ} {sent : σ → ι → Option κ} {Holds : σ → τ → Prop}
  {sub : τ → κ → ρ × τ} {answer : ο → ω} {subAnswer : ρ → ω}

theorem runs_alone (h : Component step sent Holds sub answer subAnswer) (s : σ) (t : τ)
    (hst : Holds s t) (is : List ι) :
    Holds (final step s is) (final sub t (inbox step sent s is)) ∧
      answersTo step sent answer s is =
        (log sub t (inbox step sent s is)).map fun e => subAnswer e.2 := by
  induction is generalizing s t with
  | nil => exact ⟨hst, rfl⟩
  | cons i is ih =>
    rw [inbox, answersTo, final]
    cases hi : sent s i with
    | none => exact ih _ t (h.quiet s t i hst hi)
    | some k =>
      obtain ⟨hnext, hans⟩ := h.reached s t i k hst hi
      obtain ⟨hrest, hlater⟩ := ih _ _ hnext
      refine ⟨hrest, ?_⟩
      rw [hlater, Option.map_some, hans]
      rfl

end Component
end Lib.Machine
