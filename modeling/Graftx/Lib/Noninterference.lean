import Graftx.Lib.Machine

/-! Noninterference for machines that answer every input. The inputs of one party are told
apart, and so is the part of the state they depend on; the inputs of everybody else can then
be left out of a run without that party noticing. -/
namespace Lib.Machine
universe u v w x y
variable {σ : Type u} {ι : Type v} {ο : Type w} {ν : Type x} {ω : Type y}

def observed (mine : ι → Bool) (observe : ο → ω) (l : List (ι × ο)) : List (ι × ω) :=
  (l.filter fun e => mine e.1).map fun e => (e.1, observe e.2)

theorem observed_cons (mine : ι → Bool) (observe : ο → ω) (e : ι × ο) (l : List (ι × ο)) :
    observed mine observe (e :: l) =
      if mine e.1 then (e.1, observe e.2) :: observed mine observe l
      else observed mine observe l := by
  rw [observed, List.filter_cons]
  split <;> rfl

/-- The conditions on single steps: a foreign input leaves the view alone, and what an own
input yields, as an answer and as the next view, depends on the view only. -/
structure Unwinds (step : σ → ι → ο × σ) (allowed : ι → Prop) (mine : ι → Bool) (view : σ → ν)
    (observe : ο → ω) : Prop where
  respect : ∀ s i, allowed i → mine i = false → view (step s i).2 = view s
  output : ∀ s s' i, allowed i → mine i → view s = view s' →
    observe (step s i).1 = observe (step s' i).1
  consistent : ∀ s s' i, allowed i → mine i → view s = view s' →
    view (step s i).2 = view (step s' i).2

namespace Unwinds
variable {step : σ → ι → ο × σ} {allowed : ι → Prop} {mine : ι → Bool} {view : σ → ν}
  {observe : ο → ω}

/-- Leaving the foreign inputs out changes neither the observations nor the final view. -/
theorem purge (h : Unwinds step allowed mine view observe) (s s' : σ) (is : List ι)
    (hallow : ∀ i ∈ is, allowed i) (hs : view s = view s') :
    observed mine observe (log step s is) = observed mine observe (log step s' (is.filter mine)) ∧
      view (final step s is) = view (final step s' (is.filter mine)) := by
  induction is generalizing s s' with
  | nil => exact ⟨rfl, hs⟩
  | cons i is ih =>
    have hi := hallow i List.mem_cons_self
    have his : ∀ j ∈ is, allowed j := fun j hj => hallow j (List.mem_cons_of_mem i hj)
    cases hm : mine i with
    | false =>
      obtain ⟨hobs, hview⟩ := ih _ s' his ((h.respect s i hi hm).trans hs)
      rw [List.filter_cons_of_neg (by simp [hm])]
      refine ⟨?_, hview⟩
      rw [log, observed_cons, if_neg (by simp [hm]), hobs]
    | true =>
      obtain ⟨hobs, hview⟩ := ih _ _ his (h.consistent s s' i hi hm hs)
      rw [List.filter_cons_of_pos hm]
      refine ⟨?_, hview⟩
      rw [log, log, observed_cons, observed_cons, if_pos hm, if_pos hm, hobs,
        h.output s s' i hi hm hs]

/-- Two runs with the same own inputs in the same order cannot be told apart. -/
theorem noninterference (h : Unwinds step allowed mine view observe) (s : σ) (is js : List ι)
    (his : ∀ i ∈ is, allowed i) (hjs : ∀ j ∈ js, allowed j)
    (heq : is.filter mine = js.filter mine) :
    observed mine observe (log step s is) = observed mine observe (log step s js) ∧
      view (final step s is) = view (final step s js) := by
  obtain ⟨hobs, hview⟩ := h.purge s s is his rfl
  obtain ⟨hobs', hview'⟩ := h.purge s s js hjs rfl
  rw [hobs, hview, hobs', hview', heq]
  exact ⟨rfl, rfl⟩

end Unwinds
end Lib.Machine
