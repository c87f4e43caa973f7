import Graftx.Lib.Machine

/-! A machine wrapped in another that passes every input on and keeps books about it. The one
outside answers as the one inside, and its books are what the log of the one inside adds up
to. -/
namespace Lib.Machine
universe u v w x y
variable {σ : Type u} {τ : Type v} {ι : Type w} {ο : Type x} {β : Type y}

/-- `outer` wraps `step`: what is inside a state of it, what its books say there, and how one
answered input is noted. -/
structure Keeps (outer : τ → ι → ο × τ) (step : σ → ι → ο × σ) (inside : τ → σ) (books : τ → β)
    (note : β → ι × ο → β) : Prop where
  answer : ∀ t i, (outer t i).1 = (step (inside t) i).1
  inside_step : ∀ t i, inside (outer t i).2 = (step (inside t) i).2
  books_step : ∀ t i, books (outer t i).2 = note (books t) (i, (outer t i).1)

namespace Keeps
variable {outer : τ → ι → ο × τ} {step : σ → ι → ο × σ} {inside : τ → σ} {books : τ → β}
  {note : β → ι × ο → β}

theorem log_eq (h : Keeps outer step inside books note) (t : τ) (is : List ι) :
    log outer t is = log step (inside t) is := by
  induction is generalizing t with
  | nil => rfl
  | cons i is ih => rw [log, log, h.answer, ih, h.inside_step]

theorem inside_final (h : Keeps outer step inside books note) (t : τ) (is : List ι) :
    inside (final outer t is) = final step (inside t) is := by
  induction is generalizing t with
  | nil => rfl
  | cons i is ih => rw [final, final, ih, h.inside_step]

theorem books_final (h : Keeps outer step inside books note) (t : τ) (is : List ι) :
    books (final outer t is) = (log step (inside t) is).foldl note (books t) := by
  induction is generalizing t with
  | nil => rfl
  | cons i is ih =>
    rw [final, ih, log, List.foldl_cons, h.inside_step, h.books_step, h.answer]

end Keeps
end Lib.Machine
