import Graftx.Lib.Machine

/-! Machines that may refuse an input, and runs that end with the first refusal: the replies
to the longest prefix of the inputs that is accepted. -/
namespace Lib.Machine
universe u v w x
variable {σ : Type u} {ι : Type v} {ε : Type w} {α : Type x}

/-- The replies to the inputs in order, up to the first one that is refused. -/
def repliesTo (step : σ → ι → Except ε α × σ) : σ → List ι → List α
  | _, [] => []
  | s, i :: is =>
    match step s i with
    | (.error _, _) => []
    | (.ok a, s') => a :: repliesTo step s' is

def AllAnswered (step : σ → ι → Except ε α × σ) (s : σ) (is : List ι) : Prop :=
  (repliesTo step s is).length = is.length

instance (step : σ → ι → Except ε α × σ) (s : σ) (is : List ι) :
    Decidable (AllAnswered step s is) := inferInstanceAs (Decidable (_ = _))

variable {step : σ → ι → Except ε α × σ}

theorem repliesTo_cons_ok (s s' : σ) (i : ι) (is : List ι) (a : α) (h : step s i = (.ok a, s')) :
    repliesTo step s (i :: is) = a :: repliesTo step s' is := by
  rw [repliesTo, h]

theorem repliesTo_cons_error (s s' : σ) (i : ι) (is : List ι) (e : ε)
    (h : step s i = (.error e, s')) : repliesTo step s (i :: is) = [] := by
  rw [repliesTo, h]

theorem allAnswered_nil (s : σ) : AllAnswered step s [] := rfl

theorem allAnswered_cons_ok (s s' : σ) (i : ι) (is : List ι) (a : α)
    (h : step s i = (.ok a, s')) : AllAnswered step s (i :: is) ↔ AllAnswered step s' is := by
  rw [AllAnswered, AllAnswered, repliesTo_cons_ok s s' i is a h, List.length_cons, List.length_cons]
  exact Nat.add_right_cancel_iff

theorem not_allAnswered_cons (s s' : σ) (i : ι) (is : List ι) (e : ε)
    (h : step s i = (.error e, s')) : ¬ AllAnswered step s (i :: is) := by
  rw [AllAnswered, repliesTo_cons_error s s' i is e h]
  exact (Nat.succ_ne_zero _).symm

theorem length_repliesTo_le (s : σ) (is : List ι) : (repliesTo step s is).length ≤ is.length := by
  induction is generalizing s with
  | nil => exact Nat.le_refl _
  | cons i is ih =>
    rcases h : step s i with ⟨r, s'⟩
    cases r with
    | error e =>
      rw [repliesTo_cons_error s s' i is e h]
      exact Nat.zero_le _
    | ok a =>
      rw [repliesTo_cons_ok s s' i is a h]
      exact Nat.succ_le_succ (ih s')

theorem repliesTo_append (s : σ) (is js : List ι) :
    (AllAnswered step s is →
      repliesTo step s (is ++ js) = repliesTo step s is ++ repliesTo step (final step s is) js) ∧
    (¬ AllAnswered step s is → repliesTo step s (is ++ js) = repliesTo step s is) := by
  induction is generalizing s with
  | nil => exact ⟨fun _ => rfl, fun h => absurd (allAnswered_nil s) h⟩
  | cons i is ih =>
    rcases h : step s i with ⟨r, s'⟩
    cases r with
    | error e =>
      have hno := not_allAnswered_cons s s' i is e h
      rw [List.cons_append, repliesTo_cons_error s s' i _ e h, repliesTo_cons_error s s' i is e h]
      exact ⟨fun hall => absurd hall hno, fun _ => rfl⟩
    | ok a =>
      obtain ⟨hyes, hno⟩ := ih s'
      rw [List.cons_append, repliesTo_cons_ok s s' i _ a h, repliesTo_cons_ok s s' i is a h,
        allAnswered_cons_ok s s' i is a h, final, h]
      exact ⟨fun hall => by rw [hyes hall, List.cons_append], fun hall => by rw [hno hall]⟩

theorem repliesTo_grows (s : σ) (is js : List ι) :
    List.IsPrefix (repliesTo step s is) (repliesTo step s (is ++ js)) := by
  obtain ⟨hyes, hno⟩ : (AllAnswered step s is → _) ∧ _ := repliesTo_append s is js
  by_cases h : AllAnswered step s is
  · rw [hyes h]
    exact List.prefix_append _ _
  · exact ⟨[], by rw [List.append_nil, hno h]⟩

theorem allAnswered_of_append (s : σ) (is js : List ι) (h : AllAnswered step s (is ++ js)) :
    AllAnswered step s is := by
  by_contra hno
  have hle : (repliesTo step s is).length ≤ is.length := length_repliesTo_le s is
  rw [AllAnswered, (repliesTo_append s is js).2 hno, List.length_append] at h
  exact hno (Nat.le_antisymm hle (by omega))

theorem repliesTo_snoc_ok (s : σ) (is : List ι) (i : ι) (a : α) (hall : AllAnswered step s is)
    (h : (step (final step s is) i).1 = .ok a) :
    repliesTo step s (is ++ [i]) = repliesTo step s is ++ [a] ∧ AllAnswered step s (is ++ [i]) := by
  have hlast : repliesTo step (final step s is) [i] = [a] :=
    repliesTo_cons_ok _ _ i [] a (Prod.ext h rfl)
  have heq : repliesTo step s (is ++ [i]) = repliesTo step s is ++ [a] := by
    rw [(repliesTo_append s is [i]).1 hall, hlast]
  refine ⟨heq, ?_⟩
  rw [AllAnswered, heq, List.length_append, List.length_append, hall]
  rfl

theorem repliesTo_snoc_error (s : σ) (is : List ι) (i : ι) (e : ε) (hall : AllAnswered step s is)
    (h : (step (final step s is) i).1 = .error e) :
    repliesTo step s (is ++ [i]) = repliesTo step s is := by
  have hlast : repliesTo step (final step s is) [i] = [] :=
    repliesTo_cons_error _ _ i [] e (Prod.ext h rfl)
  rw [(repliesTo_append s is [i]).1 hall, hlast, List.append_nil]

theorem length_repliesTo_refused (s : σ) (is : List ι) (i : ι) (e : ε)
    (h : (step (final step s is) i).1 = .error e) :
    (repliesTo step s (is ++ [i])).length ≤ is.length := by
  have hle : (repliesTo step s is).length ≤ is.length := length_repliesTo_le s is
  by_cases hall : AllAnswered step s is
  · rwa [repliesTo_snoc_error s is i e hall h]
  · rwa [(repliesTo_append s is [i]).2 hall]

theorem reply_at (s : σ) (is : List ι) (k : Nat) (a : α) (h : (repliesTo step s is)[k]? = some a) :
    ∃ i, is[k]? = some i ∧ (step (final step s (is.take k)) i).1 = .ok a := by
  induction is generalizing s k with
  | nil => cases h
  | cons i is ih =>
    rcases hs : step s i with ⟨r, s'⟩
    cases r with
    | error e =>
      rw [repliesTo_cons_error s s' i is e hs] at h
      cases h
    | ok b =>
      rw [repliesTo_cons_ok s s' i is b hs] at h
      cases k with
      | zero =>
        cases h
        exact ⟨i, rfl, by rw [List.take_zero, final, hs]⟩
      | succ k =>
        obtain ⟨j, hj, hr⟩ := ih s' k h
        exact ⟨j, hj, by rwa [List.take_succ_cons, final, hs]⟩

theorem forall_mem_repliesTo {P : α → Prop} (h : ∀ s i a, (step s i).1 = .ok a → P a) (s : σ)
    (is : List ι) : ∀ a ∈ repliesTo step s is, P a := by
  intro a ha
  obtain ⟨k, hk⟩ := List.getElem?_of_mem ha
  obtain ⟨i, -, hi⟩ := reply_at s is k a hk
  exact h _ i a hi

end Lib.Machine
