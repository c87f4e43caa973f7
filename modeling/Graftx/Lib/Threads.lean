import Mathlib.Data.List.Basic

/-! Threads over one state, each of which can move or has to wait. Where two threads that can
both move do not disturb each other, one complete run decides them all. -/
namespace Lib.Threads
universe u v
variable {ι : Type u} {σ : Type v} {move : σ → ι → Option σ} {Inv : σ → Prop}

/-- The state after giving a turn to one thread. A thread that has to wait does nothing. -/
def turn (move : σ → ι → Option σ) (s : σ) (i : ι) : σ := (move s i).getD s

def run (move : σ → ι → Option σ) (s : σ) (schedule : List ι) : σ := schedule.foldl (turn move) s

def Stuck (move : σ → ι → Option σ) (s : σ) : Prop := ∀ i, move s i = none

inductive Reaches (move : σ → ι → Option σ) : Nat → σ → σ → Prop where
  | refl (s : σ) : Reaches move 0 s s
  | cons {n : Nat} {s s' z : σ} (i : ι) (h : move s i = some s') (rest : Reaches move n s' z) :
      Reaches move (n + 1) s z

/-- `Inv` is kept by every move, and where it holds, the moves of two different threads can be
made in either order. -/
structure Independent (move : σ → ι → Option σ) (Inv : σ → Prop) : Prop where
  keeps : ∀ s i s', Inv s → move s i = some s' → Inv s'
  commute : ∀ s i j a b, Inv s → i ≠ j → move s i = some a → move s j = some b →
    ∃ c, move a j = some c ∧ move b i = some c

theorem turn_of_some {s s' : σ} {i : ι} (h : move s i = some s') : turn move s i = s' := by
  rw [turn, h, Option.getD_some]

theorem turn_of_none {s : σ} {i : ι} (h : move s i = none) : turn move s i = s := by
  rw [turn, h, Option.getD_none]

theorem Reaches.trans {m n : Nat} {s t z : σ} (h : Reaches move m s t) (h' : Reaches move n t z) :
    Reaches move (m + n) s z := by
  induction h with
  | refl s => rwa [Nat.zero_add]
  | cons i hi rest ih =>
    rw [Nat.add_right_comm]
    exact .cons i hi (ih h')

theorem Reaches.one {s s' : σ} (i : ι) (h : move s i = some s') : Reaches move 1 s s' :=
  .cons i h (.refl s')

theorem Reaches.keeps {n : Nat} {s z : σ} (h : Reaches move n s z)
    (hkeeps : ∀ s i s', Inv s → move s i = some s' → Inv s') (hs : Inv s) : Inv z := by
  induction h with
  | refl s => exact hs
  | cons i hi rest ih => exact ih (hkeeps _ i _ hs hi)

theorem run_keeps (hkeeps : ∀ s i s', Inv s → move s i = some s' → Inv s') {s : σ} (hs : Inv s)
    (schedule : List ι) : Inv (run move s schedule) := by
  refine List.foldlRecOn schedule (turn move) hs fun s hs i _ => ?_
  cases h : move s i with
  | none => rwa [turn_of_none h]
  | some s' =>
    rw [turn_of_some h]
    exact hkeeps s i s' hs h

/-- One move more or less: after any first move the same end is reached, one move sooner. -/
theorem Independent.after_move (hind : Independent move Inv) {n : Nat} {s z : σ}
    (h : Reaches move n s z) (hz : Stuck move z) (hs : Inv s) {i : ι} {a : σ}
    (ha : move s i = some a) : ∃ m, n = m + 1 ∧ Reaches move m a z := by
  induction h generalizing i a with
  | refl s =>
    rw [hz i] at ha
    cases ha
  | @cons n s b z j hb rest ih =>
    refine ⟨n, rfl, ?_⟩
    -- another thread went first here: the two moves commute
    by_cases hij : i = j
    · subst hij
      rw [ha] at hb
      cases hb
      exact rest
    · obtain ⟨c, hac, hbc⟩ := hind.commute s i j a b hs hij ha hb
      obtain ⟨m, rfl, hm⟩ := ih hz (hind.keeps s j b hs hb) hbc
      exact .cons j hac hm

theorem Independent.after_run (hind : Independent move Inv) {n : Nat} {s z : σ}
    (h : Reaches move n s z) (hz : Stuck move z) (hs : Inv s) (schedule : List ι) :
    ∃ m ≤ n, Reaches move m (run move s schedule) z := by
  induction schedule generalizing n s with
  | nil => exact ⟨n, Nat.le_refl n, h⟩
  | cons i schedule ih =>
    change ∃ m ≤ n, Reaches move m (run move (turn move s i) schedule) z
    cases hm : move s i with
    | none =>
      rw [turn_of_none hm]
      exact ih h hs
    | some a =>
      rw [turn_of_some hm]
      obtain ⟨m, rfl, hr⟩ := hind.after_move h hz hs hm
      obtain ⟨k, hk, hrun⟩ := ih hr (hind.keeps s i a hs hm)
      exact ⟨k, Nat.le_succ_of_le hk, hrun⟩

/-- A schedule that has stopped for good stopped at that end. -/
theorem Independent.stuck_eq (hind : Independent move Inv) {n : Nat} {s z : σ}
    (h : Reaches move n s z) (hz : Stuck move z) (hs : Inv s) (schedule : List ι)
    (hstuck : Stuck move (run move s schedule)) : run move s schedule = z := by
  obtain ⟨m, -, hr⟩ := hind.after_run h hz hs schedule
  cases hr with
  | refl => rfl
  | cons i hi rest =>
    rw [hstuck i] at hi
    cases hi

/-- A schedule of rounds, in each of which every thread gets a turn. -/
def Fair (n : Nat) (schedule : List ι) : Prop :=
  ∃ rounds : List (List ι), rounds.length = n ∧ rounds.flatten = schedule ∧
    ∀ round ∈ rounds, ∀ i, i ∈ round

theorem run_append (s : σ) (schedule later : List ι) :
    run move s (schedule ++ later) = run move (run move s schedule) later := List.foldl_append

theorem exists_first_mover {s : σ} {schedule : List ι} (h : ∃ i ∈ schedule, (move s i).isSome) :
    ∃ before i after a, schedule = before ++ i :: after ∧ run move s before = s ∧
      move s i = some a := by
  induction schedule with
  | nil =>
    obtain ⟨i, hi, -⟩ := h
    cases hi
  | cons k schedule ih =>
    cases hk : move s k with
    | some a => exact ⟨[], k, schedule, a, rfl, rfl, hk⟩
    | none =>
      have hlater : ∃ i ∈ schedule, (move s i).isSome := by
        obtain ⟨i, hi, hsome⟩ := h
        obtain rfl | hi := List.mem_cons.mp hi
        · rw [hk] at hsome
          cases hsome
        · exact ⟨i, hi, hsome⟩
      obtain ⟨before, i, after, a, rfl, hbefore, ha⟩ := ih hlater
      refine ⟨k :: before, i, after, a, rfl, ?_, ha⟩
      change run move (turn move s k) before = s
      rw [turn_of_none hk, hbefore]

theorem Independent.after_round (hind : Independent move Inv) {n : Nat} {s z : σ}
    (h : Reaches move (n + 1) s z) (hz : Stuck move z) (hs : Inv s) (round : List ι)
    (hall : ∀ i, i ∈ round) : ∃ m ≤ n, Reaches move m (run move s round) z := by
  have hmover : ∃ i ∈ round, (move s i).isSome := by
    cases h with
    | cons i hi rest => exact ⟨i, hall i, by rw [hi]; rfl⟩
  obtain ⟨before, i, after, a, rfl, hbefore, ha⟩ := exists_first_mover hmover
  have hrun : run move s (before ++ i :: after) = run move a after := by
    rw [run_append, hbefore]
    change run move (turn move s i) after = _
    rw [turn_of_some ha]
  obtain ⟨m, hm, hr⟩ := hind.after_move h hz hs ha
  obtain rfl : m = n := (Nat.succ.inj hm).symm
  rw [hrun]
  exact hind.after_run hr hz (hind.keeps s i a hs ha) after

/-- With as many rounds as the complete run has moves, every schedule gets to the end. -/
theorem Independent.fair_eq (hind : Independent move Inv) {n : Nat} {s z : σ}
    (h : Reaches move n s z) (hz : Stuck move z) (hs : Inv s) {k : Nat} (hk : n ≤ k)
    (schedule : List ι) (hfair : Fair k schedule) : run move s schedule = z := by
  obtain ⟨rounds, hlen, rfl, hall⟩ := hfair
  induction rounds generalizing n s k with
  | nil =>
    obtain rfl : n = 0 := by
      rw [List.length_nil] at hlen
      omega
    cases h
    rfl
  | cons round rounds ih =>
    rw [List.flatten_cons, run_append]
    rw [List.length_cons] at hlen
    have hrest : ∀ r ∈ rounds, ∀ i, i ∈ r := fun r hr => hall r (List.mem_cons_of_mem round hr)
    have hs' := run_keeps hind.keeps hs round
    have hround : ∃ m ≤ n - 1, Reaches move m (run move s round) z := by
      cases n with
      | zero => exact hind.after_run h hz hs round
      | succ n => exact hind.after_round h hz hs round (hall round List.mem_cons_self)
    obtain ⟨m, hm, hr⟩ := hround
    exact ih (k := rounds.length) hr hs' (by omega) rfl hrest

end Lib.Threads
