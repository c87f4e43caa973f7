import Mathlib.Data.List.Basic

/-! Text as a list of characters, and the lines of it: pieces that end with a newline, the last
of which may lack one. Neither the newline nor a carriage return before it belongs to a line. -/
namespace Lib.Lines

def splitInclusive : List Char → List (List Char)
  | [] => []
  | c :: cs =>
    if c = '\n' then [c] :: splitInclusive cs
    else match splitInclusive cs with
      | [] => [[c]]
      | l :: ls => (c :: l) :: ls

def stripSuffix (c : Char) (l : List Char) : Option (List Char) :=
  if l.getLast? = some c then some l.dropLast else none

/-- A piece without its line ending; a carriage return counts only before a newline. -/
def chomp (l : List Char) : List Char :=
  match stripSuffix '\n' l with
  | none => l
  | some l =>
    match stripSuffix '\r' l with
    | none => l
    | some l => l

def lines (text : List Char) : List (List Char) := (splitInclusive text).map chomp

def unlines (ls : List (List Char)) : List Char := ls.flatMap fun l => l ++ ['\n']

@[simp] theorem unlines_nil : unlines [] = [] := rfl

@[simp] theorem unlines_cons (l : List Char) (ls : List (List Char)) :
    unlines (l :: ls) = l ++ '\n' :: unlines ls := by
  simp [unlines]

theorem append_cons_inj {α : Type} {c : α} {p p' q q' : List α} (hp : c ∉ p) (hp' : c ∉ p')
    (h : p ++ c :: q = p' ++ c :: q') : p = p' ∧ q = q' := by
  induction p generalizing p' with
  | nil =>
    cases p' with
    | nil => simpa using h
    | cons x p' =>
      simp only [List.nil_append, List.cons_append, List.cons.injEq] at h
      exact absurd (h.1 ▸ List.mem_cons_self) hp'
  | cons x p ih =>
    cases p' with
    | nil =>
      simp only [List.nil_append, List.cons_append, List.cons.injEq] at h
      exact absurd (h.1 ▸ List.mem_cons_self) hp
    | cons x' p' =>
      simp only [List.cons_append, List.cons.injEq] at h
      obtain ⟨hq, hr⟩ := ih (fun hm => hp (List.mem_cons_of_mem x hm))
        (fun hm => hp' (List.mem_cons_of_mem x' hm)) h.2
      exact ⟨by rw [h.1, hq], hr⟩

theorem map_inj_on {α β : Type} {f : α → β} {P : α → Prop}
    (hf : ∀ a b, P a → P b → f a = f b → a = b)
    {xs ys : List α} (hx : ∀ a ∈ xs, P a) (hy : ∀ a ∈ ys, P a) (h : xs.map f = ys.map f) :
    xs = ys := by
  induction xs generalizing ys with
  | nil =>
    cases ys with
    | nil => rfl
    | cons y ys => cases h
  | cons x xs ih =>
    cases ys with
    | nil => cases h
    | cons y ys =>
      simp only [List.map_cons, List.cons.injEq] at h
      rw [hf x y (hx x List.mem_cons_self) (hy y List.mem_cons_self) h.1,
        ih (fun a ha => hx a (List.mem_cons_of_mem x ha))
          (fun a ha => hy a (List.mem_cons_of_mem y ha)) h.2]

theorem unlines_inj {ls ls' : List (List Char)} (h : ∀ l ∈ ls, '\n' ∉ l)
    (h' : ∀ l ∈ ls', '\n' ∉ l) (he : unlines ls = unlines ls') : ls = ls' := by
  induction ls generalizing ls' with
  | nil =>
    cases ls' with
    | nil => rfl
    | cons l' ls' => simp at he
  | cons l ls ih =>
    cases ls' with
    | nil => simp at he
    | cons l' ls' =>
      rw [unlines_cons, unlines_cons] at he
      obtain ⟨hl, hls⟩ := append_cons_inj (h l List.mem_cons_self) (h' l' List.mem_cons_self) he
      have htail := ih (fun m hm => h m (List.mem_cons_of_mem l hm))
        (fun m hm => h' m (List.mem_cons_of_mem l' hm)) hls
      rw [hl, htail]

theorem append_marked_inj {α : Type} {mark : α → Prop} {p p' q q' : List α}
    (hp : ∀ a ∈ p, ¬ mark a) (hp' : ∀ a ∈ p', ¬ mark a) (hq : ∀ a ∈ q.head?, mark a)
    (hq' : ∀ a ∈ q'.head?, mark a) (h : p ++ q = p' ++ q') : p = p' ∧ q = q' := by
  induction p generalizing p' with
  | nil =>
    cases p' with
    | nil => exact ⟨rfl, h⟩
    | cons x p' =>
      rw [List.nil_append] at h
      exact absurd (hq x (by rw [h]; rfl)) (hp' x List.mem_cons_self)
  | cons x p ih =>
    cases p' with
    | nil =>
      rw [List.nil_append] at h
      exact absurd (hq' x (by rw [← h]; rfl)) (hp x List.mem_cons_self)
    | cons x' p' =>
      simp only [List.cons_append, List.cons.injEq] at h
      obtain ⟨hpp, hqq⟩ := ih (fun a ha => hp a (List.mem_cons_of_mem x ha))
        (fun a ha => hp' a (List.mem_cons_of_mem x' ha)) h.2
      exact ⟨by rw [h.1, hpp], hqq⟩

/-- Sections, each a marked heading with unmarked entries under it, can be told apart. -/
theorem sections_inj {α β : Type} (mark : β → Prop) {heading : α → β} {body : α → List β}
    (hheading : ∀ a, mark (heading a)) (hbody : ∀ a, ∀ l ∈ body a, ¬ mark l)
    (hinj : ∀ a b, heading a = heading b → body a = body b → a = b) {xs ys : List α}
    (h : xs.flatMap (fun a => heading a :: body a) = ys.flatMap fun a => heading a :: body a) :
    xs = ys := by
  have hhead (zs : List α) : ∀ l ∈ (zs.flatMap fun a => heading a :: body a).head?, mark l := by
    intro l hl
    cases zs with
    | nil => cases hl
    | cons a zs =>
      cases hl
      exact hheading a
  induction xs generalizing ys with
  | nil =>
    cases ys with
    | nil => rfl
    | cons y ys => cases h
  | cons x xs ih =>
    cases ys with
    | nil => cases h
    | cons y ys =>
      simp only [List.flatMap_cons, List.cons_append, List.cons.injEq] at h
      obtain ⟨hhd, htl⟩ := h
      obtain ⟨hb, hrest⟩ := append_marked_inj (hbody x) (hbody y) (hhead xs) (hhead ys) htl
      rw [hinj x y hhd hb, ih hrest]

end Lib.Lines
