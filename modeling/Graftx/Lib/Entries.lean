import Mathlib.Data.List.Dedup
import Mathlib.Data.List.Induction

/-! Maps filled entry by entry, each entry made on its first use, and the orders in which such
a map can be listed. -/
namespace Lib.Entries
universe u v w
variable {κ : Type u} {α : Type v} {β : Type w} [DecidableEq κ]

def upsert (m : κ → Option α) (k : κ) (d : α) (f : α → α) : κ → Option α := fun k' =>
  if k' = k then some (f ((m k).getD d)) else m k'

def itemsOf (k : κ) (xs : List (κ × β)) : List (κ × β) := xs.filter fun x => x.1 = k

theorem foldl_upsert (d : α) (add : α → β → α) (xs : List (κ × β)) (k : κ) :
    xs.foldl (fun m x => upsert m x.1 d (add · x.2)) (fun _ => none) k =
      if itemsOf k xs = [] then none
      else some ((itemsOf k xs).foldl (fun a x => add a x.2) d) := by
  induction xs using List.reverseRecOn with
  | nil => rfl
  | append_singleton xs x ih =>
    rw [List.foldl_concat, upsert]
    by_cases hk : k = x.1
    · subst hk
      have hsnoc : itemsOf x.1 (xs ++ [x]) = itemsOf x.1 xs ++ [x] := by simp [itemsOf]
      rw [if_pos rfl, ih, hsnoc, if_neg (List.append_ne_nil_of_right_ne_nil _ (by simp)),
        List.foldl_concat]
      split
      · rename_i hnil
        rw [hnil]
        rfl
      · rfl
    · have hskip : itemsOf k (xs ++ [x]) = itemsOf k xs := by simp [itemsOf, Ne.symm hk]
      rw [if_neg hk, ih, hskip]

/-- `rows` lists the entries of the map, each once, in some order. -/
structure Lists (m : κ → Option α) (rows : List (κ × α)) : Prop where
  nodup : (rows.map Prod.fst).Nodup
  mem_iff : ∀ k v, (k, v) ∈ rows ↔ m k = some v

omit [DecidableEq κ] in
theorem Lists.perm {m : κ → Option α} {rows rows' : List (κ × α)} (h : Lists m rows)
    (h' : Lists m rows') : rows.Perm rows' :=
  (List.perm_ext_iff_of_nodup (.of_map _ h.nodup) (.of_map _ h'.nodup)).mpr fun ⟨k, v⟩ =>
    (h.mem_iff k v).trans (h'.mem_iff k v).symm

theorem exists_lists (m : κ → Option α) (keys : List κ) (h : ∀ k v, m k = some v → k ∈ keys) :
    ∃ rows, Lists m rows := by
  have hkeys : ((keys.dedup.filterMap fun k => (m k).map fun v => (k, v)).map Prod.fst) =
      keys.dedup.filter fun k => (m k).isSome := by
    rw [List.map_filterMap, ← List.filterMap_eq_filter]
    refine List.filterMap_congr fun k _ => ?_
    cases hm : m k <;> simp [Option.guard, hm]
  refine ⟨_, ⟨hkeys ▸ (List.nodup_dedup keys).filter _, fun k v => ?_⟩⟩
  simp only [List.mem_filterMap, List.mem_dedup, Option.map_eq_some_iff, Prod.mk.injEq]
  constructor
  · rintro ⟨k', -, v', hv, rfl, rfl⟩
    exact hv
  · exact fun hv => ⟨k, h k v hv, v, hv, rfl, rfl⟩

end Lib.Entries
