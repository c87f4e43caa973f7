import Mathlib.Data.Finmap

/-! The finite map that a list stands for when every element carries its own key. -/
namespace Lib.KeyedMap
universe u v
variable {α : Type u} {κ : Type v} [DecidableEq κ]

def keyed (key : α → κ) (l : List α) : Finmap fun _ : κ => α :=
  (l.map fun a => (⟨key a, a⟩ : Sigma fun _ : κ => α)).toFinmap

theorem keyed_nil (key : α → κ) : keyed key [] = ∅ := rfl

variable {key : α → κ} {l : List α}

omit [DecidableEq κ] in
theorem nodupKeys_map (hl : (l.map key).Nodup) :
    (l.map fun a => (⟨key a, a⟩ : Sigma fun _ : κ => α)).NodupKeys := by
  rw [List.NodupKeys, List.keys, List.map_map]
  exact hl

theorem lookup_keyed (hl : (l.map key).Nodup) (k : κ) (a : α) :
    (keyed key l).lookup k = some a ↔ a ∈ l ∧ key a = k := by
  rw [keyed, Finmap.dlookup_list_toFinmap, ← Option.mem_def,
    List.mem_dlookup_iff (nodupKeys_map hl), List.mem_map]
  constructor
  · rintro ⟨b, hb, he⟩
    cases he
    exact ⟨hb, rfl⟩
  · rintro ⟨ha, rfl⟩
    exact ⟨a, ha, rfl⟩

theorem card_keyed (hl : (l.map key).Nodup) : (keyed key l).keys.card = l.length := by
  have hkeys : (keyed key l).keys = (l.map key).toFinset := by
    ext k
    rw [Finmap.mem_keys, Finmap.mem_iff, List.mem_toFinset, List.mem_map]
    simp only [lookup_keyed hl]
  rw [hkeys, List.toFinset_card_of_nodup hl, List.length_map]

variable {m m' : Finmap fun _ : κ => α}

theorem ext_some (h : ∀ k a, m.lookup k = some a ↔ m'.lookup k = some a) : m = m' :=
  Finmap.ext_lookup fun k => Option.ext fun a => h k a

theorem lookup_insert_iff (k₀ k : κ) (a₀ a : α) :
    (m.insert k₀ a₀).lookup k = some a ↔ k = k₀ ∧ a₀ = a ∨ k ≠ k₀ ∧ m.lookup k = some a := by
  by_cases hk : k = k₀
  · subst hk
    rw [Finmap.lookup_insert]
    simp
  · rw [Finmap.lookup_insert_of_ne m hk]
    simp [hk]

theorem lookup_erase_iff (k₀ k : κ) (a : α) :
    (m.erase k₀).lookup k = some a ↔ k ≠ k₀ ∧ m.lookup k = some a := by
  by_cases hk : k = k₀
  · subst hk
    rw [Finmap.lookup_erase]
    simp
  · rw [Finmap.lookup_erase_ne hk]
    simp [hk]

end Lib.KeyedMap
