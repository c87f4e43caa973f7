import Graftx.Handles.IndexLimit

/-! The null handle. It has the key of the first entry of every table, and a table looks at
the key only; so it stands for that entry for as long as the entry is there. -/
namespace Graftx.Handles
open Graftx.Protocol Lib.Machine
universe u
variable {α : Type u}

def nullHandle : Handle := Handle.fromRaw 0

theorem slot_nullHandle : nullHandle.slot = 0 := by decide

theorem generation_nullHandle : nullHandle.generation = 0 := by decide

theorem key_eq_null_iff (h : Handle) :
    h.key = nullHandle.key ↔ h.slot = 0 ∧ h.generation = 0 := by
  rw [Handle.key_eq_iff, slot_nullHandle, generation_nullHandle]

namespace HandleTable

structure IgnoresNull (t : HandleTable α) : Prop where
  contains : t.contains nullHandle = false
  isLive : t.isLive nullHandle = false
  get : t.get nullHandle = none
  remove : t.remove nullHandle = (none, t)

theorem ignoresNull_iff (t : HandleTable α) : t.IgnoresNull ↔ t.get nullHandle = none := by
  refine ⟨fun h => h.get, fun h => ?_⟩
  have hlive : t.isLive nullHandle = false := by
    rw [HandleTable.isLive, h]
    rfl
  exact ⟨hlive, hlive, h, t.remove_of_get_none _ h⟩

theorem get_null_nil (t : HandleTable α) (hs : t.slots = []) : t.get nullHandle = none := by
  rw [get, lookup, hs]
  rfl

theorem get_null_cons (t : HandleTable α) (slot : Slot α) (rest : List (Slot α))
    (hs : t.slots = slot :: rest) :
    t.get nullHandle = if slot.generation = 0 then slot.value else none := by
  rw [get, lookup, hs, slot_nullHandle, generation_nullHandle]
  simp only [UInt32.toNat_zero, List.getElem?_cons_zero]
  by_cases hg : slot.generation = 0
  · rw [if_neg (not_not.mpr hg), if_pos hg]
  · rw [if_pos hg, if_neg hg]

theorem get_null_first (t : HandleTable α) (kind : UInt8) (v : α) (hs : t.slots = []) :
    (t.insert kind v).2.get nullHandle = some v := by
  obtain ⟨i, free, slot, -, hi, -⟩ | ⟨-, -, ⟨slot, hg, -, hv, -, hslots⟩, -⟩ :=
    t.insert_cases kind v
  · rw [hs] at hi
    cases hi
  · rw [hs, List.nil_append] at hslots
    rw [get_null_cons _ slot [] hslots, if_pos hg, hv]

theorem get_null_insert (t : HandleTable α) (kind : UInt8) (v : α) (ht : t.Dated)
    (hs : t.slots ≠ []) :
    (t.insert kind v).2.get nullHandle = none ↔ t.get nullHandle = none := by
  obtain ⟨slot₀, rest, hcons⟩ := List.exists_cons_of_ne_nil hs
  rw [t.get_null_cons slot₀ rest hcons]
  obtain ⟨i, free, slot, -, hi, -, hslots, -⟩ | ⟨-, -, ⟨slot, -, -, -, -, hslots⟩, -⟩ :=
    t.insert_cases kind v
  · rw [hcons] at hslots hi
    cases hn : i.toNat with
    | zero =>
      rw [hn] at hslots hi
      cases hi
      rw [get_null_cons _ _ rest hslots]
      have hused := ht.vacant_used 0 slot₀ (by rw [hcons]; rfl)
      by_cases hg : slot₀.generation = 0
      · rw [if_pos hg, if_pos hg]
        exact iff_of_false (fun h => by cases h) fun h => hused h hg
      · rw [if_neg hg, if_neg hg]
    | succ n =>
      rw [hn, List.set_cons_succ] at hslots
      rw [get_null_cons _ slot₀ _ hslots]
  · rw [hcons, List.cons_append] at hslots
    rw [get_null_cons _ slot₀ _ hslots]

inductive FreesFirst (t : HandleTable α) : Op α → Prop where
  | remove (h : Handle) (hs : h.slot = 0) (hg : h.generation = 0) : FreesFirst t (.remove h)
  | clear : FreesFirst t .clear
  | retain (ω : Type) (keep : ω → Handle → α → Bool × ω) (st : ω)
      (hrej : ∀ slot rest v, t.slots = slot :: rest → slot.value = some v →
        (keep st (Handle.new slot.kind slot.generation 0) v).1 = false) :
      FreesFirst t (.retain ω keep st)

theorem retain_first {ω : Type} (t : HandleTable α) (keep : ω → Handle → α → Bool × ω) (st : ω)
    (slot : Slot α) (rest : List (Slot α)) (hs : t.slots = slot :: rest) :
    (slot.value = none ∧ ∃ rest', (t.retain keep st).1.slots = slot :: rest') ∨
      ∃ v, slot.value = some v ∧
        ((keep st (Handle.new slot.kind slot.generation 0) v).1 = true ∧
            (∃ rest', (t.retain keep st).1.slots = slot :: rest') ∨
          (keep st (Handle.new slot.kind slot.generation 0) v).1 = false ∧
            ∃ slot' rest', slot'.value = none ∧ (t.retain keep st).1.slots = slot' :: rest') := by
  rw [(t.retain_swept keep st).1, hs]
  cases hv : slot.value with
  | none =>
    refine .inl ⟨rfl, ?_⟩
    simp only [retainLoop, hv]
    exact ⟨_, rfl⟩
  | some v =>
    refine .inr ⟨v, rfl, ?_⟩
    cases hk : (keep st (Handle.new slot.kind slot.generation 0) v).1 with
    | true =>
      refine .inl ⟨rfl, ?_⟩
      simp only [retainLoop, hv, show UInt32.ofNat 0 = 0 from rfl, hk, if_true]
      exact ⟨_, rfl⟩
    | false =>
      refine .inr ⟨rfl, ?_⟩
      simp only [retainLoop, hv, show UInt32.ofNat 0 = 0 from rfl, hk, Bool.false_eq_true, if_false]
      split
      · exact ⟨_, _, rfl, rfl⟩
      · exact ⟨_, _, rfl, rfl⟩

theorem get_null_clear (t : HandleTable α) : t.clear.get nullHandle = none := by
  cases hg : t.clear.get nullHandle with
  | none => rfl
  | some v =>
    obtain ⟨h, -, hmem⟩ := t.clear.mem_iter_of_get nullHandle v hg
    rw [t.iter_clear] at hmem
    cases hmem

theorem get_null_step (t : HandleTable α) (op : Op α) (ht : t.Dated) (hs : t.slots ≠ []) :
    (t.step op).2.get nullHandle = none ↔ t.get nullHandle = none ∨ FreesFirst t op := by
  cases op with
  | insert kind v =>
    rw [show (t.step (.insert kind v)).2 = (t.insert kind v).2 from rfl,
      t.get_null_insert kind v ht hs]
    exact (or_iff_left fun h => by cases h).symm
  | tryInsert kind v maxLive =>
    simp only [step, tryInsert]
    split
    · rw [t.get_null_insert kind v ht hs]
      exact (or_iff_left fun h => by cases h).symm
    · exact (or_iff_left fun h => by cases h).symm
  | getMut h write =>
    have hnever : ¬ FreesFirst t (.getMut h write) := fun h => by cases h
    obtain hs | ⟨v, slot, hg, -, -, hs⟩ := t.step_getMut_cases h write
    · rw [hs, or_iff_left hnever]
    · rw [hs, t.get_store_eq_none h nullHandle v (write v) hg, or_iff_left hnever]
  -- only the first slot's first generation answers to the null handle
  | remove h =>
    rw [show (t.step (.remove h)).2 = (t.remove h).2 from rfl, t.get_remove h nullHandle]
    by_cases hk : nullHandle.key = h.key
    · rw [if_pos hk]
      obtain ⟨hslot, hgen⟩ := (key_eq_null_iff h).mp hk.symm
      exact iff_of_true rfl (.inr (.remove h hslot hgen))
    · rw [if_neg hk]
      refine ⟨.inl, fun h' => h'.elim id fun h' => ?_⟩
      cases h' with
      | remove _ hslot hgen => exact absurd ((key_eq_null_iff h).mpr ⟨hslot, hgen⟩).symm hk
  | clear => exact iff_of_true t.get_null_clear (.inr .clear)
  | retain ω keep st =>
    obtain ⟨slot, rest, hcons⟩ := List.exists_cons_of_ne_nil hs
    rw [show (t.step (.retain ω keep st)).2 = (t.retain keep st).1 from rfl,
      t.get_null_cons slot rest hcons]
    obtain ⟨hv, rest', hs'⟩ | ⟨v, hv, ⟨hk, rest', hs'⟩ | ⟨hk, slot', rest', hv', hs'⟩⟩ :=
      t.retain_first keep st slot rest hcons
    · rw [get_null_cons _ slot rest' hs', hv, ite_self]
      exact iff_of_true rfl (.inl rfl)
    · rw [get_null_cons _ slot rest' hs']
      refine ⟨.inl, fun h => h.elim id fun h => ?_⟩
      cases h with
      | retain _ _ _ hrej =>
        rw [hrej slot rest v hcons hv] at hk
        cases hk
    · rw [get_null_cons _ slot' rest' hs', hv', ite_self]
      refine iff_of_true rfl (.inr (.retain ω keep st fun s r w hcons' hw => ?_))
      rw [hcons] at hcons'
      cases hcons'
      rw [hv] at hw
      cases hw
      exact hk

/-- Nothing in the run frees the entry in the first slot once there is one. -/
def FirstStands (ops : List (Op α)) : Prop :=
  Along (fun before op => handles before ≠ [] → ¬ FreesFirst (final step new before) op) ops

theorem handles_snoc_eq_nil (ops : List (Op α)) (op : Op α) : handles (ops ++ [op]) = [] ↔
    handles ops = [] ∧ (step (final step new ops) op).1 = none := by
  rw [handles, log_snoc, List.filterMap_append, List.append_eq_nil_iff]
  cases h : (step (final step new ops) op).1 with
  | none => simp [handles]
  | some x => simp

theorem slots_insert_ne_nil (t : HandleTable α) (kind : UInt8) (v : α) :
    (t.insert kind v).2.slots ≠ [] := by
  intro hnil
  obtain ⟨i, free, slot, -, hi, -, hslots, -⟩ | ⟨-, -, ⟨slot, -, -, -, -, hslots⟩, -⟩ :=
    t.insert_cases kind v
  · rw [hslots, List.set_eq_nil_iff] at hnil
    rw [hnil] at hi
    cases hi
  · rw [hslots] at hnil
    exact absurd hnil (by simp)

theorem slots_eq_nil_iff (ops : List (Op α)) :
    (final step new ops).slots = [] ↔ handles ops = [] := by
  induction ops using List.reverseRecOn with
  | nil => exact iff_of_true rfl rfl
  | append_singleton ops op ih =>
    rw [final_snoc, handles_snoc_eq_nil, ← ih]
    obtain ⟨kind, v, hs⟩ | ⟨hnone, hlen, -⟩ := (final step new ops).step_cases op
    · rw [hs]
      exact iff_of_false (slots_insert_ne_nil _ kind v) fun h => by cases h.2
    · rw [← List.length_eq_zero_iff, ← List.length_eq_zero_iff, hlen]
      exact (and_iff_left hnone).symm

theorem get_null_final (ops : List (Op α)) :
    (final step new ops).get nullHandle = none ↔ handles ops = [] ∨ ¬ FirstStands ops := by
  induction ops using List.reverseRecOn with
  | nil => exact iff_of_true rfl (.inl rfl)
  | append_singleton ops op ih =>
    have hnil := slots_eq_nil_iff ops
    rw [FirstStands] at ih ⊢
    rw [final_snoc, handles_snoc_eq_nil, along_snoc]
    by_cases hh : handles ops = []
    · have hstands : Along (fun before op => handles before ≠ [] →
          ¬ FreesFirst (final step new before) op) ops := by
        rintro before op' after rfl hne
        refine absurd ?_ hne
        rw [handles, log_append, List.filterMap_append, List.append_eq_nil_iff] at hh
        exact hh.1
      obtain ⟨kind, v, hs⟩ | ⟨hnone, hlen, -⟩ := (final step new ops).step_cases op
      · rw [hs, get_null_first _ kind v (hnil.mpr hh)]
        refine iff_of_false (fun h => by cases h) ?_
        rintro (⟨-, h⟩ | h)
        · cases h
        · exact h ⟨hstands, fun hne => absurd hh hne⟩
      · refine iff_of_true (get_null_nil _ ?_) (.inl ⟨hh, hnone⟩)
        rw [← List.length_eq_zero_iff, hlen, hnil.mpr hh]
        rfl
    · rw [get_null_step _ op (dated_final ops) (mt hnil.mp hh), ih]
      simp only [hh, false_and, false_or, not_and, ne_eq, not_false_iff, true_implies, not_not]
      by_cases hf : FreesFirst (final step new ops) op
      · simp [hf]
      · simp [hf]

inductive InsertsKind (kind : UInt8) : Op α → Prop where
  | insert (v : α) : InsertsKind kind (.insert kind v)
  | tryInsert (v : α) (maxLive : Nat) : InsertsKind kind (.tryInsert kind v maxLive)

end HandleTable
end Graftx.Handles
