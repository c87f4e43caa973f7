import Graftx.Handles.Lifecycle

/-! Runs of one table under any mix of its mutating operations. This is where the
`2 ^ 32` slot bound is needed: past it, slot indices are truncated. -/
namespace Graftx.Handles
open Graftx.Protocol Lib.Machine Lib.Ledger
universe u
variable {α : Type u}

/-- A call on the table. A `retain` predicate may carry any state of its own. -/
inductive Op (α : Type u) : Type (max 1 u) where
  | insert (kind : UInt8) (value : α)
  | tryInsert (kind : UInt8) (value : α) (maxLive : Nat)
  | getMut (h : Handle) (write : α → α)
  | remove (h : Handle)
  | clear
  | retain (ω : Type) (keep : ω → Handle → α → Bool × ω) (st : ω)

namespace HandleTable

def step (t : HandleTable α) : Op α → Option Handle × HandleTable α
  | .insert kind value =>
    let (h, t') := t.insert kind value
    (some h, t')
  | .tryInsert kind value maxLive => t.tryInsert kind value maxLive
  | .getMut h write =>
    match t.getMut h with
    | none => (none, t)
    | some (value, put) => (none, put (write value))
  | .remove h => (none, (t.remove h).2)
  | .clear => (none, t.clear)
  | .retain _ keep st => (none, (t.retain keep st).1)

theorem step_getMut_cases (t : HandleTable α) (h : Handle) (write : α → α) :
    t.step (.getMut h write) = (none, t) ∨
      ∃ v slot, t.get h = some v ∧ t.slots[h.slot.toNat]? = some slot ∧ slot.value.isSome ∧
        t.step (.getMut h write) = (none, t.store h.slot.toNat (write v)) := by
  simp only [step]
  cases hm : t.getMut h with
  | none => exact .inl rfl
  | some p =>
    obtain ⟨v, put⟩ := p
    obtain ⟨hg, rfl⟩ := (t.getMut_eq_some h v put).mp hm
    obtain ⟨slot, hi, hv⟩ := t.slot_of_get h v hg
    exact .inr ⟨v, slot, hg, hi, by rw [hv]; rfl, rfl⟩

/-- The later table: sound, of the same size, and with no key moved back. -/
structure Evolves (t t' : HandleTable α) : Prop where
  sound : t'.Sound
  length : t'.slots.length = t.slots.length
  forward : ∀ k, (t.phase k).rank ≤ (t'.phase k).rank

theorem Evolves.refl (t : HandleTable α) (ht : t.Sound) : Evolves t t :=
  ⟨ht, rfl, fun _ => Nat.le_refl _⟩

theorem Evolves.trans {t₁ t₂ t₃ : HandleTable α} (h₁ : Evolves t₁ t₂) (h₂ : Evolves t₂ t₃) :
    Evolves t₁ t₃ :=
  ⟨h₂.sound, h₂.length.trans h₁.length, fun k => Nat.le_trans (h₁.forward k) (h₂.forward k)⟩

theorem evolves_release (t : HandleTable α) (i : UInt32) (slot : Slot α)
    (hi : t.slots[i.toNat]? = some slot) (hv : slot.value.isSome) (ht : t.Sound) :
    Evolves t (t.release i.toNat) := by
  refine ⟨t.sound_release i slot hi hv ht, t.length_release _, fun k => ?_⟩
  rw [t.phase_release i slot hi hv ht]
  split
  · exact Phase.rank_le _
  · exact Nat.le_refl _

theorem evolves_store (t : HandleTable α) (i : Nat) (slot : Slot α) (v : α)
    (hi : t.slots[i]? = some slot) (hv : slot.value.isSome) (ht : t.Sound) :
    Evolves t (t.store i v) := by
  refine ⟨t.sound_store i slot v hi hv ht, t.length_store i v, fun k => ?_⟩
  exact Nat.le_of_eq (by rw [t.phase_store i slot v hi hv])

theorem evolves_remove (t : HandleTable α) (h : Handle) (ht : t.Sound) :
    Evolves t (t.remove h).2 := by
  obtain hr | ⟨v, slot, -, hi, hv, hr⟩ := t.remove_cases h
  · rw [hr]
    exact .refl t ht
  · rw [hr]
    exact t.evolves_release h.slot slot hi hv ht

theorem visit_cases {ω : Type} (keep : ω → Handle → α → Bool × ω) (p : HandleTable α × ω × Nat)
    (i : Nat) : (visit keep p i).1 = p.1 ∨ ∃ slot, p.1.slots[i]? = some slot ∧
      slot.value.isSome ∧ (visit keep p i).1 = p.1.release i := by
  obtain ⟨t, st, n⟩ := p
  simp only [visit]
  cases hi : t.slots[i]? with
  | none => exact .inl rfl
  | some slot =>
    simp only
    cases hv : slot.value with
    | none => exact .inl rfl
    | some v =>
      simp only
      split
      · exact .inl rfl
      · exact .inr ⟨slot, rfl, by rw [hv]; rfl, rfl⟩

theorem length_retain {ω : Type} (t : HandleTable α) (keep : ω → Handle → α → Bool × ω) (st : ω) :
    (t.retain keep st).1.slots.length = t.slots.length := by
  rw [retain]
  refine List.foldlRecOn (motive := fun p => p.1.slots.length = t.slots.length) (b := (t, st, 0))
    _ (visit keep) rfl ?_
  intro p hp i _
  obtain h | ⟨slot, -, -, h⟩ := visit_cases keep p i
  · rw [h, hp]
  · rw [h, length_release, hp]

theorem evolves_retain {ω : Type} (t : HandleTable α) (keep : ω → Handle → α → Bool × ω) (st : ω)
    (ht : t.Sound) (hfits : t.Fits) : Evolves t (t.retain keep st).1 := by
  rw [retain]
  refine List.foldlRecOn (motive := fun p => Evolves t p.1) (b := (t, st, 0)) _ (visit keep)
    (.refl t ht) ?_
  intro p hp i hi
  obtain h | ⟨slot, hs, hv, h⟩ := visit_cases keep p i
  · rw [h]
    exact hp
  · have hlt : i < 2 ^ 32 := Nat.lt_trans (List.mem_range.mp hi) hfits
    have hn : (UInt32.ofNat i).toNat = i := UInt32.toNat_ofNat_of_lt' hlt
    have he := p.1.evolves_release (UInt32.ofNat i) slot (by rw [hn, hs]) hv hp.sound
    rw [hn, ← h] at he
    exact hp.trans he

theorem evolves_clear (t : HandleTable α) (ht : t.Sound) (hfits : t.Fits) : Evolves t t.clear := by
  obtain ⟨hsound, hlen, hfwd⟩ := t.evolves_retain (fun st _ _ => (false, st)) () ht hfits
  exact ⟨⟨hsound.free_vacant, hsound.free_nodup, hsound.live_active⟩, hlen, hfwd⟩

theorem vacant_of_visited (l : List Nat) (p : HandleTable α × Unit × Nat) (i : Nat) (slot : Slot α)
    (hi : (l.foldl (visit fun st _ _ => (false, st)) p).1.slots[i]? = some slot)
    (hv : slot.value.isSome) :
    i ∉ l ∧ ∃ s, p.1.slots[i]? = some s ∧ s.value.isSome := by
  -- a visit empties its own slot and fills none
  induction l generalizing p with
  | nil => exact ⟨List.not_mem_nil, slot, hi, hv⟩
  | cons j l ih =>
    obtain ⟨hnot, s, hs, hsv⟩ := ih _ hi
    have hvisit : i ≠ j ∧ ∃ s, p.1.slots[i]? = some s ∧ s.value.isSome := by
      obtain ⟨t, st, n⟩ := p
      simp only [visit] at hs
      cases hj : t.slots[j]? with
      | none =>
        simp only [hj] at hs
        refine ⟨fun h => ?_, s, hs, hsv⟩
        rw [h, hj] at hs
        cases hs
      | some sj =>
        simp only [hj] at hs
        cases hvj : sj.value with
        | none =>
          simp only [hvj] at hs
          refine ⟨fun h => ?_, s, hs, hsv⟩
          rw [h, hj] at hs
          cases hs
          rw [hvj] at hsv
          cases hsv
        | some v =>
          simp only [hvj, Bool.false_eq_true, if_false] at hs
          obtain ⟨-, rfl⟩ | ⟨hij, hs⟩ := slot_cases_set (t.slots_release j sj hj) hs
          · rw [sj.value_vacate] at hsv
            cases hsv
          · exact ⟨hij, s, hs, hsv⟩
    refine ⟨?_, hvisit.2⟩
    rw [List.mem_cons]
    rintro (h | h)
    · exact hvisit.1 h
    · exact hnot h

theorem get_clear (t : HandleTable α) (h : Handle) (ht : t.Sound) (hfits : t.Fits) :
    t.clear.get h = none := by
  cases hg : t.clear.get h with
  | none => rfl
  | some v =>
    obtain ⟨slot, hi, hv⟩ := t.clear.slot_of_get h v hg
    have hlen := (t.evolves_clear ht hfits).length
    have hlt := (List.getElem?_eq_some_iff.mp hi).1
    rw [hlen] at hlt
    exact absurd (List.mem_range.mpr hlt)
      (vacant_of_visited _ _ _ slot hi (by rw [hv]; rfl)).1

theorem evolves_getMut (t : HandleTable α) (h : Handle) (write : α → α) (ht : t.Sound) :
    Evolves t (t.step (.getMut h write)).2 := by
  obtain hs | ⟨v, slot, -, hi, hv, hs⟩ := t.step_getMut_cases h write
  · rw [hs]
    exact .refl t ht
  · rw [hs]
    exact t.evolves_store _ slot _ hi hv ht

/-- A call either issues the handle of an insertion, or evolves the table and issues
nothing. -/
theorem step_cases (t : HandleTable α) (op : Op α) :
    (∃ kind v, t.step op = (some (t.insert kind v).1, (t.insert kind v).2)) ∨
      (t.step op).1 = none ∧ ((t.step op).2.slots.length = t.slots.length) ∧
        (t.Sound → t.Fits → Evolves t (t.step op).2) := by
  cases op with
  | insert kind v => exact .inl ⟨kind, v, rfl⟩
  | tryInsert kind v maxLive =>
    simp only [step, tryInsert]
    split
    · exact .inl ⟨kind, v, rfl⟩
    · exact .inr ⟨rfl, rfl, fun ht _ => .refl t ht⟩
  | getMut h write =>
    have hev := t.evolves_getMut h write
    obtain hs | ⟨v, -, -, -, -, hs⟩ := t.step_getMut_cases h write
    · rw [hs] at hev ⊢
      exact .inr ⟨rfl, rfl, fun ht _ => hev ht⟩
    · rw [hs] at hev ⊢
      exact .inr ⟨rfl, t.length_store _ _, fun ht _ => hev ht⟩
  | remove h =>
    refine .inr ⟨rfl, ?_, fun ht _ => t.evolves_remove h ht⟩
    simp only [step]
    obtain hr | ⟨v, -, -, -, -, hr⟩ := t.remove_cases h
    · rw [hr]
    · rw [hr]
      exact t.length_release _
  | clear =>
    exact .inr ⟨rfl, t.length_retain _ _, fun ht hf => t.evolves_clear ht hf⟩
  | retain ω keep st =>
    exact .inr ⟨rfl, t.length_retain keep st, fun ht hf => t.evolves_retain keep st ht hf⟩

/-- The table keeps a ledger of its keys while its slot indices fit. -/
theorem keepsLedger : Keeps (@step α) (fun r => r.map Handle.key) phase Fits Sound where
  fits_back t op h := by
    refine Nat.lt_of_le_of_lt ?_ h
    obtain ⟨kind, v, hs⟩ | ⟨-, hl, -⟩ := t.step_cases op
    · rw [hs]
      exact t.length_le_insert kind v
    · exact Nat.le_of_eq hl.symm
  inv_step t op ht h := by
    obtain ⟨kind, v, hs⟩ | ⟨-, hl, he⟩ := t.step_cases op
    · rw [hs]
      exact t.sound_insert kind v ht
    · exact (he ht (by rwa [Fits, ← hl])).sound
  forward t op k ht h := by
    obtain ⟨kind, v, hs⟩ | ⟨-, hl, he⟩ := t.step_cases op
    · rw [hs] at h ⊢
      have hf : t.Fits := Nat.lt_of_le_of_lt (t.length_le_insert kind v) h
      obtain ⟨hfresh, hk⟩ := t.phase_insert kind v ht hf
      simp only
      rw [hk k]
      split
      · rename_i heq
        rw [heq, hfresh]
        decide
      · exact Nat.le_refl _
    · exact (he ht (by rwa [Fits, ← hl])).forward k
  issue t op k ht h hk := by
    obtain ⟨kind, v, hs⟩ | ⟨hnone, -⟩ := t.step_cases op
    · rw [hs] at h hk ⊢
      have hf : t.Fits := Nat.lt_of_le_of_lt (t.length_le_insert kind v) h
      obtain ⟨hfresh, hlive⟩ := t.phase_insert kind v ht hf
      obtain rfl : (t.insert kind v).1.key = k := by simpa using hk
      exact ⟨hfresh, by simp only; rw [hlive, if_pos rfl]⟩
    · rw [hnone] at hk
      cases hk

def handles (ops : List (Op α)) : List Handle := (log step new ops).filterMap Prod.snd

theorem keys_handles (ops : List (Op α)) : (handles ops).map Handle.key =
    issued (fun r => r.map Handle.key) (log step new ops) := by
  rw [handles, issued, List.map_filterMap]

/-- The call frees the entry that `h` names in `t`. -/
inductive Frees (t : HandleTable α) (h : Handle) : Op α → Prop where
  | remove (h' : Handle) (hkey : h'.key = h.key) (hlive : t.isLive h) : Frees t h (.remove h')
  | clear (hlive : t.isLive h) : Frees t h .clear
  | retain (ω : Type) (keep : ω → Handle → α → Bool × ω) (st : ω) (hlive : t.isLive h)
      (hgone : (t.retain keep st).1.isLive h = false) : Frees t h (.retain ω keep st)

theorem Frees.spent {t : HandleTable α} {h : Handle} {op : Op α} (hf : Frees t h op)
    (ht : t.Sound) (hfits : (t.step op).2.Fits) : (t.step op).2.phase h.key = .spent := by
  have hback := keepsLedger.fits_back t op hfits
  have hdrop (hlive : t.isLive h) (hgone : (t.step op).2.get h = none) :
      (t.step op).2.phase h.key = .spent := by
    refine keepsLedger.spent_of_dropped t op h.key ht hfits ((t.phase_eq_live h).mpr hlive) ?_
    intro hl
    have := ((t.step op).2.phase_eq_live h).mp hl
    rw [hgone] at this
    cases this
  cases hf with
  | remove h' hkey hlive =>
    refine hdrop hlive ?_
    change (t.remove h').2.get h = none
    rw [t.get_remove h' h, if_pos hkey.symm]
  | clear hlive => exact hdrop hlive (t.get_clear h ht hback)
  | retain ω keep st hlive hgone =>
    refine hdrop hlive ?_
    change (t.retain keep st).1.get h = none
    exact Option.isNone_iff_eq_none.mp (Option.isSome_eq_false_iff.mp hgone)

/-- Over every run: no two insertions return the same key, and a handle whose entry was
freed resolves to nothing ever after. -/
theorem handles_unique_and_never_revived (ops : List (Op α))
    (hfits : (final step new ops).slots.length < 2 ^ 32) :
    ((handles ops).map Handle.key).Nodup ∧
    ∀ (before : List (Op α)) (op : Op α) (after : List (Op α)) (h : Handle),
      ops = before ++ op :: after → h ∈ handles before → Frees (final step new before) h op →
      ∀ mid rest, after = mid ++ rest →
        (final step new (before ++ op :: mid)).get h = none ∧
        (final step new (before ++ op :: mid)).getMut h = none ∧
        (final step new (before ++ op :: mid)).isLive h = false ∧
        (final step new (before ++ op :: mid)).remove h =
          (none, final step new (before ++ op :: mid)) := by
  refine ⟨?_, ?_⟩
  · rw [keys_handles]
    exact keepsLedger.issued_nodup new ops sound_new hfits
  · rintro before op after h rfl - hfrees mid rest rfl
    have hmid : Fits (final step new (before ++ op :: mid)) := by
      refine keepsLedger.fits_prefix new _ rest ?_
      rwa [List.append_assoc, List.cons_append]
    have hbefore : Fits (final step new before) := keepsLedger.fits_prefix new _ _ hmid
    have hsound := keepsLedger.inv_final new before sound_new hbefore
    rw [final_append] at hmid
    have hstep := keepsLedger.fits_start _ mid hmid
    have hspent := keepsLedger.spent_final _ mid h.key
      (keepsLedger.inv_step _ op hsound hstep) hmid (hfrees.spent hsound hstep)
    have hnone := get_none_of_spent _ h hspent
    rw [final_append]
    change (final step (step (final step new before) op).2 mid).get h = none ∧ _
    refine ⟨hnone, (getMut_eq_none _ h).mpr hnone, ?_, remove_of_get_none _ h hnone⟩
    change Option.isSome _ = false
    exact Option.isSome_eq_false_iff.mpr (Option.isNone_iff_eq_none.mpr hnone)

/-- A slot reused after a removal, with the stale handle in hand. -/
theorem handles_unique_and_never_revived_reuse :
    ((handles [.insert 1 'a', .remove (Handle.new 1 0 0), .insert 1 'b']).map Handle.key).Nodup ∧
      (final step new ([.insert 1 'a'] ++ .remove (Handle.new 1 0 0) :: [.insert 1 'b'])).get
        (Handle.new 1 0 0) = none := by
  have h := handles_unique_and_never_revived
    [.insert 1 'a', .remove (Handle.new 1 0 0), .insert 1 'b'] (by decide)
  refine ⟨h.1, (h.2 [.insert 1 'a'] (.remove (Handle.new 1 0 0)) [.insert 1 'b']
    (Handle.new 1 0 0) rfl (by decide) (.remove _ rfl (by decide)) _ [] rfl).1⟩

end HandleTable
end Graftx.Handles
