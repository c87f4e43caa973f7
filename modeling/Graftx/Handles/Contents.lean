import Graftx.Handles.Loops
import Graftx.Lib.KeyedMap

/-! What a table is for: a finite map from keys to live entries. The specification says of
every call what it may answer and what map it leaves; the table refines it while its slot
indices fit. -/
namespace Graftx.Handles
open Graftx.Protocol Lib.Machine Lib.Sift Lib.KeyedMap
universe u
variable {α : Type u}

/-- The live handles as they were issued, with their values, by slot and generation. -/
abbrev Contents (α : Type u) := Finmap fun _ : UInt32 × UInt32 => Handle × α

inductive Call (α : Type u) : Type (max 1 u) where
  | insert (kind : UInt8) (value : α)
  | get (h : Handle)
  | getMut (h : Handle) (write : α → α)
  | remove (h : Handle)
  | clear
  | retain (ω : Type) (keep : ω → Handle → α → Bool × ω) (st : ω)
  | len

inductive Outcome (α : Type u) : Type (max 1 u) where
  | issued (h : Handle)
  | found (value : Option α)
  | done
  | retained (ω : Type) (memory : ω) (removed : Nat)
  | count (n : Nat)

def entryKey (e : Handle × α) : UInt32 × UInt32 := e.1.key

def Lists (m : Contents α) (l : List (Handle × α)) : Prop :=
  keyed entryKey l = m ∧ l.Pairwise fun a b => a.1.slot.toNat < b.1.slot.toNat

/-- What a finite map makes of a call. An insertion may pick any key that is not in use. -/
inductive Spec : Contents α → Call α → Outcome α → Contents α → Prop where
  | insert (m : Contents α) (kind : UInt8) (v : α) (h : Handle) (hkind : h.kind = kind)
      (hfresh : h.key ∉ m) : Spec m (.insert kind v) (.issued h) (m.insert h.key (h, v))
  | get (m : Contents α) (h : Handle) :
      Spec m (.get h) (.found ((m.lookup h.key).map Prod.snd)) m
  | getMut_none (m : Contents α) (h : Handle) (write : α → α) (he : m.lookup h.key = none) :
      Spec m (.getMut h write) (.found none) m
  | getMut_some (m : Contents α) (h h' : Handle) (v : α) (write : α → α)
      (he : m.lookup h.key = some (h', v)) :
      Spec m (.getMut h write) (.found (some v)) (m.insert h.key (h', write v))
  | remove (m : Contents α) (h : Handle) :
      Spec m (.remove h) (.found ((m.lookup h.key).map Prod.snd)) (m.erase h.key)
  | clear (m : Contents α) : Spec m .clear .done ∅
  | retain (m : Contents α) (ω : Type) (keep : ω → Handle → α → Bool × ω) (st : ω)
      (l : List (Handle × α)) (hl : Lists m l) :
      Spec m (.retain ω keep st)
        (.retained ω (sift (HandleTable.paired keep) st l).memory
          (sift (HandleTable.paired keep) st l).rejected.length)
        (keyed entryKey (sift (HandleTable.paired keep) st l).kept)
  | len (m : Contents α) : Spec m .len (.count m.keys.card) m

/-- The histories of calls and answers that a finite map allows, and what they leave. -/
inductive Histories : List (Call α × Outcome α) → Contents α → Prop where
  | nil : Histories [] ∅
  | snoc (l : List (Call α × Outcome α)) (m m' : Contents α) (c : Call α) (r : Outcome α)
      (hl : Histories l m) (hc : Spec m c r m') : Histories (l ++ [(c, r)]) m'

namespace HandleTable

def call (t : HandleTable α) : Call α → Outcome α × HandleTable α
  | .insert kind value =>
    let (h, t') := t.insert kind value
    (.issued h, t')
  | .get h => (.found (t.get h), t)
  | .getMut h write =>
    match t.getMut h with
    | none => (.found none, t)
    | some (value, put) => (.found (some value), put (write value))
  | .remove h =>
    let (value, t') := t.remove h
    (.found value, t')
  | .clear => (.done, t.clear)
  | .retain ω keep st =>
    let (t', memory, removed) := t.retain keep st
    (.retained ω memory removed, t')
  | .len => (.count t.len, t)

def contents (t : HandleTable α) : Contents α := keyed entryKey t.iter

theorem iter_keys_nodup (t : HandleTable α) (hfits : t.Fits) : (t.iter.map entryKey).Nodup := by
  refine List.pairwise_map.mpr ((t.iter_slots_lt hfits).imp fun hlt heq => ?_)
  rw [((Handle.key_eq_iff _ _).mp heq).1] at hlt
  exact Nat.lt_irrefl _ hlt

theorem lookup_contents (t : HandleTable α) (hfits : t.Fits) (k : UInt32 × UInt32)
    (e : Handle × α) : t.contents.lookup k = some e ↔ e ∈ t.iter ∧ e.1.key = k :=
  lookup_keyed (t.iter_keys_nodup hfits) k e

theorem lookup_contents_key (t : HandleTable α) (hfits : t.Fits) (h : Handle) :
    (t.contents.lookup h.key).map Prod.snd = t.get h := by
  cases hg : t.get h with
  | some v =>
    obtain ⟨h', hkey, hmem⟩ := t.mem_iter_of_get h v hg
    rw [(t.lookup_contents hfits h.key (h', v)).mpr ⟨hmem, hkey⟩]
    rfl
  | none =>
    cases hl : t.contents.lookup h.key with
    | none => rfl
    | some e =>
      obtain ⟨hmem, hkey⟩ := (t.lookup_contents hfits h.key e).mp hl
      have hsome := t.get_of_mem_iter e.1 e.2 hfits hmem
      rw [t.get_congr e.1 h hkey, hg] at hsome
      cases hsome

theorem card_contents (t : HandleTable α) (ht : t.Accounted) (hfits : t.Fits) :
    t.contents.keys.card = t.len := by
  rw [contents, card_keyed (t.iter_keys_nodup hfits), t.length_iter, len, ht.live_eq]

theorem mem_iter_of_inherits (t t' : HandleTable α) (hinh : Inherits t t') (hfits : t.Fits)
    (hfits' : t'.Fits) (h : Handle) (w : α) :
    (h, w) ∈ t'.iter ↔ (∃ v, (h, v) ∈ t.iter) ∧ t'.get h = some w := by
  have hback (h : Handle) (w : α) (hmem : (h, w) ∈ t'.iter) : ∃ v, (h, v) ∈ t.iter := by
    obtain ⟨i, slot', hi, hv, rfl⟩ := (t'.mem_iter h w).mp hmem
    obtain ⟨slot, hi₀, hv₀, hk, hg⟩ := hinh.live i slot' hi (by rw [hv]; rfl)
    obtain ⟨v, hv₀⟩ := Option.isSome_iff_exists.mp hv₀
    exact ⟨v, (t.mem_iter _ v).mpr ⟨i, slot, hi₀, hv₀, by rw [hk, hg]⟩⟩
  constructor
  · exact fun hmem => ⟨hback h w hmem, t'.get_of_mem_iter h w hfits' hmem⟩
  · rintro ⟨⟨v, hmem⟩, hg⟩
    obtain ⟨h', hkey, hmem'⟩ := t'.mem_iter_of_get h w hg
    obtain ⟨v', hold⟩ := hback h' w hmem'
    have hsame := List.inj_on_of_nodup_map (t.iter_keys_nodup hfits) hold hmem hkey
    cases hsame
    exact hmem'

theorem iter_insert (t : HandleTable α) (kind : UInt8) (v : α) (ht : t.Sound)
    (e : Handle × α) :
    e ∈ (t.insert kind v).2.iter ↔ e = ((t.insert kind v).1, v) ∨ e ∈ t.iter := by
  refine ⟨t.mem_iter_insert kind v e, ?_⟩
  obtain ⟨i, free, slot, hfree, hi, hh, hs, -⟩ |
    ⟨-, hh, ⟨new, hg, hk, hv, -, hs⟩, -⟩ := t.insert_cases kind v
  · have hlt := (List.getElem?_eq_some_iff.mp hi).1
    rintro (rfl | hmem)
    · refine (mem_iter _ _ v).mpr
        ⟨i.toNat, { slot with value := some v, kind := kind }, ?_, rfl, ?_⟩
      · rw [hs, List.getElem?_set_self hlt]
      · rw [hh, UInt32.ofNat_toNat]
    · obtain ⟨h, w⟩ := e
      obtain ⟨j, s, hj, hw, rfl⟩ := (t.mem_iter h w).mp hmem
      have hne : i.toNat ≠ j := by
        rintro rfl
        rw [hi] at hj
        cases hj
        rw [(ht.free_vacant i (by simp [hfree]) slot hi).1] at hw
        cases hw
      exact (mem_iter _ _ w).mpr ⟨j, s, by rw [hs, List.getElem?_set_ne hne, hj], hw, rfl⟩
  · rintro (rfl | hmem)
    · refine (mem_iter _ _ v).mpr ⟨t.slots.length, new, ?_, hv, ?_⟩
      · rw [hs, List.getElem?_concat_length]
      · rw [hh, hg, hk]
    · obtain ⟨h, w⟩ := e
      obtain ⟨j, s, hj, hw, rfl⟩ := (t.mem_iter h w).mp hmem
      have hlt := (List.getElem?_eq_some_iff.mp hj).1
      exact (mem_iter _ _ w).mpr ⟨j, s, by rw [hs, List.getElem?_append_left hlt, hj], hw, rfl⟩

theorem contents_insert (t : HandleTable α) (kind : UInt8) (v : α) (ht : t.Sound)
    (hfits : (t.insert kind v).2.Fits) :
    (t.insert kind v).1.key ∉ t.contents ∧
      (t.insert kind v).2.contents =
        t.contents.insert (t.insert kind v).1.key ((t.insert kind v).1, v) := by
  have hfits₀ : t.Fits := Nat.lt_of_le_of_lt (t.length_le_insert kind v) hfits
  have hfresh (e : Handle × α) (hmem : e ∈ t.iter) : e.1.key ≠ (t.insert kind v).1.key := by
    intro hkey
    have hlive := (t.phase_eq_live e.1).mpr (by rw [t.get_of_mem_iter e.1 e.2 hfits₀ hmem]; rfl)
    rw [hkey, (t.phase_insert kind v ht hfits₀).1] at hlive
    cases hlive
  refine ⟨fun hmem => ?_, ext_some fun k e => ?_⟩
  · obtain ⟨e, he⟩ := Finmap.mem_iff.mp hmem
    obtain ⟨hin, hkey⟩ := (t.lookup_contents hfits₀ _ e).mp he
    exact hfresh e hin hkey
  · rw [lookup_contents _ hfits, lookup_insert_iff, t.lookup_contents hfits₀,
      t.iter_insert kind v ht]
    constructor
    · rintro ⟨rfl | hmem, rfl⟩
      · exact .inl ⟨rfl, rfl⟩
      · exact .inr ⟨hfresh e hmem, hmem, rfl⟩
    · rintro (⟨rfl, rfl⟩ | ⟨-, hmem, hkey⟩)
      · exact ⟨.inl rfl, rfl⟩
      · exact ⟨.inr hmem, hkey⟩

theorem contents_remove (t : HandleTable α) (h : Handle) (hfits : t.Fits) :
    (t.remove h).2.contents = t.contents.erase h.key := by
  have hinh : Inherits t (t.remove h).2 := by
    obtain ⟨kind, v, hs⟩ | ⟨-, hinh⟩ := t.inherits_step (.remove h)
    · cases hs
    · exact hinh
  have hfits' : (t.remove h).2.Fits := by
    obtain ⟨kind, v, hs⟩ | ⟨-, hl, -⟩ := t.step_cases (.remove h)
    · cases hs
    · exact Nat.lt_of_le_of_lt (Nat.le_of_eq hl) hfits
  refine ext_some fun k e => ?_
  obtain ⟨h', w⟩ := e
  rw [lookup_contents _ hfits', lookup_erase_iff, t.lookup_contents hfits,
    mem_iter_of_inherits t _ hinh hfits hfits', t.get_remove h h']
  constructor
  · rintro ⟨⟨⟨v, hmem⟩, hg⟩, rfl⟩
    by_cases hk : h'.key = h.key
    · rw [if_pos hk] at hg
      cases hg
    · rw [if_neg hk, t.get_of_mem_iter h' v hfits hmem] at hg
      cases hg
      exact ⟨hk, hmem, rfl⟩
  · rintro ⟨hk, hmem, rfl⟩
    rw [if_neg hk]
    exact ⟨⟨⟨w, hmem⟩, t.get_of_mem_iter h' w hfits hmem⟩, rfl⟩

theorem contents_store (t : HandleTable α) (h h₀ : Handle) (v w : α) (hfits : t.Fits)
    (hl : t.contents.lookup h.key = some (h₀, v)) :
    (t.store h.slot.toNat w).contents = t.contents.insert h.key (h₀, w) := by
  obtain ⟨hmem₀, hkey₀⟩ := (t.lookup_contents hfits _ _).mp hl
  have hg₀ : t.get h = some v :=
    (t.get_congr h h₀ hkey₀.symm).trans (t.get_of_mem_iter h₀ v hfits hmem₀)
  obtain ⟨slot, hi, hv⟩ := t.slot_of_get h v hg₀
  have hinh := t.inherits_store _ slot w hi (by rw [hv]; rfl)
  have hfits' : (t.store h.slot.toNat w).Fits :=
    Nat.lt_of_le_of_lt (Nat.le_of_eq (t.length_store _ _)) hfits
  refine ext_some fun k e => ?_
  obtain ⟨h', x⟩ := e
  rw [lookup_contents _ hfits', lookup_insert_iff, t.lookup_contents hfits,
    mem_iter_of_inherits t _ hinh hfits hfits', t.get_store h h' v w hg₀]
  constructor
  · rintro ⟨⟨⟨y, hmem⟩, hg⟩, rfl⟩
    by_cases hk : h'.key = h.key
    · rw [if_pos hk] at hg
      cases hg
      have hsame := List.inj_on_of_nodup_map (t.iter_keys_nodup hfits) hmem hmem₀
        (hk.trans hkey₀.symm)
      cases hsame
      exact .inl ⟨hk, rfl⟩
    · rw [if_neg hk, t.get_of_mem_iter h' y hfits hmem] at hg
      cases hg
      exact .inr ⟨hk, hmem, rfl⟩
  · rintro (⟨rfl, he⟩ | ⟨hk, hmem, rfl⟩)
    · cases he
      rw [if_pos hkey₀]
      exact ⟨⟨⟨v, hmem₀⟩, rfl⟩, hkey₀⟩
    · rw [if_neg hk]
      exact ⟨⟨⟨x, hmem⟩, t.get_of_mem_iter h' x hfits hmem⟩, rfl⟩

theorem call_step (t : HandleTable α) (c : Call α) :
    (t.call c).2 = t ∨ ∃ op : Op α, (t.call c).2 = (t.step op).2 := by
  cases c with
  | insert kind v => exact .inr ⟨.insert kind v, rfl⟩
  | get h => exact .inl rfl
  | getMut h write =>
    refine .inr ⟨.getMut h write, ?_⟩
    simp only [call, step]
    cases t.getMut h <;> rfl
  | remove h => exact .inr ⟨.remove h, rfl⟩
  | clear => exact .inr ⟨.clear, rfl⟩
  | retain ω keep st => exact .inr ⟨.retain ω keep st, rfl⟩
  | len => exact .inl rfl

theorem length_le_call (t : HandleTable α) (c : Call α) :
    t.slots.length ≤ (t.call c).2.slots.length := by
  obtain h | ⟨op, h⟩ := t.call_step c
  · exact Nat.le_of_eq (by rw [h])
  · rw [h]
    obtain ⟨kind, v, hs⟩ | ⟨-, hl, -⟩ := t.step_cases op
    · rw [hs]
      exact t.length_le_insert kind v
    · exact Nat.le_of_eq hl.symm

theorem accounted_call (t : HandleTable α) (c : Call α) (ht : t.Accounted) (hfits : t.Fits) :
    (t.call c).2.Accounted := by
  obtain h | ⟨op, h⟩ := t.call_step c
  · rwa [h]
  · rw [h]
    exact t.accounted_step op ht hfits

/-- One call does to the table what the specification does to its contents. -/
theorem call_refines (t : HandleTable α) (c : Call α) (ht : t.Accounted)
    (hfits' : (t.call c).2.Fits) : Spec t.contents c (t.call c).1 (t.call c).2.contents := by
  have hfits : t.Fits := Nat.lt_of_le_of_lt (t.length_le_call c) hfits'
  cases c with
  | insert kind v =>
    obtain ⟨hfresh, hcont⟩ := t.contents_insert kind v ht.sound hfits'
    have hspec := Spec.insert t.contents kind v _ (t.kind_insert kind v) hfresh
    rw [← hcont] at hspec
    exact hspec
  | get h =>
    have hspec := Spec.get t.contents h
    rw [t.lookup_contents_key hfits h] at hspec
    exact hspec
  | getMut h write =>
    have hkey := t.lookup_contents_key hfits h
    simp only [call]
    cases hm : t.getMut h with
    | none =>
      rw [(t.getMut_eq_none h).mp hm] at hkey
      exact .getMut_none t.contents h write (Option.map_eq_none_iff.mp hkey)
    | some p =>
      obtain ⟨v, put⟩ := p
      obtain ⟨hg, rfl⟩ := (t.getMut_eq_some h v put).mp hm
      rw [hg] at hkey
      obtain ⟨⟨h₀, w⟩, hl, rfl⟩ := Option.map_eq_some_iff.mp hkey
      have hspec := Spec.getMut_some t.contents h h₀ w write hl
      rw [← t.contents_store h h₀ w (write w) hfits hl] at hspec
      exact hspec
  | remove h =>
    have hspec := Spec.remove t.contents h
    rw [t.lookup_contents_key hfits h, ← t.remove_fst h, ← t.contents_remove h hfits] at hspec
    exact hspec
  | clear =>
    have hspec := Spec.clear t.contents
    rw [← keyed_nil entryKey, ← t.iter_clear] at hspec
    exact hspec
  | retain ω keep st =>
    have hspec := Spec.retain t.contents ω keep st t.iter ⟨rfl, t.iter_slots_lt hfits⟩
    obtain ⟨hkept, hrest⟩ := t.retain_sift keep st
    rw [← hkept] at hspec
    change Spec t.contents _ (.retained ω (t.retain keep st).2.1 (t.retain keep st).2.2)
      (t.retain keep st).1.contents
    rw [hrest]
    exact hspec
  | len =>
    have hspec := Spec.len t.contents
    rw [t.card_contents ht hfits] at hspec
    exact hspec

theorem runs_refine (calls : List (Call α)) (hfits : (final call new calls).Fits) :
    (final call new calls).Accounted ∧
      Histories (log call new calls) (final call new calls).contents := by
  induction calls using List.reverseRecOn with
  | nil => exact ⟨accounted_new, .nil⟩
  | append_singleton calls c ih =>
    rw [final_snoc] at hfits
    have hfits₀ : (final call new calls).Fits :=
      Nat.lt_of_le_of_lt (length_le_call _ c) hfits
    obtain ⟨hacc, hhist⟩ := ih hfits₀
    rw [final_snoc, log_snoc]
    exact ⟨accounted_call _ c hacc hfits₀, .snoc _ _ _ c _ hhist (call_refines _ c hacc hfits)⟩

/-- Over every run the calls answer as a finite map does. In particular an inserted value is
found again, a call on one handle leaves the others alone, and `remove` returns what `get`
would have. -/
theorem refines_finite_map (calls : List (Call α))
    (hfits : (final call new calls).slots.length < 2 ^ 32) :
    let t := final call new calls
    Histories (log call new calls) t.contents ∧
      (∀ h, t.get h = (t.contents.lookup h.key).map Prod.snd) ∧
      (∀ kind v, (t.insert kind v).2.get (t.insert kind v).1 = some v ∧
        ∀ h w, t.get h = some w → (t.insert kind v).2.get h = some w) ∧
      (∀ h h', h'.key ≠ h.key → (t.remove h).2.get h' = t.get h') ∧
      (∀ h write h', h'.key ≠ h.key → (t.call (.getMut h write)).2.get h' = t.get h') ∧
      (∀ h, (t.remove h).1 = t.get h ∧ ((t.remove h).1 = none → (t.remove h).2 = t)) ∧
      t.len = t.contents.keys.card := by
  intro t
  obtain ⟨hacc, hhist⟩ := runs_refine calls hfits
  refine ⟨hhist, fun h => (t.lookup_contents_key hfits h).symm, ?_, ?_, ?_, ?_,
    (t.card_contents hacc hfits).symm⟩
  · intro kind v
    exact ⟨t.get_insert_self kind v hfits,
      fun h w hg => t.get_insert_of_get kind v w h hacc.sound hg⟩
  · intro h h' hne
    rw [t.get_remove h h', if_neg hne]
  · intro h write h' hne
    simp only [call]
    cases hm : t.getMut h with
    | none => rfl
    | some p =>
      obtain ⟨v, put⟩ := p
      obtain ⟨hg, rfl⟩ := (t.getMut_eq_some h v put).mp hm
      exact (t.get_store h h' v (write v) hg).trans (if_neg hne)
  · intro h
    refine ⟨t.remove_fst h, fun hnone => ?_⟩
    rw [t.remove_fst h] at hnone
    rw [t.remove_of_get_none h hnone]

/-- A slot reused after a removal, and a write through the new handle. -/
theorem refines_finite_map_reuse :
    (final call new [.insert 1 'a', .remove (Handle.new 1 0 0), .insert 2 'b',
      .getMut (Handle.new 2 1 0) fun _ => 'c']).get (Handle.new 1 0 0) =
        ((final call new [.insert 1 'a', .remove (Handle.new 1 0 0), .insert 2 'b',
          .getMut (Handle.new 2 1 0) fun _ => 'c']).contents.lookup
            (Handle.new 1 0 0).key).map Prod.snd :=
  (refines_finite_map [.insert 1 'a', .remove (Handle.new 1 0 0), .insert 2 'b',
    .getMut (Handle.new 2 1 0) fun _ => 'c'] (by decide)).2.1 _

end HandleTable
end Graftx.Handles
