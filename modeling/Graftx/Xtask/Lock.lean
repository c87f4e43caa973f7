import Graftx.Xtask.Opcodes

/-! What the lockfile says about the opcode table. Each line can be read back, so the text
determines the sorted entries; the sort, however, leaves entries on one opcode as it finds them. -/
namespace Graftx.Xtask
open Lib.Lines Lib.Numerals Lib.StableSort

/-- What the lock is meant to freeze about an entry. -/
@[ext]
structure Assignment where
  apiId : UInt8
  call : UInt32
  apiName : Text
  name : Text
  deriving DecidableEq

def OpcodeEntry.assignment (e : OpcodeEntry) : Assignment where
  apiId := e.apiId
  call := e.callId &&& 0x00FFFFFF
  apiName := e.apiName
  name := e.name

namespace Assignment

def key (a : Assignment) : ℕ ×ₗ ℕ := toLex (a.apiId.toNat, a.call.toNat)

def line (a : Assignment) : Text :=
  ['0', 'x'] ++ hexPadded 2 a.apiId.toNat ++ ['_'] ++ hexPadded 6 a.call.toNat ++
    [' '] ++ a.apiName ++ [' '] ++ a.name

/-- The names have no space and no newline, and the call id has 24 bits. -/
structure Clean (a : Assignment) : Prop where
  call : a.call.toNat < 16 ^ 6
  apiName : ' ' ∉ a.apiName ∧ '\n' ∉ a.apiName
  name : ' ' ∉ a.name ∧ '\n' ∉ a.name

theorem line_newline {a : Assignment} (h : a.Clean) : '\n' ∉ a.line := by
  have h2 := not_mem_hexPadded (.inl rfl : '\n' = '\n' ∨ '\n' = ' ') 2 a.apiId.toNat
  have h6 := not_mem_hexPadded (.inl rfl : '\n' = '\n' ∨ '\n' = ' ') 6 a.call.toNat
  simp only [line, List.mem_append, not_or]
  exact ⟨⟨⟨⟨⟨⟨⟨by decide, h2⟩, by decide⟩, h6⟩, by decide⟩, h.apiName.2⟩, by decide⟩, h.name.2⟩

/-- The fields of a line can be read back: the numerals by their width, the names by the spaces. -/
theorem line_inj {a b : Assignment} (ha : a.Clean) (hb : b.Clean) (h : a.line = b.line) :
    a = b := by
  have h2 (x : UInt8) : (hexPadded 2 x.toNat).length = 2 :=
    hexPadded_length (by decide) (by have := x.toNat_lt; omega)
  have h6a := hexPadded_length (by decide) ha.call
  have h6b := hexPadded_length (by decide) hb.call
  simp only [line, List.append_assoc] at h
  obtain ⟨-, h⟩ := List.append_inj h rfl
  obtain ⟨hapi, h⟩ := List.append_inj h (by rw [h2, h2])
  obtain ⟨-, h⟩ := List.append_inj h rfl
  obtain ⟨hcall, h⟩ := List.append_inj h (by rw [h6a, h6b])
  obtain ⟨-, h⟩ := List.append_inj h rfl
  obtain ⟨hname, h⟩ := append_cons_inj ha.apiName.1 hb.apiName.1 h
  have hapi' := congrArg hexNumber hapi
  have hcall' := congrArg hexNumber hcall
  rw [hexNumber_hexPadded, hexNumber_hexPadded] at hapi' hcall'
  exact Assignment.ext (UInt8.toNat_inj.mp hapi') (UInt32.toNat_inj.mp hcall') hname h

end Assignment

theorem lockLine_eq (e : OpcodeEntry) : lockLine e = e.assignment.line := by
  rw [lockLine, formatOpcode, e.call_eq]
  rfl

theorem lockKey_eq (e : OpcodeEntry) : lockKey e = e.assignment.key := by
  rw [lockKey, e.call_eq]
  rfl

structure OpcodeEntry.Clean (e : OpcodeEntry) : Prop where
  apiName : ' ' ∉ e.apiName ∧ '\n' ∉ e.apiName
  name : ' ' ∉ e.name ∧ '\n' ∉ e.name

theorem OpcodeEntry.Clean.assignment {e : OpcodeEntry} (h : e.Clean) : e.assignment.Clean where
  call := by
    have hc := e.call_lt
    rwa [e.call_eq] at hc
  apiName := h.apiName
  name := h.name

theorem map_sorted (l : List OpcodeEntry) : (sortByKey lockKey l).map OpcodeEntry.assignment =
    sortByKey Assignment.key (l.map OpcodeEntry.assignment) :=
  List.map_mergeSort fun a _ b _ => by rw [keyLe, keyLe, lockKey_eq, lockKey_eq]

theorem renderLock_eq_sorted {l l' : List OpcodeEntry} (h : ∀ e ∈ l, e.Clean)
    (h' : ∀ e ∈ l', e.Clean) : renderLock l = renderLock l' ↔
      sortByKey Assignment.key (l.map OpcodeEntry.assignment) =
        sortByKey Assignment.key (l'.map OpcodeEntry.assignment) := by
  have hlines (l : List OpcodeEntry) : (sortByKey lockKey l).map lockLine =
      (sortByKey Assignment.key (l.map OpcodeEntry.assignment)).map Assignment.line := by
    rw [← map_sorted, List.map_map]
    exact List.map_congr_left fun e _ => lockLine_eq e
  have hclean {l : List OpcodeEntry} (h : ∀ e ∈ l, e.Clean) :
      ∀ a ∈ sortByKey Assignment.key (l.map OpcodeEntry.assignment), a.Clean := by
    intro a ha
    obtain ⟨e, he, rfl⟩ := List.mem_map.mp ((sortByKey_perm _ _).mem_iff.mp ha)
    exact (h e he).assignment
  have hnewline {l : List OpcodeEntry} (h : ∀ e ∈ l, e.Clean) : ∀ text ∈
      (sortByKey Assignment.key (l.map OpcodeEntry.assignment)).map Assignment.line,
      '\n' ∉ text := by
    intro text ht
    obtain ⟨a, ha, rfl⟩ := List.mem_map.mp ht
    exact Assignment.line_newline (hclean h a ha)
  rw [renderLock, renderLock, hlines, hlines, List.append_right_inj]
  constructor
  · intro heq
    have hmap := unlines_inj (hnewline h) (hnewline h') heq
    exact map_inj_on (fun a b => Assignment.line_inj) (hclean h) (hclean h') hmap
  · intro heq
    rw [heq]

def namings (opcode : UInt32) (entries : List OpcodeEntry) : List (Text × Text) :=
  (entries.filter fun e => e.opcode = opcode).map fun e => (e.apiName, e.name)

/-- The tables list the entries on each opcode in the same order. -/
def SameOrder (l l' : List OpcodeEntry) : Prop := ∀ opcode, namings opcode l = namings opcode l'

def keyOf (opcode : UInt32) : ℕ ×ₗ ℕ := toLex (opcode.toNat / 2 ^ 24, opcode.toNat % 2 ^ 24)

theorem assignment_key_iff (e : OpcodeEntry) (opcode : UInt32) :
    e.assignment.key = keyOf opcode ↔ e.opcode = opcode := by
  have hkey : e.assignment.key = toLex (e.apiId.toNat, e.callId.toNat % 2 ^ 24) := by
    rw [← e.toNat_call, ← lockKey_eq]
    rfl
  have ha := e.apiId.toNat_lt
  rw [hkey, keyOf, ← UInt32.toNat_inj, e.toNat_opcode, toLex_inj, Prod.mk.injEq]
  omega

theorem ofKey_keyOf (l : List OpcodeEntry) (opcode : UInt32) :
    ofKey Assignment.key (keyOf opcode) (l.map OpcodeEntry.assignment) =
      (l.filter fun e => e.opcode = opcode).map OpcodeEntry.assignment := by
  rw [ofKey, List.filter_map]
  congr 1
  exact List.filter_congr fun e _ => by simp [assignment_key_iff]

def Assignment.of (opcode : UInt32) (names : Text × Text) : Assignment where
  apiId := UInt8.ofNat (opcode.toNat / 2 ^ 24)
  call := opcode &&& 0x00FFFFFF
  apiName := names.1
  name := names.2

theorem Assignment.of_entry (e : OpcodeEntry) : Assignment.of e.opcode (e.apiName, e.name) =
    e.assignment := by
  have ha := e.apiId.toNat_lt
  refine Assignment.ext ?_ e.call_eq rfl rfl
  rw [← UInt8.toNat_inj]
  change (UInt8.ofNat (e.opcode.toNat / 2 ^ 24)).toNat = e.apiId.toNat
  rw [UInt8.toNat_ofNat_of_lt' (by rw [e.toNat_opcode, UInt8.size]; omega), e.toNat_opcode]
  omega

theorem ofKey_eq_namings (l : List OpcodeEntry) (opcode : UInt32) :
    ofKey Assignment.key (keyOf opcode) (l.map OpcodeEntry.assignment) =
      (namings opcode l).map (Assignment.of opcode) := by
  rw [ofKey_keyOf, namings, List.map_map]
  refine List.map_congr_left fun e he => ?_
  have ho : e.opcode = opcode := of_decide_eq_true (List.mem_filter.mp he).2
  rw [← ho, Function.comp_apply, Assignment.of_entry]

theorem ofKey_eq_iff (l l' : List OpcodeEntry) (opcode : UInt32) :
    ofKey Assignment.key (keyOf opcode) (l.map OpcodeEntry.assignment) =
        ofKey Assignment.key (keyOf opcode) (l'.map OpcodeEntry.assignment) ↔
      namings opcode l = namings opcode l' := by
  rw [ofKey_eq_namings, ofKey_eq_namings]
  refine (List.map_injective_iff.mpr fun p q hpq => ?_).eq_iff
  exact Prod.ext (congrArg Assignment.apiName hpq) (congrArg Assignment.name hpq)

theorem ofKey_eq_nil (l : List OpcodeEntry) (k : ℕ ×ₗ ℕ) (hk : ∀ opcode, keyOf opcode ≠ k) :
    ofKey Assignment.key k (l.map OpcodeEntry.assignment) = [] := by
  rw [ofKey, List.filter_eq_nil_iff]
  intro a ha he
  obtain ⟨e, -, rfl⟩ := List.mem_map.mp ha
  have hkey := (assignment_key_iff e e.opcode).mpr rfl
  exact hk e.opcode (hkey.symm.trans (of_decide_eq_true he))

/-- The lock texts agree exactly when the tables agree on each opcode, order included. -/
theorem renderLock_eq_iff {l l' : List OpcodeEntry} (h : ∀ e ∈ l, e.Clean)
    (h' : ∀ e ∈ l', e.Clean) : renderLock l = renderLock l' ↔ SameOrder l l' := by
  rw [renderLock_eq_sorted h h', sortByKey_eq_iff]
  constructor
  · intro hk opcode
    exact (ofKey_eq_iff l l' opcode).mp (hk (keyOf opcode))
  · intro hs k
    by_cases hk : ∃ opcode, keyOf opcode = k
    · obtain ⟨opcode, rfl⟩ := hk
      exact (ofKey_eq_iff l l' opcode).mpr (hs opcode)
    · have hnone : ∀ opcode, keyOf opcode ≠ k := fun opcode he => hk ⟨opcode, he⟩
      rw [ofKey_eq_nil l k hnone, ofKey_eq_nil l' k hnone]

def SameEntries (l l' : List OpcodeEntry) : Prop :=
  (l.map OpcodeEntry.assignment).Perm (l'.map OpcodeEntry.assignment)

theorem sameEntries_of_renderLock_eq {l l' : List OpcodeEntry} (h : ∀ e ∈ l, e.Clean)
    (h' : ∀ e ∈ l', e.Clean) (he : renderLock l = renderLock l') : SameEntries l l' := by
  have hsorted := (renderLock_eq_sorted h h').mp he
  refine (sortByKey_perm Assignment.key _).symm.trans ?_
  rw [hsorted]
  exact sortByKey_perm _ _

/-- The lock stands for the entries it was rendered from: tables render alike, and a check
of one against the lock of the other passes, exactly when they have the same entries. -/
structure Canonical (l l' : List OpcodeEntry) : Prop where
  text : renderLock l = renderLock l' ↔ SameEntries l l'
  check : (checkLock (.ok (renderLock l)) l').isUpToDate = true ↔ SameEntries l l'

theorem check_iff (l l' : List OpcodeEntry) :
    (checkLock (.ok (renderLock l)) l').isUpToDate = true ↔ renderLock l = renderLock l' := by
  rw [checkLock, checkText_upToDate_iff, Except.ok.injEq]

theorem canonical_of_sameOrder {l l' : List OpcodeEntry} (h : ∀ e ∈ l, e.Clean)
    (h' : ∀ e ∈ l', e.Clean) (hs : SameEntries l l' → SameOrder l l') : Canonical l l' := by
  have htext : renderLock l = renderLock l' ↔ SameEntries l l' :=
    ⟨sameEntries_of_renderLock_eq h h', fun he => (renderLock_eq_iff h h').mpr (hs he)⟩
  exact ⟨htext, (check_iff l l').trans htext⟩

/-- The lock is canonical unless tables of the same entries list colliding ones in another
order. -/
theorem lock_canonical_iff (l l' : List OpcodeEntry) (h : ∀ e ∈ l, e.Clean)
    (h' : ∀ e ∈ l', e.Clean) : Canonical l l' ↔ (SameEntries l l' → SameOrder l l') := by
  constructor
  · intro hc hs
    exact (renderLock_eq_iff h h').mp (hc.text.mpr hs)
  · exact canonical_of_sameOrder h h'

theorem canonical_of_distinct {l l' : List OpcodeEntry} (h : ∀ e ∈ l, e.Clean)
    (h' : ∀ e ∈ l', e.Clean)
    (hd : ∀ e ∈ l, ∀ e' ∈ l, e.opcode = e'.opcode → e.assignment = e'.assignment) :
    Canonical l l' := by
  refine canonical_of_sameOrder h h' fun hs opcode => (ofKey_eq_iff l l' opcode).mp ?_
  have hperm := hs.filter fun a => a.key = keyOf opcode
  have hmem {a : Assignment} (ha : a ∈ ofKey Assignment.key (keyOf opcode)
      (l.map OpcodeEntry.assignment)) : ∃ e ∈ l, e.opcode = opcode ∧ e.assignment = a := by
    rw [ofKey_keyOf] at ha
    obtain ⟨e, he, rfl⟩ := List.mem_map.mp ha
    obtain ⟨hel, heo⟩ := List.mem_filter.mp he
    exact ⟨e, hel, of_decide_eq_true heo, rfl⟩
  have hall (xs : List Assignment) : xs.Pairwise fun _ _ => True :=
    List.pairwise_of_forall fun _ _ => trivial
  refine List.Perm.eq_of_pairwise ?_ (hall _) (hall _) hperm
  intro a b ha hb _ _
  obtain ⟨e, hel, heo, rfl⟩ := hmem ha
  obtain ⟨e', hel', heo', rfl⟩ := hmem (hperm.mem_iff.mpr hb)
  exact hd e hel e' hel' (heo.trans heo'.symm)

def colliding (name : Text) : OpcodeEntry where
  apiName := "Vulkan".toList
  apiId := 1
  name
  callId := 1

theorem colliding_clean (name : Text) (h : ' ' ∉ name ∧ '\n' ∉ name) : (colliding name).Clean := by
  have hvulkan : ' ' ∉ "Vulkan".toList ∧ '\n' ∉ "Vulkan".toList := by decide
  exact ⟨hvulkan, h⟩

theorem clean_pair {a b : OpcodeEntry} (ha : a.Clean) (hb : b.Clean) :
    ∀ e ∈ [a, b], e.Clean := by
  intro e he
  rcases List.mem_pair.mp he with rfl | rfl
  · exact ha
  · exact hb

/-- Two calls are given one opcode, and the lock depends on which is listed first. -/
theorem swapped_collision_changes_lock : ¬ ∀ l l' : List OpcodeEntry, (∀ e ∈ l, e.Clean) →
    (∀ e ∈ l', e.Clean) → Canonical l l' := by
  intro h
  have ha := colliding_clean ['A'] (by decide)
  have hb := colliding_clean ['B'] (by decide)
  have hsame : SameEntries [colliding ['A'], colliding ['B']] [colliding ['B'], colliding ['A']] :=
    List.Perm.swap _ _ _
  have htext := (h _ _ (clean_pair ha hb) (clean_pair hb ha)).text.mpr hsame
  have horder := (renderLock_eq_iff (clean_pair ha hb) (clean_pair hb ha)).mp htext
  exact absurd (horder 0x01000001) (by decide)

theorem sameOrder_swap {a b : OpcodeEntry} (h : a.opcode ≠ b.opcode) :
    SameOrder [a, b] [b, a] := by
  intro opcode
  rw [namings, namings]
  by_cases ha : a.opcode = opcode
  · have hb : ¬ b.opcode = opcode := fun hb => h (ha.trans hb.symm)
    simp [ha, hb]
  · simp [List.filter_cons, ha]

/-- Two calls on opcodes of their own, in either order. -/
theorem lock_canonical_swapped :
    let a := colliding ['A']
    let b := { colliding ['B'] with callId := 2 }
    Canonical [a, b] [b, a] := by
  intro a b
  have ha : a.Clean := colliding_clean ['A'] (by decide)
  have hb : b.Clean := ⟨ha.1, by decide⟩
  exact (lock_canonical_iff [a, b] [b, a] (clean_pair ha hb) (clean_pair hb ha)).mpr
    fun _ => sameOrder_swap (by decide)

end Graftx.Xtask
