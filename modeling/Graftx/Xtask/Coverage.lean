import Graftx.Lib.Tally
import Graftx.Xtask.Opcodes

/-! The overviews of the opcode table. They group its entries in three loops of their own; all
of them tell the same rows, and these count every entry once. -/
namespace Graftx.Xtask
open Lib.Lines Lib.Numerals Lib.Saturation Lib.StableSort Lib.Tally

structure ApiKey where
  id : UInt8
  name : Text
  deriving DecidableEq

def apiOf (e : OpcodeEntry) : ApiKey := ⟨e.apiId, e.apiName⟩

def coverageHead : List Text := ["| API | Opcodes |".toList, "| --- | --- |".toList]

def coverageLine (name : Text) (count : Nat) : Text :=
  "| ".toList ++ name ++ " | ".toList ++ decimal count ++ " |".toList

def renderCoverage (entries : List OpcodeEntry) : Text :=
  let apis := sortByKey (fun slot => slot.1.id.toNat) (tally (entries.map apiOf))
  let total := (apis.map Prod.snd).foldl (· + ·) 0
  unlines (coverageHead ++ apis.map (fun slot => coverageLine slot.1.name slot.2) ++
    [coverageLine "TOTAL".toList total])

def distinctApis (entries : List OpcodeEntry) : Nat := (firstSeen (entries.map apiOf)).length

def statsHead (total distinct : Nat) : Text :=
  "# Opcode stats\n\n".toList ++ ("- Total opcodes: ".toList ++ decimal total ++ "\n".toList) ++
    ("- Distinct APIs: ".toList ++ decimal distinct ++ "\n\n".toList)

def renderStats (entries : List OpcodeEntry) : Text :=
  statsHead entries.length (distinctApis entries) ++ renderCoverage entries

def apisHead : List Text := ["| ApiId | API |".toList, "| --- | --- |".toList]

def apisLine (key : ApiKey) : Text :=
  "| 0x".toList ++ hexPadded 2 key.id.toNat ++ " | ".toList ++ key.name ++ " |".toList

def renderApis (entries : List OpcodeEntry) : Text :=
  let apis := sortByKey (·.id.toNat) (firstSeen (entries.map apiOf))
  unlines (apisHead ++ apis.map apisLine)

def summaryHead (total distinct : Nat) : Text :=
  "Opcode summary: ".toList ++ decimal total ++ " opcode(s) across ".toList ++ decimal distinct ++
    " API(s)\n\n".toList

def renderSummary (entries : List OpcodeEntry) : Text :=
  summaryHead entries.length (distinctApis entries) ++ renderApis entries ++ ['\n'] ++
    renderCoverage entries

/-- The rows of an overview: each pair that occurs, how often it does, by the API byte, and on
one byte in the order in which the pairs first occur. -/
structure Overview (entries : List OpcodeEntry) (rows : List (ApiKey × Nat)) : Prop where
  counts : ∀ key n, (key, n) ∈ rows ↔ (entries.countP fun e => apiOf e = key) = n ∧ 0 < n
  order : rows.Pairwise fun a b => a.1.id.toNat < b.1.id.toNat ∨ a.1.id = b.1.id ∧
    (entries.map apiOf).idxOf a.1 < (entries.map apiOf).idxOf b.1

def overview (entries : List OpcodeEntry) : List (ApiKey × Nat) :=
  (sortByKey (·.id.toNat) (firstSeen (entries.map apiOf))).map fun key =>
    (key, (entries.map apiOf).count key)

theorem count_apiOf (entries : List OpcodeEntry) (key : ApiKey) :
    (entries.map apiOf).count key = entries.countP fun e => apiOf e = key := by
  rw [List.count, List.countP_map]
  exact List.countP_congr fun e _ => by simp

theorem overview_spec (entries : List OpcodeEntry) : Overview entries (overview entries) where
  counts key n := by
    rw [overview, List.mem_map, ← count_apiOf]
    constructor
    · rintro ⟨key', hmem, he⟩
      cases he
      rw [(sortByKey_perm _ _).mem_iff, mem_firstSeen] at hmem
      exact ⟨rfl, List.count_pos_iff.mpr hmem⟩
    · rintro ⟨rfl, hpos⟩
      refine ⟨key, ?_, rfl⟩
      rw [(sortByKey_perm _ _).mem_iff, mem_firstSeen]
      exact List.count_pos_iff.mp hpos
  order := by
    rw [overview, List.pairwise_map]
    refine (sortByKey_pairwise (firstSeen_ordered (entries.map apiOf))).imp fun h => ?_
    exact h.imp_right fun he => ⟨UInt8.toNat_inj.mp he.1, he.2⟩

theorem Overview.unique {entries : List OpcodeEntry} {rows rows' : List (ApiKey × Nat)}
    (h : Overview entries rows) (h' : Overview entries rows') : rows = rows' := by
  have hnodup {rows : List (ApiKey × Nat)} (h : Overview entries rows) : rows.Nodup :=
    h.order.imp fun hab he => by rw [he] at hab; omega
  have hperm : rows.Perm rows' :=
    (List.perm_ext_iff_of_nodup (hnodup h) (hnodup h')).mpr fun ⟨key, n⟩ => by
      rw [h.counts, h'.counts]
  refine hperm.eq_of_pairwise (fun a b _ _ hab hba => ?_) h.order h'.order
  rcases hab with hab | ⟨hid, hab⟩
  · rcases hba with hba | ⟨hid, -⟩
    · omega
    · rw [hid] at hab
      omega
  · rcases hba with hba | ⟨-, hba⟩
    · rw [hid] at hba
      omega
    · omega

theorem sorted_tally (entries : List OpcodeEntry) :
    sortByKey (fun slot => slot.1.id.toNat) (tally (entries.map apiOf)) = overview entries := by
  rw [tally_eq, overview, sortByKey, sortByKey]
  exact (List.map_mergeSort fun a _ b _ => by rw [keyLe, keyLe]).symm

theorem foldl_add (l : List Nat) (n : Nat) : l.foldl (· + ·) n = n + weight id l := by
  induction l generalizing n with
  | nil => rfl
  | cons x l ih => rw [List.foldl_cons, ih, weight_cons, Nat.add_assoc, id]

theorem weight_overview (entries : List OpcodeEntry) :
    weight Prod.snd (overview entries) = entries.length := by
  have hperm := sortByKey_perm (fun slot => slot.1.id.toNat) (tally (entries.map apiOf))
  rw [sorted_tally] at hperm
  rw [weight_perm _ hperm, weight_tally, List.length_map]

theorem length_overview (entries : List OpcodeEntry) :
    (overview entries).length = distinctApis entries := by
  rw [overview, List.length_map, (sortByKey_perm _ _).length_eq, distinctApis]

/-! ### The texts from the rows -/

def coverageText (rows : List (ApiKey × Nat)) (total : Nat) : Text :=
  unlines (coverageHead ++ rows.map (fun row => coverageLine row.1.name row.2) ++
    [coverageLine "TOTAL".toList total])

def apisText (rows : List (ApiKey × Nat)) : Text :=
  unlines (apisHead ++ rows.map fun row => apisLine row.1)

theorem renderCoverage_eq (entries : List OpcodeEntry) :
    renderCoverage entries = coverageText (overview entries) entries.length := by
  rw [renderCoverage, sorted_tally, foldl_add, Nat.zero_add, weight_map]
  simp only [id, weight_overview]
  rfl

theorem renderApis_eq (entries : List OpcodeEntry) :
    renderApis entries = apisText (overview entries) := by
  rw [renderApis, apisText, overview, List.map_map]
  rfl

/-- All overviews are about the same rows, which are the ones there are, and all totals and
numbers of APIs printed are those of the table. -/
structure Tells (entries : List OpcodeEntry) (rows : List (ApiKey × Nat)) : Prop where
  only : ∀ rows', Overview entries rows' ↔ rows' = rows
  total : weight Prod.snd rows = entries.length
  coverage : renderCoverage entries = coverageText rows entries.length
  apis : renderApis entries = apisText rows
  stats : renderStats entries =
    statsHead entries.length rows.length ++ coverageText rows entries.length
  summary : renderSummary entries = summaryHead entries.length rows.length ++ apisText rows ++
    ['\n'] ++ coverageText rows entries.length

theorem overviews_agree (entries : List OpcodeEntry) : ∃ rows, Tells entries rows :=
  ⟨overview entries,
    { only := fun rows' => ⟨fun h => h.unique (overview_spec entries), fun h =>
        h ▸ overview_spec entries⟩
      total := weight_overview entries
      coverage := renderCoverage_eq entries
      apis := renderApis_eq entries
      stats := by rw [renderStats, length_overview, renderCoverage_eq]
      summary := by rw [renderSummary, length_overview, renderApis_eq, renderCoverage_eq] }⟩

end Graftx.Xtask
