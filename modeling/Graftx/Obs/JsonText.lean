import Graftx.Lib.Json
import Graftx.Obs.OrderFree

/-! The JSON text of a registry. It denotes the sorted rows and the total as long as no name has
a control character; such a character is copied out raw, and the text is then no JSON at all. -/
namespace Graftx.Obs.ObsRegistry
open Lib Lib.Json Lib.Numerals Lib.Entries Lib.StableSort

def Printable (s : List Char) : Prop := ∀ c ∈ s, 0x20 ≤ c.toNat

theorem pushJsonEscaped_other {c : Char} (hquote : c ≠ '"') (hslash : c ≠ '\\') :
    pushJsonEscaped [c] = [c] := by
  rw [pushJsonEscaped, List.flatMap_singleton]
  split <;> first | rfl | contradiction

theorem string_escaped_cons (c : Char) (hc : 0x20 ≤ c.toNat) (depth : Nat) (cs : List Char) :
    string (depth + 1) (pushJsonEscaped [c] ++ cs) =
      (string depth cs).map fun (s, rest) => (c :: s, rest) := by
  rw [Option.map_eq_bind]
  by_cases hquote : c = '"'
  · subst hquote
    rfl
  by_cases hslash : c = '\\'
  · subst hslash
    rfl
  have hchar : strChar (c :: cs) = some (c, cs) := by
    rw [strChar, if_neg hslash, if_neg (by simp [hquote]; omega)]
  rw [pushJsonEscaped_other hquote hslash, List.singleton_append, string, if_neg hquote, hchar]
  rfl

theorem pushJsonEscaped_cons (c : Char) (s : List Char) :
    pushJsonEscaped (c :: s) = pushJsonEscaped [c] ++ pushJsonEscaped s := by
  simp [pushJsonEscaped]

theorem escaped_reads {s : List Char} (hs : Printable s) (rest : List Char) :
    Reads string (pushJsonEscaped s ++ '"' :: rest) s rest := by
  induction s with
  | nil => exact ⟨1, rfl⟩
  | cons c s ih =>
    obtain ⟨depth, h⟩ := ih fun c hc => hs c (List.mem_cons_of_mem _ hc)
    refine ⟨depth + 1, ?_⟩
    rw [pushJsonEscaped_cons, List.append_assoc, string_escaped_cons c (hs c List.mem_cons_self), h]
    rfl

theorem escaped_refuses {s : List Char} (hs : ¬ Printable s) (rest : List Char) :
    Refuses string (pushJsonEscaped s ++ rest) := by
  induction s with
  | nil => exact absurd (fun c hc => by cases hc) hs
  | cons c s ih =>
    rw [pushJsonEscaped_cons, List.append_assoc]
    by_cases hc : 0x20 ≤ c.toNat
    · have hs' : ¬ Printable s := fun hs' => hs fun x hx => by
        rcases List.mem_cons.mp hx with rfl | hx
        · exact hc
        · exact hs' x hx
      intro depth
      cases depth with
      | zero => rfl
      | succ depth =>
        rw [string_escaped_cons c hc, ih hs' depth]
        rfl
    · have hc : c.toNat < 0x20 := Nat.not_le.mp hc
      obtain ⟨hslash, hquote⟩ := ne_of_control hc
      rw [pushJsonEscaped_other hquote hslash]
      exact string_control hc _

/-! ### The fixed names -/

def callsName : List Char := "calls".toList

def bytesOutName : List Char := "bytes_out".toList

def bytesInName : List Char := "bytes_in".toList

def apisName : List Char := "apis".toList

def totalName : List Char := "total".toList

def Plain (s : List Char) : Prop := pushJsonEscaped s = s ∧ ∀ c ∈ s, 0x20 ≤ c.toNat

theorem plain_of_all {s : List Char} (hs : pushJsonEscaped s = s)
    (h : (s.all fun c => 0x20 ≤ c.toNat) = true) : Plain s :=
  ⟨hs, fun c hc => of_decide_eq_true (List.all_eq_true.mp h c hc)⟩

theorem plain_names : Plain callsName ∧ Plain bytesOutName ∧ Plain bytesInName ∧ Plain apisName ∧
    Plain totalName :=
  ⟨plain_of_all rfl rfl, plain_of_all rfl rfl, plain_of_all rfl rfl, plain_of_all rfl rfl,
    plain_of_all rfl rfl⟩

def named (name : List Char) (text : List Char) : List Char := '"' :: (name ++ '"' :: ':' :: text)

theorem named_reads {name cs rest : List Char} {v : Json} (hname : Plain name)
    (hskip : skip cs = cs) (hv : Reads value cs v rest) :
    Reads member (named name cs) (name, v) rest := by
  have hs := escaped_reads hname.2 (':' :: cs)
  rw [hname.1] at hs
  exact member_reads hs hskip hv

def statsValue (stats : CallStats) : Json :=
  .obj [(callsName, .num stats.calls.toNat 0), (bytesOutName, .num stats.bytesOut.toNat 0),
    (bytesInName, .num stats.bytesIn.toNat 0)]

/-- What the text is to denote: the sorted rows, in their order, and the total. -/
def document (rows : Rows) : Json :=
  .obj [(apisName, .obj ((snapshotSorted rows).map fun row => (row.1.toList, statsValue row.2))),
    (totalName, statsValue (total rows))]

theorem keys_eq : keyCalls = '\x7b' :: named callsName [] ∧
    keyBytesOut = ',' :: named bytesOutName [] ∧
    keyBytesIn = ',' :: named bytesInName [] ∧ keyApis = '\x7b' :: named apisName ['\x7b'] ∧
    keyTotal = '\x7d' :: ',' :: named totalName [] := by
  refine ⟨?_, ?_, ?_, ?_, ?_⟩ <;> rfl

theorem named_append (name text rest : List Char) :
    named name text ++ rest = named name (text ++ rest) := by
  simp [named]

theorem jsonStats_append (stats : CallStats) (rest : List Char) :
    jsonStats stats ++ rest = '\x7b' :: named callsName (decimal stats.calls.toNat ++
      ',' :: named bytesOutName (decimal stats.bytesOut.toNat ++
      ',' :: named bytesInName (decimal stats.bytesIn.toNat ++ '\x7d' :: rest))) := by
  obtain ⟨hcalls, hout, hin, -⟩ := keys_eq
  simp only [jsonStats, hcalls, hout, hin, named_append, List.append_assoc, List.cons_append,
    List.nil_append]

theorem stats_reads (stats : CallStats) (rest : List Char) :
    Reads value (jsonStats stats ++ rest) (statsValue stats) rest := by
  obtain ⟨hcalls, hout, hin, -⟩ := plain_names
  have hfield {name : List Char} (hname : Plain name) (n : Nat) {c : Char}
      (hc : c = ',' ∨ c = '\x7d') (rest : List Char) :
      Reads member (named name (decimal n ++ c :: rest)) (name, .num n 0) (c :: rest) :=
    named_reads hname (skip_decimal n _) ⟨1, value_decimal 0 n hc rest⟩
  rw [jsonStats_append]
  refine object_reads ?_
  refine members_more (hfield hcalls _ (.inl rfl) _) ?_
  refine members_more (hfield hout _ (.inl rfl) _) ?_
  exact members_last (hfield hin _ (.inr rfl) _)

theorem skip_stats (stats : CallStats) (rest : List Char) :
    skip (jsonStats stats ++ rest) = jsonStats stats ++ rest := by
  rw [jsonStats_append]
  exact skip_cons rfl _

/-! ### The rows -/

theorem jsonRow_append (row : String × CallStats) (rest : List Char) :
    jsonRow row ++ rest =
      '"' :: (pushJsonEscaped row.1.toList ++ '"' :: ':' :: (jsonStats row.2 ++ rest)) := by
  simp [jsonRow]

theorem row_reads (row : String × CallStats) (h : Printable row.1.toList) (rest : List Char) :
    Reads member (jsonRow row ++ rest) (row.1.toList, statsValue row.2) rest := by
  rw [jsonRow_append]
  exact member_reads (escaped_reads h _) (skip_stats row.2 rest) (stats_reads row.2 rest)

def rowsBehind : Rows → List Char → List Char
  | [], rest => '\x7d' :: rest
  | row :: rows, rest => ',' :: (jsonRow row ++ rowsBehind rows rest)

theorem rows_read (row : String × CallStats) (rows : Rows) (rest : List Char)
    (h : ∀ r ∈ row :: rows, Printable r.1.toList) :
    Reads members (jsonRow row ++ rowsBehind rows rest)
      ((row :: rows).map fun r => (r.1.toList, statsValue r.2)) rest := by
  induction rows generalizing row with
  | nil => exact members_last (row_reads row (h row List.mem_cons_self) _)
  | cons next rows ih =>
    have hrow := row_reads row (h row List.mem_cons_self) (rowsBehind (next :: rows) rest)
    have hrest := ih next fun r hr => h r (List.mem_cons_of_mem _ hr)
    rw [rowsBehind, jsonRow_append next] at hrow
    rw [jsonRow_append next] at hrest
    rw [rowsBehind, jsonRow_append next]
    exact members_more hrow hrest

theorem rows_refuse (row : String × CallStats) (rows : Rows) (rest : List Char)
    (h : ¬ ∀ r ∈ row :: rows, Printable r.1.toList) :
    Refuses members (jsonRow row ++ rowsBehind rows rest) := by
  induction rows generalizing row with
  | nil =>
    have hrow : ¬ Printable row.1.toList := fun hp => h fun r hr => by
      rw [List.mem_singleton.mp hr]
      exact hp
    rw [jsonRow_append]
    exact members_refuses (member_refuses_name (escaped_refuses hrow _))
  | cons next rows ih =>
    by_cases hrow : Printable row.1.toList
    · have hrest := ih next fun hr => h fun r hmem => by
        rcases List.mem_cons.mp hmem with rfl | hmem
        · exact hrow
        · exact hr r hmem
      have hfirst := row_reads row hrow (rowsBehind (next :: rows) rest)
      rw [rowsBehind, jsonRow_append next] at hfirst
      rw [jsonRow_append next] at hrest
      rw [rowsBehind, jsonRow_append next]
      exact members_refuses_rest hfirst hrest
    · rw [jsonRow_append]
      exact members_refuses (member_refuses_name (escaped_refuses hrow _))

def apisText : Rows → List Char → List Char
  | [], rest => '\x7d' :: rest
  | row :: rows, rest => jsonRow row ++ rowsBehind rows rest

theorem flatMap_zipIdx (rows : Rows) (k : Nat) (rest : List Char) :
    ((rows.zipIdx (k + 1)).flatMap fun (row, i) => (if 0 < i then [','] else []) ++ jsonRow row) ++
      '\x7d' :: rest = rowsBehind rows rest := by
  induction rows generalizing k with
  | nil => rfl
  | cons row rows ih => simp [List.zipIdx_cons, rowsBehind, ih (k + 1)]

theorem apisText_eq (rows : Rows) (rest : List Char) :
    (rows.zipIdx.flatMap fun (row, i) => (if 0 < i then [','] else []) ++ jsonRow row) ++
      '\x7d' :: rest = apisText rows rest := by
  cases rows with
  | nil => rfl
  | cons row rows => simp [List.zipIdx_cons, apisText, ← flatMap_zipIdx rows 0 rest]

theorem apis_read (rows : Rows) (rest : List Char) (h : ∀ r ∈ rows, Printable r.1.toList) :
    Reads value ('\x7b' :: apisText rows rest)
      (.obj (rows.map fun r => (r.1.toList, statsValue r.2))) rest := by
  cases rows with
  | nil => exact object_empty rest
  | cons row rows =>
    have hrows := rows_read row rows rest h
    rw [jsonRow_append] at hrows
    rw [apisText, jsonRow_append]
    exact object_reads hrows

theorem apis_refuse (rows : Rows) (rest : List Char) (h : ¬ ∀ r ∈ rows, Printable r.1.toList) :
    Refuses value ('\x7b' :: apisText rows rest) := by
  cases rows with
  | nil => exact absurd (fun r hr => by cases hr) h
  | cons row rows =>
    have hrows := rows_refuse row rows rest h
    rw [jsonRow_append] at hrows
    rw [apisText, jsonRow_append]
    exact object_refuses hrows

theorem toJson_eq (rows : Rows) : toJson rows =
    '\x7b' :: named apisName ('\x7b' :: apisText (snapshotSorted rows)
      (',' :: named totalName (jsonStats (total rows) ++ ['\x7d']))) := by
  obtain ⟨-, -, -, hapis, htotal⟩ := keys_eq
  simp only [toJson, foldl_snapshotSorted, hapis, htotal, ← apisText_eq, named_append,
    List.append_assoc, List.cons_append, List.nil_append]

/-- Every name of the registry is free of control characters. -/
def AllPrintable (rows : Rows) : Prop := ∀ row ∈ rows, Printable row.1.toList

theorem allPrintable_sorted (rows : Rows) :
    AllPrintable (snapshotSorted rows) ↔ AllPrintable rows :=
  forall_congr' fun _ => imp_congr_left (sortByKey_perm _ rows).mem_iff

theorem denotes_of_printable (rows : Rows) (h : AllPrintable rows) :
    Denotes (toJson rows) (document rows) := by
  obtain ⟨-, -, -, hapis, htotal⟩ := plain_names
  have hrows := apis_read (snapshotSorted rows)
    (',' :: named totalName (jsonStats (total rows) ++ ['\x7d'])) ((allPrintable_sorted rows).mpr h)
  have hsum := named_reads htotal (skip_stats (total rows) ['\x7d'])
    (stats_reads (total rows) ['\x7d'])
  rw [toJson_eq]
  refine denotes_of_reads (skip_cons rfl _) (object_reads ?_)
  exact members_more (named_reads hapis (skip_cons rfl _) hrows) (members_last hsum)

theorem not_denotes_of_control (rows : Rows) (h : ¬ AllPrintable rows) (v : Json) :
    ¬ Denotes (toJson rows) v := by
  obtain ⟨-, -, -, hapis, -⟩ := plain_names
  have hrows := apis_refuse (snapshotSorted rows)
    (',' :: named totalName (jsonStats (total rows) ++ ['\x7d']))
    (mt (allPrintable_sorted rows).mp h)
  have hname := escaped_reads hapis.2 (':' :: '\x7b' :: apisText (snapshotSorted rows)
    (',' :: named totalName (jsonStats (total rows) ++ ['\x7d'])))
  rw [hapis.1] at hname
  rw [toJson_eq]
  refine not_denotes_of_refuses (skip_cons rfl _) (object_refuses (members_refuses ?_)) v
  exact member_refuses_value hname (skip_cons rfl _) hrows

/-- The text denotes the rows and the total, and nothing else, exactly when no name has a
control character. -/
theorem json_valid_iff (rows : Rows) :
    (∀ v, Denotes (toJson rows) v ↔ v = document rows) ↔ AllPrintable rows := by
  constructor
  · intro h
    by_contra hp
    exact not_denotes_of_control rows hp _ ((h _).mpr rfl)
  · intro h v
    have hdoc := denotes_of_printable rows h
    exact ⟨fun hv => hv.unique hdoc, fun hv => hv ▸ hdoc⟩

/-- An API named by a newline, recorded once. -/
theorem newline_name_is_no_json :
    Lists (run [.record "\n" 1 2]).inner [("\n", ⟨1, 1, 2⟩)] ∧
      ∀ v, ¬ Denotes (toJson [("\n", ⟨1, 1, 2⟩)]) v := by
  refine ⟨⟨by decide, fun key stats => ?_⟩, not_denotes_of_control _ fun h => ?_⟩
  · have hrun : (run [.record "\n" 1 2]).inner key =
        if key = "\n" then some ⟨1, 1, 2⟩ else none := rfl
    rw [hrun, List.mem_singleton]
    split <;> simp [*, eq_comm]
  · exact absurd (h ("\n", ⟨1, 1, 2⟩) List.mem_cons_self '\n' (by decide)) (by decide)

end Graftx.Obs.ObsRegistry
