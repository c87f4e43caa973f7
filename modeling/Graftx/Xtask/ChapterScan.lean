import Graftx.Xtask.Xrefs

/-! The chapter references a scan finds are all there are, in order. -/
namespace Graftx.Xtask
open Lib.Utf8Text

def decimalFrom (n : Nat) (digits : Text) : Nat :=
  digits.foldl (fun n c => n * 10 + (c.toNat - '0'.toNat)) n

def decimalValue (digits : Text) : Nat := decimalFrom 0 digits

def RefAt (s : Text) (chapter : UInt32) : Prop :=
  ∃ space digits after, s = chapterMark ++ (space ++ (digits ++ ')' :: after)) ∧
    (space = [] ∨ space = [' ']) ∧ digits ≠ [] ∧ (∀ d ∈ digits, d.isDigit = true) ∧
    decimalValue digits = chapter.toNat

/-- The references of a text from left to right, one for each place where one stands. -/
inductive Refs : Text → List UInt32 → Prop
  | nil : Refs [] []
  | hit {c : Char} {s : Text} {chapter : UInt32} {chapters : List UInt32}
      (hr : RefAt (c :: s) chapter) (h : Refs s chapters) : Refs (c :: s) (chapter :: chapters)
  | miss {c : Char} {s : Text} {chapters : List UInt32} (hn : ∀ chapter, ¬ RefAt (c :: s) chapter)
      (h : Refs s chapters) : Refs (c :: s) chapters

/-! Reading the number. -/

theorem isDigit_toNat {c : Char} (h : c.isDigit = true) : 48 ≤ c.toNat ∧ c.toNat ≤ 57 := by
  simp only [Char.isDigit, Bool.and_eq_true, decide_eq_true_eq] at h
  exact ⟨UInt32.le_iff_toNat_le.mp h.1, UInt32.le_iff_toNat_le.mp h.2⟩

theorem isAscii_of_isDigit {c : Char} (h : c.isDigit = true) : IsAscii c := by
  have hc := (isDigit_toNat h).2
  simp only [IsAscii]
  omega

theorem decimalFrom_cons (n : Nat) (d : Char) (digits : Text) :
    decimalFrom n (d :: digits) = decimalFrom (n * 10 + (d.toNat - '0'.toNat)) digits := by
  rw [decimalFrom, List.foldl_cons, decimalFrom]

theorem le_decimalFrom (digits : Text) (n : Nat) : n ≤ decimalFrom n digits := by
  induction digits generalizing n with
  | nil => exact Nat.le_refl n
  | cons d digits ih =>
    rw [decimalFrom_cons]
    exact Nat.le_trans (by omega) (ih _)

theorem foldlM_pushDigit {digits : Text} (hd : ∀ d ∈ digits, d.isDigit = true) {n : Nat}
    (hn : n < 2 ^ 32) : digits.foldlM pushDigit n =
      if decimalFrom n digits < 2 ^ 32 then some (decimalFrom n digits) else none := by
  induction digits generalizing n with
  | nil => exact (if_pos hn).symm
  | cons d digits ih =>
    have hdigit := hd d List.mem_cons_self
    rw [List.foldlM_cons, decimalFrom_cons, pushDigit]
    by_cases hm : n * 10 + (d.toNat - '0'.toNat) < 2 ^ 32
    · rw [if_pos ⟨hdigit, hm⟩]
      exact ih (fun c hc => hd c (List.mem_cons_of_mem d hc)) hm
    · have hle := le_decimalFrom digits (n * 10 + (d.toNat - '0'.toNat))
      rw [if_neg fun h => hm h.2, if_neg (by omega)]
      rfl

theorem parseU32_digits {digits : Text} (hd : ∀ d ∈ digits, d.isDigit = true)
    (hne : digits ≠ []) : parseU32 digits =
      if decimalValue digits < 2 ^ 32 then some (UInt32.ofNat (decimalValue digits)) else none := by
  have hplus : ¬ digits.head? = some '+' := by
    intro h
    have hdigit := hd '+' (List.mem_of_mem_head? h)
    exact absurd hdigit (by decide)
  simp only [parseU32, if_neg hplus, if_neg hne, foldlM_pushDigit hd (by decide : 0 < 2 ^ 32)]
  rw [decimalValue]
  split <;> rfl

theorem parseU32_eq_some_iff {digits : Text} (hd : ∀ d ∈ digits, d.isDigit = true)
    (hne : digits ≠ []) (chapter : UInt32) :
    parseU32 digits = some chapter ↔ decimalValue digits = chapter.toNat := by
  have hlt := chapter.toNat_lt
  rw [parseU32_digits hd hne]
  by_cases hv : decimalValue digits < 2 ^ 32
  · rw [if_pos hv, Option.some.injEq, ← UInt32.toNat_inj, UInt32.toNat_ofNat_of_lt' hv]
  · rw [if_neg hv]
    refine iff_of_false (fun h => by cases h) fun h => hv (h ▸ hlt)

/-! Finding its end. -/

theorem isAsciiDigit_asciiByte {c : Char} (h : IsAscii c) :
    isAsciiDigit (asciiByte c) = c.isDigit := by
  have h0 : (asciiByte '0').toNat = 48 := by decide
  have h9 : (asciiByte '9').toNat = 57 := by decide
  rw [Bool.eq_iff_iff]
  simp only [isAsciiDigit, Char.isDigit, Bool.and_eq_true, decide_eq_true_eq,
    UInt8.le_iff_toNat_le, asciiByte_toNat h, h0, h9]
  exact Iff.rfl

theorem digit_at_iff (p s : Text) : (byteAt (p ++ s) (size p)).any isAsciiDigit = true ↔
    ∃ d r, s = d :: r ∧ d.isDigit = true := by
  have hk := byteAt_append p s 0
  rw [Nat.add_zero] at hk
  rw [hk]
  cases s with
  | nil => simp [byteAt, encode]
  | cons c s =>
    by_cases hc : IsAscii c
    · rw [(byteAt_zero_iff hc s).mpr rfl, Option.any_some, isAsciiDigit_asciiByte hc]
      simp
    · have hdigit : c.isDigit = false := by
        rw [← Bool.not_eq_true]
        exact fun h => hc (isAscii_of_isDigit h)
      have hbyte : (byteAt (c :: s) 0).any isAsciiDigit = false := by
        cases hb : byteAt (c :: s) 0 with
        | none => rfl
        | some b =>
          have hhigh := byteAt_high hc c.utf8Size_pos hb
          have h9 : (asciiByte '9').toNat = 57 := by decide
          simp only [Option.any_some, isAsciiDigit, Bool.and_eq_false_iff, decide_eq_false_iff_not,
            UInt8.le_iff_toNat_le, h9]
          omega
      simp [hbyte, hdigit]

theorem digitsEnd_eq (p digits r : Text) (hd : ∀ d ∈ digits, d.isDigit = true)
    (hr : ¬ ∃ d r', r = d :: r' ∧ d.isDigit = true) :
    digitsEnd (p ++ (digits ++ r)) (size p) = size p + size digits := by
  induction digits generalizing p with
  | nil =>
    rw [List.nil_append, digitsEnd, dif_neg fun h => hr ((digit_at_iff p r).mp h)]
    rfl
  | cons d digits ih =>
    have hdigit := hd d List.mem_cons_self
    have hone := utf8Size_of_ascii (isAscii_of_isDigit hdigit)
    have hnext := ih (p ++ [d]) fun c hc => hd c (List.mem_cons_of_mem d hc)
    have hcut : p ++ [d] ++ (digits ++ r) = p ++ (d :: digits ++ r) := by simp
    rw [hcut, size_append, size_cons, size_nil, hone] at hnext
    have hhere := (digit_at_iff p (d :: digits ++ r)).mpr ⟨d, digits ++ r, rfl, hdigit⟩
    rw [digitsEnd, dif_pos hhere, size_cons, hone, ← Nat.add_assoc]
    exact hnext

/-! A reference that has been opened. -/

/-- What follows an opening, taken apart as the scan does it: a space if there is one, the
digits, and what stops them. -/
structure Opened (r space digits after : Text) : Prop where
  eq : r = space ++ (digits ++ after)
  space : space = [' '] ∨ space = [] ∧ ¬ ∃ r', r = ' ' :: r'
  digits : ∀ d ∈ digits, d.isDigit = true
  after : ¬ ∃ d r', after = d :: r' ∧ d.isDigit = true

theorem opened_exists (r : Text) : ∃ space digits after, Opened r space digits after := by
  have hstop (rest : Text) : ¬ ∃ d r', rest.dropWhile Char.isDigit = d :: r' ∧
      d.isDigit = true := by
    rintro ⟨d, r', heq, hd⟩
    have hhead := List.head?_dropWhile_not Char.isDigit rest
    rw [heq] at hhead
    simp [hd] at hhead
  have hrun (rest : Text) : ∀ d ∈ rest.takeWhile Char.isDigit, d.isDigit = true :=
    fun d hd => List.all_eq_true.mp List.all_takeWhile d hd
  by_cases h : ∃ r', r = ' ' :: r'
  · obtain ⟨rest, rfl⟩ := h
    refine ⟨[' '], rest.takeWhile Char.isDigit, rest.dropWhile Char.isDigit, ?_, .inl rfl,
      hrun rest, hstop rest⟩
    rw [List.takeWhile_append_dropWhile]
    rfl
  · refine ⟨[], r.takeWhile Char.isDigit, r.dropWhile Char.isDigit, ?_, .inr ⟨rfl, h⟩,
      hrun r, hstop r⟩
    rw [List.takeWhile_append_dropWhile]
    rfl

theorem digits_unique {digits digits' r r' : Text} (hd : ∀ d ∈ digits, d.isDigit = true)
    (hr : ¬ ∃ d r'', r = d :: r'' ∧ d.isDigit = true) (hd' : ∀ d ∈ digits', d.isDigit = true)
    (hr' : ¬ ∃ d r'', r' = d :: r'' ∧ d.isDigit = true) (h : digits ++ r = digits' ++ r') :
    digits = digits' ∧ r = r' := by
  have htake {digits r : Text} (hd : ∀ d ∈ digits, d.isDigit = true)
      (hr : ¬ ∃ d r'', r = d :: r'' ∧ d.isDigit = true) :
      (digits ++ r).takeWhile Char.isDigit = digits := by
    rw [List.takeWhile_append_of_pos hd]
    cases r with
    | nil => simp
    | cons d r =>
      have hnot : ¬ d.isDigit = true := fun hdigit => hr ⟨d, r, rfl, hdigit⟩
      simp [hnot]
  have heq : digits = digits' := by rw [← htake hd hr, h, htake hd' hr']
  subst heq
  exact ⟨rfl, List.append_cancel_left h⟩

theorem Opened.refAt_iff {r space digits after : Text} (h : Opened r space digits after)
    (chapter : UInt32) : RefAt (chapterMark ++ r) chapter ↔
      digits ≠ [] ∧ (∃ rest, after = ')' :: rest) ∧ decimalValue digits = chapter.toNat := by
  constructor
  · rintro ⟨space', digits', rest, heq, hspace', hne, hd', hv⟩
    rw [List.append_right_inj] at heq
    have hparen : ¬ ∃ d r', ')' :: rest = d :: r' ∧ d.isDigit = true := by
      rintro ⟨d, r', hcons, hd⟩
      cases hcons
      exact absurd hd (by decide)
    have hspace : space = space' := by
      rcases h.space with rfl | ⟨rfl, hno⟩
      · rcases hspace' with rfl | rfl
        · obtain ⟨d, ds, rfl⟩ := List.exists_cons_of_ne_nil hne
          have hfirst : ' ' = d := by
            have := h.eq.symm.trans heq
            simp only [List.cons_append, List.nil_append, List.cons.injEq] at this
            exact this.1
          exact absurd (hd' d List.mem_cons_self) (hfirst ▸ by decide)
        · rfl
      · rcases hspace' with rfl | rfl
        · rfl
        · exact absurd ⟨_, heq⟩ hno
    subst hspace
    have hrest := h.eq.symm.trans heq
    rw [List.append_right_inj] at hrest
    obtain ⟨rfl, rfl⟩ := digits_unique h.digits h.after hd' hparen hrest
    exact ⟨hne, ⟨rest, rfl⟩, hv⟩
  · rintro ⟨hne, ⟨rest, rfl⟩, hv⟩
    refine ⟨space, digits, rest, by rw [h.eq], ?_, hne, h.digits, hv⟩
    exact h.space.symm.imp And.left id

theorem Opened.digitsStart_eq {r space digits after : Text} (h : Opened r space digits after)
    (q : Text) : (if byteAt (q ++ r) (size q) = some (asciiByte ' ') then size q + 1
      else size q) = size (q ++ space) := by
  have hsp : size [' '] = 1 := by decide
  rcases h.space with hs | ⟨hs, hno⟩
  · have hr : ∃ r', r = ' ' :: r' := ⟨digits ++ after, by rw [h.eq, hs]; rfl⟩
    rw [if_pos ((byteAt_size_iff (by decide) q r).mpr hr), hs, size_append, hsp]
  · rw [if_neg fun hb => hno ((byteAt_size_iff (by decide) q r).mp hb), hs, List.append_nil]

theorem Opened.digitsEnd_eq {r space digits after : Text} (h : Opened r space digits after)
    (q : Text) : digitsEnd (q ++ r) (size (q ++ space)) = size (q ++ space ++ digits) := by
  rw [h.eq, ← List.append_assoc, Graftx.Xtask.digitsEnd_eq _ _ _ h.digits h.after,
    size_append (q ++ space)]

theorem Opened.closes_iff {r space digits after : Text} (h : Opened r space digits after)
    (q : Text) : (size (q ++ space) < size (q ++ space ++ digits) ∧
        byteAt (q ++ r) (size (q ++ space ++ digits)) = some (asciiByte ')')) ↔
      digits ≠ [] ∧ ∃ rest, after = ')' :: rest := by
  have hcut : q ++ r = q ++ space ++ digits ++ after := by simp [h.eq]
  rw [hcut, byteAt_size_iff (by decide), size_append (q ++ space)]
  refine and_congr_left fun _ => ?_
  cases digits with
  | nil => simp
  | cons d digits =>
    have hpos := d.utf8Size_pos
    rw [size_cons]
    simp
    omega

theorem Opened.chapterAt_some {r space digits after : Text} (h : Opened r space digits after)
    (q : Text) (hc : digits ≠ [] ∧ ∃ rest, after = ')' :: rest) :
    chapterAt (q ++ r) (size q) = some (parseU32 digits).toList := by
  have hslice : slice (q ++ r) (size (q ++ space)) (size (q ++ space ++ digits)) =
      some digits := by
    have hcut : q ++ r = (q ++ space) ++ (digits ++ after) := by simp [h.eq]
    rw [hcut, size_append (q ++ space), slice_append]
  simp only [chapterAt, h.digitsStart_eq, h.digitsEnd_eq, if_pos ((h.closes_iff q).mpr hc), hslice]
  rfl

theorem Opened.chapterAt_none {r space digits after : Text} (h : Opened r space digits after)
    (q : Text) (hc : ¬ (digits ≠ [] ∧ ∃ rest, after = ')' :: rest)) :
    chapterAt (q ++ r) (size q) = some [] := by
  simp only [chapterAt, h.digitsStart_eq, h.digitsEnd_eq,
    if_neg fun hb => hc ((h.closes_iff q).mp hb)]

/-- Either a reference has been opened and its chapter is found, or nothing is. -/
theorem chapterAt_spec (q r : Text) :
    (∃ chapter, chapterAt (q ++ r) (size q) = some [chapter] ∧
      RefAt (chapterMark ++ r) chapter) ∨
    chapterAt (q ++ r) (size q) = some [] ∧ ∀ chapter, ¬ RefAt (chapterMark ++ r) chapter := by
  obtain ⟨space, digits, after, h⟩ := opened_exists r
  by_cases hc : digits ≠ [] ∧ ∃ rest, after = ')' :: rest
  · rw [h.chapterAt_some q hc]
    cases hp : parseU32 digits with
    | some chapter =>
      have hv := (parseU32_eq_some_iff h.digits hc.1 chapter).mp hp
      exact .inl ⟨chapter, rfl, (h.refAt_iff chapter).mpr ⟨hc.1, hc.2, hv⟩⟩
    | none =>
      refine .inr ⟨rfl, fun chapter hr => ?_⟩
      have hv := ((h.refAt_iff chapter).mp hr).2.2
      rw [(parseU32_eq_some_iff h.digits hc.1 chapter).mpr hv] at hp
      cases hp
  · exact .inr ⟨h.chapterAt_none q hc,
      fun chapter hr => hc (((h.refAt_iff chapter).mp hr).imp_right And.left)⟩

/-! The scan over the line. -/

theorem RefAt.unique {s : Text} {chapter chapter' : UInt32} (h : RefAt s chapter)
    (h' : RefAt s chapter') : chapter = chapter' := by
  obtain ⟨r, rfl⟩ : ∃ r, s = chapterMark ++ r := by
    obtain ⟨space, digits, after, heq, -⟩ := h
    exact ⟨_, heq⟩
  obtain ⟨space, digits, after, ho⟩ := opened_exists r
  have hv := ((ho.refAt_iff chapter).mp h).2.2
  have hv' := ((ho.refAt_iff chapter').mp h').2.2
  exact UInt32.toNat_inj.mp (hv.symm.trans hv')

theorem Refs.unique {s : Text} {chapters chapters' : List UInt32} (h : Refs s chapters)
    (h' : Refs s chapters') : chapters = chapters' := by
  induction h generalizing chapters' with
  | nil =>
    cases h'
    rfl
  | @hit c s chapter chapters hr _ ih =>
    cases h' with
    | hit hr' h' => rw [hr.unique hr', ih h']
    | miss hn _ => exact absurd hr (hn chapter)
  | @miss c s chapters hn _ ih =>
    cases h' with
    | hit hr' _ => exact absurd hr' (hn _)
    | miss _ h' => exact ih h'

theorem Refs.skip {p s : Text} {chapters : List UInt32}
    (hp : ∀ q q', p = q ++ q' → q' ≠ [] → ¬ chapterMark <+: q' ++ s) (h : Refs s chapters) :
    Refs (p ++ s) chapters := by
  induction p with
  | nil => exact h
  | cons c p ih =>
    refine .miss (fun chapter hr => ?_) (ih fun q q' hq hne => hp (c :: q) q' (by rw [hq]; rfl) hne)
    obtain ⟨space, digits, after, heq, -⟩ := hr
    exact hp [] (c :: p) rfl (by simp) ⟨_, heq.symm⟩

theorem RefAt.head {c : Char} {s : Text} {chapter : UInt32} (h : RefAt (c :: s) chapter) :
    c = '(' := by
  obtain ⟨space, digits, after, heq, -⟩ := h
  exact (List.cons.injEq _ _ _ _ ▸ heq).1

theorem Refs.mark {r : Text} {chapters : List UInt32} (h : Refs r chapters) :
    Refs ('C' :: 'h' :: '.' :: r) chapters :=
  .miss (fun _ hr => absurd hr.head (by decide)) <|
    .miss (fun _ hr => absurd hr.head (by decide)) <|
      .miss (fun _ hr => absurd hr.head (by decide)) h

theorem chaptersFrom_eq (line : Text) (i : Nat) : chaptersFrom line i =
    match sliceFrom line i with
    | none => none
    | some rest =>
      match findStr chapterMark rest with
      | none => some []
      | some rel => do
        let found ← chapterAt line (i + rel + 4)
        let more ← chaptersFrom line (i + rel + 4)
        return found ++ more := by
  rw [chaptersFrom]
  split <;> rename_i heq
  · rw [heq]
  · rw [heq]
    split <;> rename_i heq'
    · simp only [heq']
    · simp only [heq']

theorem chaptersFrom_none {pre s : Text} (h : findStr chapterMark s = none) :
    chaptersFrom (pre ++ s) (size pre) = some [] := by
  rw [chaptersFrom_eq, sliceFrom_append]
  simp only [h]

theorem chaptersFrom_found {pre p r : Text} {found more : List UInt32}
    (h : findStr chapterMark (p ++ chapterMark ++ r) = some (size p))
    (ha : chapterAt (pre ++ p ++ chapterMark ++ r) (size (pre ++ p ++ chapterMark)) = some found)
    (hm : chaptersFrom (pre ++ p ++ chapterMark ++ r) (size (pre ++ p ++ chapterMark)) =
      some more) :
    chaptersFrom (pre ++ (p ++ chapterMark ++ r)) (size pre) = some (found ++ more) := by
  have hmark : size chapterMark = 4 := by decide
  have hpos : size (pre ++ p ++ chapterMark) = size pre + size p + 4 := by
    simp only [size_append, hmark]
  have hcut : pre ++ p ++ chapterMark ++ r = pre ++ (p ++ chapterMark ++ r) := by simp
  rw [hpos, hcut] at ha hm
  rw [chaptersFrom_eq, sliceFrom_append]
  simp only [h, ha, hm]
  rfl

/-- From the start of any character on, the scan finds the references of what is left. -/
theorem chaptersFrom_spec (pre s : Text) :
    ∃ chapters, chaptersFrom (pre ++ s) (size pre) = some chapters ∧ Refs s chapters := by
  induction hn : s.length using Nat.strongRecOn generalizing pre s with
  | _ n ih =>
    cases hf : findStr chapterMark s with
    | none =>
      have hnone : Refs (s ++ []) [] := by
        refine Refs.skip (fun q q' hq hne hpre => ?_) .nil
        obtain ⟨r, hr⟩ := hpre
        rw [List.append_nil] at hr
        exact findStr_none hf (p := q) (r := r) (by rw [List.append_assoc, hr, hq])
      exact ⟨[], chaptersFrom_none hf, by rwa [List.append_nil] at hnone⟩
    | some rel =>
      obtain ⟨p, r, rfl, rfl, hfirst⟩ := findStr_some hf
      obtain ⟨chapters, hc, hr⟩ := ih r.length (by simp [← hn, chapterMark]; omega)
        (pre ++ p ++ chapterMark) r rfl
      have hskip {found : List UInt32} (h : Refs (chapterMark ++ r) found) :
          Refs (p ++ chapterMark ++ r) found := by
        rw [List.append_assoc]
        refine Refs.skip (fun q q' hq hne => ?_) h
        rw [← List.append_assoc]
        exact hfirst q q' hq hne
      rcases chapterAt_spec (pre ++ p ++ chapterMark) r with ⟨chapter, ha, href⟩ | ⟨ha, hnone⟩
      · exact ⟨chapter :: chapters, chaptersFrom_found hf ha hc, hskip (.hit href hr.mark)⟩
      · exact ⟨chapters, chaptersFrom_found hf ha hc, hskip (.miss hnone hr.mark)⟩

end Graftx.Xtask
