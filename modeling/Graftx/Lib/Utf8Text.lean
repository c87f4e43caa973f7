import Mathlib.Data.List.Basic

/-! Text addressed by bytes. A text is a list of characters, but positions in it count the bytes
of its encoding: a byte of an ASCII character is found only where that character stands, and
cutting the text inside a character is refused. -/
namespace Lib.Utf8Text

def encode (s : List Char) : List UInt8 := s.flatMap String.utf8EncodeChar

def size (s : List Char) : Nat := (encode s).length

@[simp] theorem encode_append (s t : List Char) : encode (s ++ t) = encode s ++ encode t := by
  simp [encode]

@[simp] theorem size_nil : size [] = 0 := rfl

@[simp] theorem size_cons (c : Char) (s : List Char) : size (c :: s) = c.utf8Size + size s := by
  simp [size, encode]

@[simp] theorem size_append (s t : List Char) : size (s ++ t) = size s + size t := by
  simp [size]

def byteAt (s : List Char) (i : Nat) : Option UInt8 := (encode s)[i]?

theorem byteAt_lt {s : List Char} {i : Nat} {b : UInt8} (h : byteAt s i = some b) : i < size s := by
  by_contra hn
  rw [byteAt, List.getElem?_eq_none (Nat.not_lt.mp hn)] at h
  cases h

theorem byteAt_append (p s : List Char) (k : Nat) : byteAt (p ++ s) (size p + k) = byteAt s k := by
  rw [byteAt, encode_append, size, List.getElem?_append_right (Nat.le_add_right _ _),
    Nat.add_sub_cancel_left, byteAt]

def IsAscii (c : Char) : Prop := c.toNat < 128

instance (c : Char) : Decidable (IsAscii c) := inferInstanceAs (Decidable (c.toNat < 128))

def asciiByte (c : Char) : UInt8 := UInt8.ofNat c.toNat

theorem asciiByte_toNat {c : Char} (h : IsAscii c) : (asciiByte c).toNat = c.toNat :=
  UInt8.toNat_ofNat_of_lt' (by rw [UInt8.size]; exact Nat.lt_of_lt_of_le h (by decide))

theorem asciiByte_inj {a c : Char} (ha : IsAscii a) (hc : IsAscii c)
    (h : asciiByte a = asciiByte c) : a = c := by
  have hn := congrArg UInt8.toNat h
  rw [asciiByte_toNat ha, asciiByte_toNat hc] at hn
  exact Char.toNat_inj.mp hn

theorem utf8Size_of_ascii {c : Char} (h : IsAscii c) : c.utf8Size = 1 := by
  rw [Char.utf8Size_eq_one_iff, UInt32.le_iff_toNat_le]
  exact Nat.le_of_lt_succ h

theorem encodeChar_of_ascii {c : Char} (h : IsAscii c) :
    String.utf8EncodeChar c = [asciiByte c] := by
  rw [String.utf8EncodeChar_eq_singleton (utf8Size_of_ascii h)]
  congr 1

theorem encodeChar_high {c : Char} (h : ¬ IsAscii c) :
    ∀ b ∈ String.utf8EncodeChar c, 128 ≤ b.toNat := by
  have hor (x y : UInt8) (hy : 128 ≤ y.toNat) : 128 ≤ (x ||| y).toNat := by
    rw [UInt8.toNat_or]
    exact Nat.le_trans hy Nat.right_le_or
  intro b hb
  obtain h1 | h2 | h3 | h4 := Char.utf8Size_eq c
  · rw [Char.utf8Size_eq_one_iff, UInt32.le_iff_toNat_le] at h1
    exact absurd (Nat.lt_succ_of_le h1) h
  · simp only [String.utf8EncodeChar_eq_cons_cons h2, List.mem_cons, List.not_mem_nil,
      or_false] at hb
    rcases hb with rfl | rfl
    · exact hor _ _ (by decide)
    · exact hor _ _ (by decide)
  · simp only [String.utf8EncodeChar_eq_cons_cons_cons h3, List.mem_cons, List.not_mem_nil,
      or_false] at hb
    rcases hb with rfl | rfl | rfl
    · exact hor _ _ (by decide)
    · exact hor _ _ (by decide)
    · exact hor _ _ (by decide)
  · simp only [String.utf8EncodeChar_eq_cons_cons_cons_cons h4, List.mem_cons, List.not_mem_nil,
      or_false] at hb
    rcases hb with rfl | rfl | rfl | rfl
    · exact hor _ _ (by decide)
    · exact hor _ _ (by decide)
    · exact hor _ _ (by decide)
    · exact hor _ _ (by decide)

theorem byteAt_zero_iff {a c : Char} (ha : IsAscii a) (s : List Char) :
    byteAt (c :: s) 0 = some (asciiByte a) ↔ c = a := by
  have hlen := String.length_utf8EncodeChar c
  have hpos := c.utf8Size_pos
  have hhead : byteAt (c :: s) 0 = (String.utf8EncodeChar c)[0]? := by
    rw [byteAt, encode, List.flatMap_cons, List.getElem?_append_left (by omega)]
  rw [hhead]
  by_cases hc : IsAscii c
  · rw [encodeChar_of_ascii hc]
    constructor
    · intro h
      exact asciiByte_inj hc ha (Option.some.inj h)
    · rintro rfl
      rfl
  · refine iff_of_false (fun h => ?_) (fun h => hc (h ▸ ha))
    have hb := encodeChar_high hc _ (List.mem_of_getElem? h)
    rw [asciiByte_toNat ha] at hb
    exact absurd ha (Nat.not_lt.mpr hb)

theorem byteAt_high {c : Char} (hc : ¬ IsAscii c) {k : Nat} (hk : k < c.utf8Size) {s : List Char}
    {b : UInt8} (h : byteAt (c :: s) k = some b) : 128 ≤ b.toNat := by
  have hlen := String.length_utf8EncodeChar c
  rw [byteAt, encode, List.flatMap_cons, List.getElem?_append_left (by omega)] at h
  exact encodeChar_high hc b (List.mem_of_getElem? h)

theorem byteAt_inside {c : Char} {k : Nat} (h0 : 0 < k) (hk : k < c.utf8Size) {s : List Char}
    {b : UInt8} (h : byteAt (c :: s) k = some b) : 128 ≤ b.toNat := by
  refine byteAt_high (fun hc => ?_) hk h
  rw [utf8Size_of_ascii hc] at hk
  omega

theorem byteAt_size_iff {a : Char} (ha : IsAscii a) (p s : List Char) :
    byteAt (p ++ s) (size p) = some (asciiByte a) ↔ ∃ r, s = a :: r := by
  have hk := byteAt_append p s 0
  rw [Nat.add_zero] at hk
  rw [hk]
  cases s with
  | nil => simp [byteAt, encode]
  | cons c s =>
    rw [byteAt_zero_iff ha]
    simp

/-- A step from byte to byte that does not notice the inside of a character takes it whole. -/
theorem walk_char {β : Type} (f : Nat → β) (c : Char) (i : Nat)
    (hstep : ∀ k < c.utf8Size, f (i + k) = f (i + k + 1)) : f i = f (i + c.utf8Size) := by
  have hall : ∀ k ≤ c.utf8Size, f i = f (i + k) := by
    intro k
    induction k with
    | zero => simp
    | succ k ih =>
      intro hk
      rw [ih (by omega), hstep k (by omega), Nat.add_assoc]
  exact hall _ (Nat.le_refl _)

/-- The text from byte `i` on, if a character starts there or the text ends there. -/
def sliceFrom : List Char → Nat → Option (List Char)
  | s, 0 => some s
  | [], _ + 1 => none
  | c :: s, i + 1 => if i + 1 < c.utf8Size then none else sliceFrom s (i + 1 - c.utf8Size)

/-- The first `j` bytes of the text, if they are whole characters. -/
def sliceTo : List Char → Nat → Option (List Char)
  | _, 0 => some []
  | [], _ + 1 => none
  | c :: s, j + 1 =>
    if j + 1 < c.utf8Size then none else (sliceTo s (j + 1 - c.utf8Size)).map (c :: ·)

def slice (s : List Char) (i j : Nat) : Option (List Char) :=
  if j < i then none else (sliceFrom s i).bind fun t => sliceTo t (j - i)

@[simp] theorem sliceFrom_append (p s : List Char) : sliceFrom (p ++ s) (size p) = some s := by
  induction p with
  | nil => cases s <;> rfl
  | cons c p ih =>
    have hc := c.utf8Size_pos
    obtain ⟨k, hk⟩ : ∃ k, c.utf8Size + size p = k + 1 := ⟨c.utf8Size + size p - 1, by omega⟩
    rw [List.cons_append, size_cons, hk, sliceFrom, if_neg (by omega)]
    rw [← hk, Nat.add_sub_cancel_left, ih]

@[simp] theorem sliceTo_append (p s : List Char) : sliceTo (p ++ s) (size p) = some p := by
  induction p with
  | nil => cases s <;> rfl
  | cons c p ih =>
    have hc := c.utf8Size_pos
    obtain ⟨k, hk⟩ : ∃ k, c.utf8Size + size p = k + 1 := ⟨c.utf8Size + size p - 1, by omega⟩
    rw [List.cons_append, size_cons, hk, sliceTo, if_neg (by omega)]
    rw [← hk, Nat.add_sub_cancel_left, ih]
    rfl

theorem slice_append (p t s : List Char) :
    slice (p ++ (t ++ s)) (size p) (size p + size t) = some t := by
  rw [slice, if_neg (by omega), sliceFrom_append, Nat.add_sub_cancel_left]
  exact sliceTo_append t s

theorem size_of_sliceFrom {s t : List Char} {i : Nat} (h : sliceFrom s i = some t) :
    i + size t = size s := by
  induction s generalizing i with
  | nil =>
    cases i with
    | zero => cases h; rfl
    | succ i => cases h
  | cons c s ih =>
    cases i with
    | zero => cases h; omega
    | succ i =>
      rw [sliceFrom] at h
      split at h
      · cases h
      · have hi := ih h
        rw [size_cons]
        omega

def findChar (c : Char) : List Char → Option Nat
  | [] => none
  | x :: s => if x = c then some 0 else (findChar c s).map (x.utf8Size + ·)

theorem findChar_of_not_mem {c : Char} {s : List Char} (h : c ∉ s) : findChar c s = none := by
  induction s with
  | nil => rfl
  | cons x s ih =>
    rw [List.mem_cons, not_or] at h
    rw [findChar, if_neg (Ne.symm h.1), ih h.2]
    rfl

theorem findChar_append {c : Char} {p : List Char} (h : c ∉ p) (r : List Char) :
    findChar c (p ++ c :: r) = some (size p) := by
  induction p with
  | nil => simp [findChar]
  | cons x p ih =>
    rw [List.mem_cons, not_or] at h
    rw [List.cons_append, findChar, if_neg (Ne.symm h.1), ih h.2, size_cons]
    rfl

def findStr (pat : List Char) : List Char → Option Nat
  | [] => if pat = [] then some 0 else none
  | x :: s => if pat <+: x :: s then some 0 else (findStr pat s).map (x.utf8Size + ·)

theorem findStr_none {pat s p r : List Char} (h : findStr pat s = none) : s ≠ p ++ pat ++ r := by
  induction s generalizing p with
  | nil =>
    rintro heq
    rw [findStr] at h
    split at h
    · cases h
    · rename_i hne
      have hnil := List.append_eq_nil_iff.mp (List.append_eq_nil_iff.mp heq.symm).1
      exact hne hnil.2
  | cons x s ih =>
    intro heq
    rw [findStr] at h
    split at h
    · cases h
    · rename_i hne
      rw [Option.map_eq_none_iff] at h
      cases p with
      | nil => exact hne ⟨r, heq.symm⟩
      | cons y p =>
        simp only [List.cons_append, List.cons.injEq] at heq
        exact ih h heq.2

theorem findStr_some {pat s : List Char} {i : Nat} (h : findStr pat s = some i) :
    ∃ p r, s = p ++ pat ++ r ∧ size p = i ∧
      ∀ q q', p = q ++ q' → q' ≠ [] → ¬ pat <+: q' ++ pat ++ r := by
  induction s generalizing i with
  | nil =>
    rw [findStr] at h
    split at h
    · rename_i hpat
      cases h
      refine ⟨[], [], by rw [hpat]; rfl, rfl, fun q q' hq hne => ?_⟩
      exact absurd (List.append_eq_nil_iff.mp hq.symm).2 hne
    · cases h
  | cons x s ih =>
    rw [findStr] at h
    split at h
    · rename_i hpre
      cases h
      obtain ⟨r, hr⟩ := hpre
      refine ⟨[], r, hr.symm, rfl, fun q q' hq hne => ?_⟩
      exact absurd (List.append_eq_nil_iff.mp hq.symm).2 hne
    · rename_i hpre
      obtain ⟨j, hj, rfl⟩ := Option.map_eq_some_iff.mp h
      obtain ⟨p, r, rfl, rfl, hfirst⟩ := ih hj
      refine ⟨x :: p, r, rfl, size_cons x p, fun q q' hq hne => ?_⟩
      cases q with
      | nil =>
        rw [List.nil_append] at hq
        rw [← hq]
        exact hpre
      | cons y q =>
        simp only [List.cons_append, List.cons.injEq] at hq
        exact hfirst q q' hq.2 hne

end Lib.Utf8Text
