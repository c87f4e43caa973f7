import Mathlib.Algebra.Group.Nat.Defs
import Mathlib.Data.List.Basic
import Mathlib.Data.Nat.Basic

/-! Numbers as text: decimal numerals, and upper-case hexadecimal ones padded with zeros. Either
way of writing a number determines it. -/
namespace Lib.Numerals

def decimal (n : Nat) : List Char := Nat.toDigits 10 n

theorem decimal_injective {m n : Nat} (h : decimal m = decimal n) : m = n := by
  rw [← Nat.ofDigitChars_ten_toDigits (n := m), ← Nat.ofDigitChars_ten_toDigits (n := n)]
  exact congrArg (Nat.ofDigitChars 10 · 0) h

theorem isDigit_decimal {n : Nat} {c : Char} (h : c ∈ decimal n) : c.isDigit :=
  Nat.isDigit_of_mem_toDigits (by decide) (by decide) h

theorem decimal_ne_nil (n : Nat) : decimal n ≠ [] := Nat.toDigits_ne_nil

theorem decimal_ne_zero_cons (n : Nat) (c : Char) (cs : List Char) :
    decimal n ≠ '0' :: c :: cs := by
  induction n using Nat.strongRecOn generalizing c cs with
  | _ n ih =>
    intro h
    rw [decimal, Nat.toDigits_eq_if (by decide)] at h
    split at h
    · simp at h
    · rename_i hn
      cases hd : decimal (n / 10) with
      | nil => exact decimal_ne_nil _ hd
      | cons d ds =>
        rw [show Nat.toDigits 10 (n / 10) = d :: ds from hd, List.cons_append] at h
        obtain ⟨rfl, htail⟩ := List.cons.inj h
        cases ds with
        | nil =>
          have hzero : decimal (n / 10) = decimal 0 := hd
          have h0 := decimal_injective hzero
          omega
        | cons e es => exact ih (n / 10) (by omega) e es hd

def hexDigit (d : Nat) : Char :=
  if d < 10 then Char.ofNat ('0'.toNat + d) else Char.ofNat ('A'.toNat + (d - 10))

def hexDigits (n : Nat) : List Char :=
  if n < 16 then [hexDigit n] else hexDigits (n / 16) ++ [hexDigit (n % 16)]

def hexPadded (width n : Nat) : List Char :=
  List.replicate (width - (hexDigits n).length) '0' ++ hexDigits n

def hexValue (c : Char) : Nat :=
  if c.toNat < 'A'.toNat then c.toNat - '0'.toNat else c.toNat - 'A'.toNat + 10

def hexNumber (cs : List Char) : Nat := cs.foldl (fun n c => 16 * n + hexValue c) 0

theorem hexValue_hexDigit {d : Nat} (h : d < 16) : hexValue (hexDigit d) = d := by
  have hall : ∀ d < 16, hexValue (hexDigit d) = d := by decide
  exact hall d h

theorem hexNumber_append (cs : List Char) (c : Char) :
    hexNumber (cs ++ [c]) = 16 * hexNumber cs + hexValue c := by
  simp [hexNumber]

theorem hexNumber_hexDigits (n : Nat) : hexNumber (hexDigits n) = n := by
  induction n using Nat.strongRecOn with
  | _ n ih =>
    rw [hexDigits]
    split
    · rename_i h
      simp [hexNumber, hexValue_hexDigit h]
    · rename_i h
      rw [hexNumber_append, ih (n / 16) (by omega), hexValue_hexDigit (by omega)]
      omega

theorem hexNumber_replicate (k : Nat) (cs : List Char) :
    hexNumber (List.replicate k '0' ++ cs) = hexNumber cs := by
  induction k with
  | zero => rfl
  | succ k ih =>
    rw [List.replicate_succ, List.cons_append]
    exact ih

theorem hexNumber_hexPadded (width n : Nat) : hexNumber (hexPadded width n) = n := by
  rw [hexPadded, hexNumber_replicate, hexNumber_hexDigits]

theorem hexDigits_length {n k : Nat} (h : n < 16 ^ (k + 1)) : (hexDigits n).length ≤ k + 1 := by
  induction k generalizing n with
  | zero =>
    have h16 : n < 16 := by simpa using h
    rw [hexDigits, if_pos h16]
    rfl
  | succ k ih =>
    rw [hexDigits]
    split
    · simp
    · have hn : n / 16 < 16 ^ (k + 1) := by
        rw [Nat.pow_succ] at h
        omega
      have hk := ih hn
      simpa using hk

theorem hexPadded_length {width n : Nat} (hw : 0 < width) (h : n < 16 ^ width) :
    (hexPadded width n).length = width := by
  obtain ⟨k, rfl⟩ : ∃ k, width = k + 1 := ⟨width - 1, by omega⟩
  have hk := hexDigits_length h
  rw [hexPadded, List.length_append, List.length_replicate]
  omega

theorem hexDigit_ne {c : Char} (hc : c = '\n' ∨ c = ' ') {d : Nat} (h : d < 16) :
    hexDigit d ≠ c := by
  have hall : ∀ d < 16, hexDigit d ≠ '\n' ∧ hexDigit d ≠ ' ' := by decide
  rcases hc with rfl | rfl
  · exact (hall d h).1
  · exact (hall d h).2

theorem not_mem_hexPadded {c : Char} (hc : c = '\n' ∨ c = ' ') (width n : Nat) :
    c ∉ hexPadded width n := by
  have hdigits (n : Nat) : c ∉ hexDigits n := by
    induction n using Nat.strongRecOn with
    | _ n ih =>
      rw [hexDigits]
      split
      · rename_i h
        simpa using (hexDigit_ne hc h).symm
      · rename_i h
        have hd : hexDigit (n % 16) ≠ c := hexDigit_ne hc (by omega)
        simpa [hd.symm] using ih (n / 16) (by omega)
  have hzero : c ≠ '0' := by rcases hc with rfl | rfl <;> decide
  rw [hexPadded, List.mem_append, List.mem_replicate]
  exact fun h => h.elim (fun hz => hzero hz.2) (hdigits n)

end Lib.Numerals
