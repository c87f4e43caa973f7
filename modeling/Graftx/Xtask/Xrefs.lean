import Graftx.Lib.Utf8Text
import Graftx.Xtask.Opcodes

/-! Extraction of links and chapter references from Markdown. Both scans run over byte positions
of a line; slicing a line inside a character would stop them, and is `none` here. -/
namespace Graftx.Xtask
open Lib.Lines Lib.Utf8Text

def linksFrom (line : Text) (i : Nat) : Option (List Text) :=
  if h : i + 1 < size line then
    if byteAt line i = some (asciiByte ']') ∧ byteAt line (i + 1) = some (asciiByte '(') then
      match sliceFrom line (i + 2) with
      | none => none
      | some rest =>
        match findChar ')' rest with
        | some rel => do
          let target ← slice line (i + 2) (i + 2 + rel)
          let more ← linksFrom line (i + 2 + rel + 1)
          return target :: more
        | none => linksFrom line (i + 1)
    else linksFrom line (i + 1)
  else some []
termination_by size line - i

def isAsciiDigit (b : UInt8) : Bool := asciiByte '0' ≤ b && b ≤ asciiByte '9'

def digitsEnd (line : Text) (cursor : Nat) : Nat :=
  if h : (byteAt line cursor).any isAsciiDigit = true then digitsEnd line (cursor + 1) else cursor
termination_by size line - cursor
decreasing_by
  cases hb : byteAt line cursor with
  | none =>
    rw [hb] at h
    cases h
  | some b =>
    have := byteAt_lt hb
    omega

def pushDigit (n : Nat) (c : Char) : Option Nat :=
  if c.isDigit = true ∧ n * 10 + (c.toNat - '0'.toNat) < 2 ^ 32 then
    some (n * 10 + (c.toNat - '0'.toNat))
  else none

/-- `parse::<u32>()`: an optional plus sign and at least one digit. -/
def parseU32 (text : Text) : Option UInt32 :=
  let digits := if text.head? = some '+' then text.tail else text
  if digits = [] then none else (digits.foldlM pushDigit 0).map UInt32.ofNat

/-- The reference whose opening ends right before `cursor`, if one is well formed there. -/
def chapterAt (line : Text) (cursor : Nat) : Option (List UInt32) :=
  let digitsStart := if byteAt line cursor = some (asciiByte ' ') then cursor + 1 else cursor
  let cursor := digitsEnd line digitsStart
  if digitsStart < cursor ∧ byteAt line cursor = some (asciiByte ')') then
    (slice line digitsStart cursor).map fun digits => (parseU32 digits).toList
  else some []

def chapterMark : Text := ['(', 'C', 'h', '.']

theorem size_of_findStr {s : Text} {rel : Nat} (h : findStr chapterMark s = some rel) :
    rel + 4 ≤ size s := by
  obtain ⟨p, r, rfl, rfl, -⟩ := findStr_some h
  have hmark : size chapterMark = 4 := by decide
  simp only [size_append, hmark]
  omega

def chaptersFrom (line : Text) (searchFrom : Nat) : Option (List UInt32) :=
  match _h : sliceFrom line searchFrom with
  | none => none
  | some rest =>
    match _h' : findStr chapterMark rest with
    | none => some []
    | some rel => do
      let found ← chapterAt line (searchFrom + rel + 4)
      let more ← chaptersFrom line (searchFrom + rel + 4)
      return found ++ more
termination_by size line - searchFrom
decreasing_by
  have := size_of_sliceFrom _h
  have := size_of_findStr _h'
  omega

def extractFrom {β : Type} (scan : Text → Option (List β)) :
    Nat → List Text → Option (List (Nat × β))
  | _, [] => some []
  | lineNo, line :: rest => do
    let found ← scan line
    let more ← extractFrom scan (lineNo + 1) rest
    return found.map (lineNo, ·) ++ more

def extractLinks (md : Text) : Option (List (Nat × Text)) :=
  extractFrom (linksFrom · 0) 1 (lines md)

def extractChapterRefs (md : Text) : Option (List (Nat × UInt32)) :=
  extractFrom (chaptersFrom · 0) 1 (lines md)

end Graftx.Xtask
