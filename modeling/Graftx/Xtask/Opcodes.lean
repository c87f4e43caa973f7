import Graftx.Lib.Lines
import Graftx.Lib.Numerals
import Graftx.Lib.StableSort
import Mathlib.Data.Prod.Lex

/-! The opcode table and the texts rendered from it: the Markdown document, and the lockfile
that a check compares with what is on disk. -/
namespace Graftx.Xtask
open Lib.Lines Lib.Numerals Lib.StableSort

/-- A Rust `str`: its scalar values. -/
abbrev Text := List Char

structure OpcodeEntry where
  apiName : Text
  apiId : UInt8
  name : Text
  callId : UInt32

namespace OpcodeEntry

/-- API byte in the high 8 bits, call id in the low 24. -/
def opcode (e : OpcodeEntry) : UInt32 := (e.apiId.toUInt32 <<< 24) ||| (e.callId &&& 0x00FFFFFF)

def call (e : OpcodeEntry) : UInt32 := e.opcode &&& 0x00FFFFFF

theorem toNat_masked (c : UInt32) : (c &&& 0x00FFFFFF).toNat = c.toNat % 2 ^ 24 := by
  have hmask : (0x00FFFFFF : UInt32).toNat = 2 ^ 24 - 1 := by decide
  rw [UInt32.toNat_and, hmask, Nat.and_two_pow_sub_one_eq_mod]

theorem toNat_opcode (e : OpcodeEntry) :
    e.opcode.toNat = 2 ^ 24 * e.apiId.toNat + e.callId.toNat % 2 ^ 24 := by
  have ha := e.apiId.toNat_lt
  have hc : e.callId.toNat % 2 ^ 24 < 2 ^ 24 := Nat.mod_lt _ (by decide)
  rw [Nat.two_pow_add_eq_or_of_lt hc]
  simp only [opcode, UInt32.toNat_or, UInt32.toNat_shiftLeft, UInt8.toNat_toUInt32, toNat_masked,
    Nat.shiftLeft_eq]
  congr 1
  rw [show (UInt32.toNat 24 % 32) = 24 from rfl]
  omega

theorem toNat_call (e : OpcodeEntry) : e.call.toNat = e.callId.toNat % 2 ^ 24 := by
  rw [call, toNat_masked, toNat_opcode]
  omega

theorem call_eq (e : OpcodeEntry) : e.call = e.callId &&& 0x00FFFFFF := by
  rw [← UInt32.toNat_inj, toNat_call, toNat_masked]

theorem call_lt (e : OpcodeEntry) : e.call.toNat < 16 ^ 6 := by
  rw [toNat_call]
  omega

end OpcodeEntry

def formatOpcode (e : OpcodeEntry) : Text :=
  ['0', 'x'] ++ hexPadded 2 e.apiId.toNat ++ ['_'] ++ hexPadded 6 e.call.toNat

def renderOpcodeTable (entries : List OpcodeEntry) : Text :=
  unlines ("| Opcode | API | Name |".toList :: "| --- | --- | --- |".toList ::
    entries.map fun e => "| ".toList ++ formatOpcode e ++ " | ".toList ++ e.apiName ++
      " | ".toList ++ e.name ++ " |".toList)

def docHeader : Text :=
  ("# GraftX opcode table\n\n" ++
    "Generated by `cargo xtask opcodes-md`. Do not edit by hand; regenerate it with\n" ++
    "`cargo xtask opcodes-md --write` and gate drift in CI with `cargo xtask " ++
    "opcodes-md --check`.").toList

def renderDoc (entries : List OpcodeEntry) : Text :=
  docHeader ++ "\n\n".toList ++ renderOpcodeTable entries

def lockHeader : Text :=
  ("# GraftX opcode lock — generated by `cargo xtask opcodes-lock --write`.\n" ++
    "# One line per opcode: `0x<api>_<call> <API> <NAME>`, sorted by (api_id, call_id).\n" ++
    "# Do not edit by hand; renumbering an opcode here will fail " ++
    "`opcodes-lock --check`.").toList

def lockKey (e : OpcodeEntry) : ℕ ×ₗ ℕ := toLex (e.apiId.toNat, e.call.toNat)

def lockLine (e : OpcodeEntry) : Text :=
  formatOpcode e ++ [' '] ++ e.apiName ++ [' '] ++ e.name

def renderLock (entries : List OpcodeEntry) : Text :=
  lockHeader ++ ['\n'] ++ unlines ((sortByKey lockKey entries).map lockLine)

inductive LockStatus where
  | upToDate
  | stale (onDisk expected : Text)
  | unreadable (error : Text)
  deriving DecidableEq

def LockStatus.isUpToDate : LockStatus → Bool
  | .upToDate => true
  | _ => false

/-- The comparison `check_lock` and `check_doc` make; `file` is what reading the file gave. -/
def checkText (file : Except Text Text) (expected : Text) : LockStatus :=
  match file with
  | .ok onDisk => if onDisk = expected then .upToDate else .stale onDisk expected
  | .error e => .unreadable e

def checkLock (file : Except Text Text) (entries : List OpcodeEntry) : LockStatus :=
  checkText file (renderLock entries)

theorem checkText_upToDate_iff (file : Except Text Text) (expected : Text) :
    (checkText file expected).isUpToDate = true ↔ file = .ok expected := by
  cases file with
  | error e => simp [checkText, LockStatus.isUpToDate]
  | ok onDisk =>
    by_cases h : onDisk = expected
    · simp [checkText, LockStatus.isUpToDate, h]
    · simp [checkText, LockStatus.isUpToDate, h]

theorem checkText_stale_iff (file : Except Text Text) (onDisk expected expected' : Text) :
    checkText file expected = .stale onDisk expected' ↔
      file = .ok onDisk ∧ expected' = expected ∧ onDisk ≠ expected := by
  cases file with
  | error e => simp [checkText]
  | ok text =>
    by_cases h : text = expected
    · simp [checkText, h]
      grind
    · simp [checkText, h]
      grind

end Graftx.Xtask
