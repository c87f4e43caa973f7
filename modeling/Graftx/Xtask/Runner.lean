import Graftx.Xtask.Coverage
import Graftx.Xtask.DocIndex
import Graftx.Xtask.Lint
import Graftx.Xtask.Report

/-! The task runner: one command at a time over a disk. The disk is given by what it answers; a
command that reads leaves it as it is, and a table that was written passes its check until
something else writes it. -/
namespace Graftx.Xtask
open Lib.Lines Lib.Numerals

inductive ExitCode where
  | success
  | failure
  | usage
  deriving DecidableEq

structure Outcome where
  code : ExitCode
  stdout : Text := []
  stderr : Text := []

/-- What the runner asks of a disk in the state `σ`. -/
structure FileSystem (σ : Type) where
  readToString : σ → Path → Except Text Text
  write : σ → Path → Text → Except Text Unit × σ
  readDir : σ → Path → Except Text Entries
  present : σ → Text → Bool

def docsDir : Path := ["docs".toList]

def designDir : Path := ["docs".toList, "design".toList]

def opcodesLockPath : Path := ["docs".toList, "design".toList, "opcodes.lock".toList]

def opcodesMdPath : Path := ["docs".toList, "design".toList, "OPCODES.md".toList]

inductive LockMode where
  | write
  | check

def unknownFlag (flag : Text) : Text :=
  "unknown flag `".toList ++ flag ++ "` (expected --write or --check)".toList

def checkFlag : Text := "--check".toList

def writeFlag : Text := "--write".toList

def parseLockMode (args : List Text) : Except Text LockMode :=
  match args.head? with
  | none => .ok .check
  | some flag =>
    if flag = checkFlag then .ok .check
    else if flag = writeFlag then .ok .write
    else .error (unknownFlag flag)

def rerun (name : Text) : Text :=
  " — run `cargo xtask ".toList ++ name ++ " --write`".toList

section
variable {σ : Type} (fs : FileSystem σ)

/-- Write a text rendered from the table, or compare it with what is on disk; `count` is the
number of opcodes told after writing. -/
def tableCommand (name : Text) (path : Path) (rendered : Text) (count : Nat) (args : List Text)
    (s : σ) : Outcome × σ :=
  match parseLockMode args with
  | .error e => (⟨.usage, [], unlines [name ++ ": ".toList ++ e]⟩, s)
  | .ok .write =>
    match fs.write s path rendered with
    | (.ok (), s') => (⟨.success, unlines [name ++ ": wrote ".toList ++ display path ++
        " (".toList ++ decimal count ++ " opcode(s))".toList], []⟩, s')
    | (.error e, s') => (⟨.failure, [], unlines [name ++ ": failed to write ".toList ++
        display path ++ ": ".toList ++ e]⟩, s')
  | .ok .check =>
    match checkText (fs.readToString s path) rendered with
    | .upToDate => (⟨.success, unlines [name ++ ": ".toList ++ display path ++
        " is up to date".toList], []⟩, s)
    | .stale onDisk expected => (⟨.failure, [], unlines ((name ++ ": ".toList ++ display path ++
        " is out of date".toList ++ rerun name) :: reportFirstDifference onDisk expected)⟩, s)
    | .unreadable error => (⟨.failure, [], unlines [name ++ ": cannot read ".toList ++
        display path ++ ": ".toList ++ error ++ rerun name]⟩, s)

def lockName : Text := "opcodes-lock".toList

def mdName : Text := "opcodes-md".toList

def opcodesLock (opcodes : List OpcodeEntry) (args : List Text) (s : σ) : Outcome × σ :=
  tableCommand fs lockName opcodesLockPath (renderLock opcodes)
    ((lines (renderLock opcodes)).countP fun line => line.head? ≠ some '#') args s

def opcodesMd (opcodes : List OpcodeEntry) (args : List Text) (s : σ) : Outcome × σ :=
  tableCommand fs mdName opcodesMdPath (renderDoc opcodes) opcodes.length args s

def docsListing (s : σ) (dir : Path) : Listing :=
  if fs.present s (display dir) then some (fs.readDir s dir) else none

def exitCode (problems : Nat) : ExitCode := if problems = 0 then .success else .failure

structure VerifyOutcome where
  xrefIssues : Nat
  lockUpToDate : Bool

def VerifyOutcome.passed (x : VerifyOutcome) : Bool := x.xrefIssues = 0 && x.lockUpToDate

def VerifyOutcome.exitCode (x : VerifyOutcome) : ExitCode :=
  if x.passed then .success else .failure

def VerifyOutcome.summary (x : VerifyOutcome) : List Text :=
  ["verify: xrefs: ".toList ++ decimal x.xrefIssues ++ " issue(s)".toList,
    "verify: opcodes-lock: ".toList ++
      (if x.lockUpToDate then "up-to-date".toList else "STALE".toList),
    "verify: ".toList ++
      (if x.passed then "OK (all checks passed)".toList else "FAILED".toList)]

/-- Both checks are made, whatever the first one says. -/
def verify (opcodes : List OpcodeEntry) (s : σ) : Option Outcome := do
  let (xrefIssues, out) ← checkXrefs (fs.present s) docsDir (docsListing fs s docsDir)
  let x : VerifyOutcome :=
    ⟨xrefIssues, (checkLock (fs.readToString s opcodesLockPath) opcodes).isUpToDate⟩
  return ⟨x.exitCode, unlines (out ++ x.summary), []⟩

def runCheckXrefs (s : σ) : Option Outcome := do
  let (issues, out) ← checkXrefs (fs.present s) docsDir (docsListing fs s docsDir)
  return ⟨exitCode issues, unlines out, []⟩

def runDocIndex (s : σ) : Outcome :=
  let (missing, out) := checkDocIndex designDir (fs.readDir s designDir)
    (fs.readToString s (designDir ++ [readmeName]))
  ⟨exitCode missing, unlines out, []⟩

end

def usageText : Text := unlines <| List.map String.toList
  ["graftx-xtask — GraftX in-repo task runner",
    "",
    "Usage:",
    "    cargo xtask <subcommand>",
    "",
    "Subcommands:",
    "    gen-opcodes    Generate the opcode-table source from graftx-protocol",
    "    coverage       Summarize opcode coverage per API as a Markdown roll-up",
    "    stats          Print opcode totals, distinct API count, and per-API roll-up",
    "    apis           List the distinct API ids and names as a Markdown table",
    "    summary        Print a combined headline plus the apis and coverage tables",
    "    opcodes-lock   Freeze (--write) or verify (--check, default) the opcode lock",
    "    opcodes-md     Write (--write) or verify (--check, default) docs/design/OPCODES.md",
    "    check-xrefs    Validate cross-references between the docs and the protocol",
    "    doc-index      Check every docs/design/*.md is linked from its README index",
    "    verify         Run check-xrefs and opcodes-lock --check together (CI gate)",
    "    help           Show this message"]

inductive Command where
  | genOpcodes
  | coverage
  | stats
  | apis
  | summary
  | opcodesLock
  | opcodesMd
  | verify
  | checkXrefs
  | docIndex
  | help

def commandNames : List (Text × Command) :=
  [("gen-opcodes".toList, .genOpcodes), ("coverage".toList, .coverage), ("stats".toList, .stats),
    ("apis".toList, .apis), ("summary".toList, .summary), (lockName, .opcodesLock),
    (mdName, .opcodesMd), ("verify".toList, .verify), ("check-xrefs".toList, .checkXrefs),
    ("doc-index".toList, .docIndex), ("help".toList, .help), ("-h".toList, .help),
    ("--help".toList, .help)]

def commandOf (name : Text) : Option Command :=
  (commandNames.find? fun p => p.1 = name).map Prod.snd

def unknownSubcommand (name : Text) : Text :=
  "graftx-xtask: unknown subcommand `".toList ++ name ++ ['\x60']

section
variable {σ : Type} (fs : FileSystem σ) (opcodes : List OpcodeEntry)

def run (args : List Text) (s : σ) : Option (Outcome × σ) :=
  let command := args.headD "help".toList
  match commandOf command with
  | some .genOpcodes => some (⟨.success, renderOpcodeTable opcodes, []⟩, s)
  | some .coverage => some (⟨.success, renderCoverage opcodes, []⟩, s)
  | some .stats => some (⟨.success, renderStats opcodes, []⟩, s)
  | some .apis => some (⟨.success, renderApis opcodes, []⟩, s)
  | some .summary => some (⟨.success, renderSummary opcodes, []⟩, s)
  | some .opcodesLock => some (opcodesLock fs opcodes args.tail s)
  | some .opcodesMd => some (opcodesMd fs opcodes args.tail s)
  | some .verify => (verify fs opcodes s).map (·, s)
  | some .checkXrefs => (runCheckXrefs fs s).map (·, s)
  | some .docIndex => some (runDocIndex fs s, s)
  | some .help => some (⟨.success, usageText, []⟩, s)
  | none => some (⟨.usage, [], unlines [unknownSubcommand command] ++ usageText⟩, s)

def runAll : List (List Text) → σ → Option (List Outcome × σ)
  | [], s => some ([], s)
  | args :: rest, s => do
    let (o, s) ← run fs opcodes args s
    let (os, s) ← runAll rest s
    return (o :: os, s)

end

inductive Table where
  | lock
  | md

namespace Table

def name : Table → Text
  | .lock => lockName
  | .md => mdName

def path : Table → Path
  | .lock => opcodesLockPath
  | .md => opcodesMdPath

def text (opcodes : List OpcodeEntry) : Table → Text
  | .lock => renderLock opcodes
  | .md => renderDoc opcodes

end Table

def Writes (t : Table) (args : List Text) : Prop :=
  ∃ rest, args = t.name :: writeFlag :: rest

def Checks (t : Table) (args : List Text) : Prop :=
  ∃ rest, args = t.name :: rest ∧ parseLockMode rest = .ok .check

theorem parseLockMode_write_iff (args : List Text) :
    parseLockMode args = .ok .write ↔ ∃ rest, args = writeFlag :: rest := by
  have hne : writeFlag ≠ checkFlag := by decide
  cases args with
  | nil => simp [parseLockMode]
  | cons flag rest =>
    rw [parseLockMode, List.head?_cons]
    by_cases hc : flag = checkFlag
    · simp [hc, Ne.symm hne]
    · by_cases hw : flag = writeFlag
      · simp [hw, hne]
      · simp [hc, hw]

section
variable {σ : Type} (fs : FileSystem σ) (opcodes : List OpcodeEntry)

def Current (t : Table) (s : σ) : Prop :=
  fs.readToString s t.path = .ok (t.text opcodes)

theorem tableCommand_check (name : Text) (path : Path) (rendered : Text) (count : Nat)
    {args : List Text} (h : parseLockMode args = .ok .check) (s : σ) : ∃ o,
      tableCommand fs name path rendered count args s = (o, s) ∧ o.code ≠ .usage ∧
        (o.code = .success ↔ fs.readToString s path = .ok rendered) := by
  have hcheck := checkText_upToDate_iff (fs.readToString s path) rendered
  rw [tableCommand, h]
  cases hc : checkText (fs.readToString s path) rendered with
  | upToDate =>
    rw [hc] at hcheck
    exact ⟨_, rfl, by simp, by simpa [LockStatus.isUpToDate] using hcheck⟩
  | stale onDisk expected =>
    rw [hc] at hcheck
    exact ⟨_, rfl, by simp, by simpa [LockStatus.isUpToDate] using hcheck⟩
  | unreadable error =>
    rw [hc] at hcheck
    exact ⟨_, rfl, by simp, by simpa [LockStatus.isUpToDate] using hcheck⟩

theorem tableCommand_write (name : Text) (path : Path) (rendered : Text) (count : Nat)
    {args : List Text} (h : parseLockMode args = .ok .write) (s : σ) : ∃ o,
      tableCommand fs name path rendered count args s = (o, (fs.write s path rendered).2) ∧
        o.code ≠ .usage ∧ (o.code = .success ↔ (fs.write s path rendered).1 = .ok ()) := by
  rw [tableCommand, h]
  rcases fs.write s path rendered with ⟨r, s'⟩
  cases r with
  | ok u => exact ⟨_, rfl, by simp, by simp⟩
  | error e => exact ⟨_, rfl, by simp, by simp⟩

theorem tableCommand_usage (name : Text) (path : Path) (rendered : Text) (count : Nat)
    {args : List Text} {e : Text} (h : parseLockMode args = .error e) (s : σ) : ∃ o,
      tableCommand fs name path rendered count args s = (o, s) ∧ o.code = .usage := by
  rw [tableCommand, h]
  exact ⟨_, rfl, rfl⟩

theorem run_table (t : Table) (rest : List Text) (s : σ) : ∃ count,
    run fs opcodes (t.name :: rest) s =
      some (tableCommand fs t.name t.path (t.text opcodes) count rest s) := by
  cases t <;> exact ⟨_, rfl⟩

theorem verify_spec (s : σ) : ∃ o, verify fs opcodes s = some o ∧ o.code ≠ .usage ∧
    (o.code = .success ↔ DocsClean (fs.present s) docsDir (docsListing fs s docsDir) ∧
      Current fs opcodes .lock s) := by
  obtain ⟨total, out, hrun, hlinted⟩ := checkXrefs_spec (fs.present s) docsDir
    (docsListing fs s docsDir)
  have hlock := checkText_upToDate_iff (fs.readToString s opcodesLockPath) (renderLock opcodes)
  refine ⟨_, by rw [verify, hrun]; rfl, ?_, ?_⟩
  · simp only [VerifyOutcome.exitCode]
    split <;> simp
  · have hcode (x : VerifyOutcome) :
        x.exitCode = .success ↔ x.xrefIssues = 0 ∧ x.lockUpToDate = true := by
      rw [VerifyOutcome.exitCode, VerifyOutcome.passed]
      by_cases h : x.xrefIssues = 0 ∧ x.lockUpToDate = true
      · simp [h]
      · simp [h]
    rw [hcode, hlinted.clean_iff]
    exact and_congr_right fun _ => hlock

theorem exitCode_success_iff (problems : Nat) : exitCode problems = .success ↔ problems = 0 := by
  rw [exitCode]
  split <;> simp [*]

theorem exitCode_ne_usage (problems : Nat) : exitCode problems ≠ .usage := by
  rw [exitCode]
  split <;> simp

theorem runCheckXrefs_spec (s : σ) : ∃ o, runCheckXrefs fs s = some o ∧ o.code ≠ .usage ∧
    (o.code = .success ↔ DocsClean (fs.present s) docsDir (docsListing fs s docsDir)) := by
  obtain ⟨total, out, hrun, hlinted⟩ := checkXrefs_spec (fs.present s) docsDir
    (docsListing fs s docsDir)
  refine ⟨_, by rw [runCheckXrefs, hrun]; rfl, exitCode_ne_usage total, ?_⟩
  rw [exitCode_success_iff, hlinted.clean_iff]

theorem commandOf_table {name : Text} {c : Command} (h : commandOf name = some c) :
    (c = .opcodesLock → name = lockName) ∧ (c = .opcodesMd → name = mdName) := by
  obtain ⟨p, hp, rfl⟩ := Option.map_eq_some_iff.mp h
  have hname := List.find?_some hp
  rw [decide_eq_true_eq] at hname
  have hall : ∀ q ∈ commandNames, (q.2 = .opcodesLock → q.1 = lockName) ∧
      (q.2 = .opcodesMd → q.1 = mdName) := by
    simp only [commandNames, List.forall_mem_cons, reduceCtorEq, false_implies,
      and_self, List.not_mem_nil, implies_true]
  rw [← hname]
  exact hall p (List.mem_of_find?_eq_some hp)

theorem commandOf_name (t : Table) : commandOf t.name ≠ none := by
  cases t <;> decide

theorem run_cases (args : List Text) (s : σ) : ∃ o s', run fs opcodes args s = some (o, s') ∧
    ((∃ t rest count, args = Table.name t :: rest ∧
        tableCommand fs t.name t.path (t.text opcodes) count rest s = (o, s')) ∨
      ((∀ t rest, args ≠ Table.name t :: rest) ∧ s' = s ∧
        (o.code = .usage ↔ commandOf (args.headD "help".toList) = none))) := by
  by_cases htable : ∃ t rest, args = Table.name t :: rest
  · obtain ⟨t, rest, rfl⟩ := htable
    obtain ⟨count, hrun⟩ := run_table fs opcodes t rest s
    rcases hout : tableCommand fs t.name t.path (t.text opcodes) count rest s with ⟨o, s'⟩
    rw [hout] at hrun
    exact ⟨o, s', hrun, .inl ⟨t, rest, count, rfl, hout⟩⟩
  · have hnone : ∀ t rest, args ≠ Table.name t :: rest := fun t rest he => htable ⟨t, rest, he⟩
    have hname (t : Table) : args.headD "help".toList ≠ t.name := by
      cases args with
      | nil => cases t <;> decide
      | cons a rest => exact fun he => hnone t rest (by rw [← he]; rfl)
    -- no table command: the file system is only read
    suffices h : ∃ o, run fs opcodes args s = some (o, s) ∧
        (o.code = .usage ↔ commandOf (args.headD "help".toList) = none) by
      obtain ⟨o, h, hcode⟩ := h
      exact ⟨o, s, h, .inr ⟨hnone, rfl, hcode⟩⟩
    rw [run]
    cases hc : commandOf (args.headD "help".toList) with
    | none => exact ⟨_, rfl, by simp⟩
    | some c =>
      obtain ⟨hlock, hmd⟩ := commandOf_table hc
      cases c with
      | opcodesLock => exact absurd (hlock rfl) (hname .lock)
      | opcodesMd => exact absurd (hmd rfl) (hname .md)
      | verify =>
        obtain ⟨o, ho, hcode, -⟩ := verify_spec fs opcodes s
        exact ⟨o, by simp only [ho]; rfl, by simp [hcode]⟩
      | checkXrefs =>
        obtain ⟨o, ho, hcode, -⟩ := runCheckXrefs_spec fs s
        exact ⟨o, by simp only [ho]; rfl, by simp [hcode]⟩
      | docIndex => exact ⟨_, rfl, by simp [runDocIndex, exitCode_ne_usage]⟩
      | genOpcodes | coverage | stats | apis | summary | help => exact ⟨_, rfl, by simp⟩

theorem run_check {t : Table} {args : List Text} (h : Checks t args) (s : σ) : ∃ o,
    run fs opcodes args s = some (o, s) ∧ (o.code = .success ↔ Current fs opcodes t s) := by
  obtain ⟨rest, rfl, hmode⟩ := h
  obtain ⟨count, hrun⟩ := run_table fs opcodes t rest s
  obtain ⟨o, ho, -, hcode⟩ := tableCommand_check fs t.name t.path (t.text opcodes) count hmode s
  exact ⟨o, by rw [hrun, ho], hcode⟩

theorem run_checkXrefs (rest : List Text) (s : σ) : ∃ o,
    run fs opcodes ("check-xrefs".toList :: rest) s = some (o, s) ∧
      (o.code = .success ↔ DocsClean (fs.present s) docsDir (docsListing fs s docsDir)) := by
  have hname : commandOf "check-xrefs".toList = some .checkXrefs := rfl
  obtain ⟨o, ho, -, hcode⟩ := runCheckXrefs_spec fs s
  exact ⟨o, by simp only [run, List.headD_cons, hname, ho]; rfl, hcode⟩

theorem run_verify (rest : List Text) (s : σ) : ∃ o,
    run fs opcodes ("verify".toList :: rest) s = some (o, s) ∧
      (o.code = .success ↔ DocsClean (fs.present s) docsDir (docsListing fs s docsDir) ∧
        Current fs opcodes .lock s) := by
  have hname : commandOf "verify".toList = some .verify := rfl
  obtain ⟨o, ho, -, hcode⟩ := verify_spec fs opcodes s
  exact ⟨o, by simp only [run, List.headD_cons, hname, ho]; rfl, hcode⟩

theorem tableCommand_cases {t : Table} {rest : List Text} {count : Nat} {s s' : σ} {o : Outcome}
    (h : tableCommand fs t.name t.path (t.text opcodes) count rest s = (o, s')) :
    (s' = s ∧ (o.code = .usage ↔ ∃ e, parseLockMode rest = .error e) ∧
        parseLockMode rest ≠ .ok .write) ∨
      (s' = (fs.write s t.path (t.text opcodes)).2 ∧ o.code ≠ .usage ∧
        parseLockMode rest = .ok .write ∧
        (o.code = .success ↔ (fs.write s t.path (t.text opcodes)).1 = .ok ())) := by
  cases hmode : parseLockMode rest with
  | error e =>
    obtain ⟨o', ho, hcode⟩ := tableCommand_usage fs t.name t.path (t.text opcodes) count hmode s
    rw [h, Prod.mk.injEq] at ho
    exact .inl ⟨ho.2, by simp [ho.1, hcode], by simp⟩
  | ok mode =>
    cases mode with
    | check =>
      obtain ⟨o', ho, hcode, -⟩ :=
        tableCommand_check fs t.name t.path (t.text opcodes) count hmode s
      rw [h, Prod.mk.injEq] at ho
      exact .inl ⟨ho.2, by simp [ho.1, hcode], by simp⟩
    | write =>
      obtain ⟨o', ho, hcode⟩ := tableCommand_write fs t.name t.path (t.text opcodes) count hmode s
      rw [h, Prod.mk.injEq] at ho
      rw [← ho.1] at hcode
      exact .inr ⟨ho.2, hcode.1, rfl, hcode.2⟩

/-- What the commands do in a state of the disk. -/
structure Gates (s : σ) : Prop where
  /-- The check of a table passes exactly on the text rendered from it, -/
  tables : ∀ t args, Checks t args → ∃ o, run fs opcodes args s = some (o, s) ∧
    (o.code = .success ↔ Current fs opcodes t s)
  /-- that of the documents exactly when nothing is wrong with them, -/
  xrefs : ∀ rest, ∃ o, run fs opcodes ("check-xrefs".toList :: rest) s = some (o, s) ∧
    (o.code = .success ↔ DocsClean (fs.present s) docsDir (docsListing fs s docsDir))
  /-- that of the index exactly when it is complete, -/
  index : ∀ rest, ∃ o, run fs opcodes ("doc-index".toList :: rest) s = some (o, s) ∧
    (o.code = .success ↔ IndexComplete (fs.readDir s designDir)
      (fs.readToString s (designDir ++ [readmeName])))
  /-- and the one for all exactly when the first two would. -/
  verify : ∀ rest, ∃ o, run fs opcodes ("verify".toList :: rest) s = some (o, s) ∧
    (o.code = .success ↔ DocsClean (fs.present s) docsDir (docsListing fs s docsDir) ∧
      Current fs opcodes .lock s)
  /-- A command that is not known or a flag that is not is a usage error and nothing else is, -/
  usage : ∀ args, ∃ o s', run fs opcodes args s = some (o, s') ∧ (o.code = .usage ↔
    commandOf (args.headD "help".toList) = none ∨
      ∃ t rest e, args = Table.name t :: rest ∧ parseLockMode rest = .error e)
  /-- and what does not write a table leaves the disk alone. -/
  disk : ∀ args, (∀ t, ¬ Writes t args) → ∃ o, run fs opcodes args s = some (o, s)

theorem gates_exact (s : σ) : Gates fs opcodes s where
  tables t args hargs := run_check fs opcodes hargs s
  xrefs rest := run_checkXrefs fs opcodes rest s
  index rest := by
    refine ⟨runDocIndex fs s, rfl, ?_⟩
    rw [← checkDocIndex_eq_zero_iff designDir]
    exact exitCode_success_iff _
  verify rest := run_verify fs opcodes rest s
  usage args := by
    obtain ⟨o, s', hrun, h⟩ := run_cases fs opcodes args s
    refine ⟨o, s', hrun, ?_⟩
    rcases h with ⟨t, rest, count, rfl, hout⟩ | ⟨hnone, -, hcode⟩
    · have honly : (∃ t' rest' e, t.name :: rest = Table.name t' :: rest' ∧
          parseLockMode rest' = .error e) ↔ ∃ e, parseLockMode rest = .error e := by
        constructor
        · rintro ⟨t', rest', e, he, herror⟩
          rw [List.cons.injEq] at he
          exact ⟨e, he.2 ▸ herror⟩
        · rintro ⟨e, herror⟩
          exact ⟨t, rest, e, rfl, herror⟩
      rw [List.headD_cons, or_iff_right (commandOf_name t), honly]
      rcases tableCommand_cases fs opcodes hout with ⟨-, hcode, -⟩ | ⟨-, hcode, hmode, -⟩
      · exact hcode
      · simp [hcode, hmode]
    · rw [hcode]
      refine ⟨.inl, fun h => h.resolve_right ?_⟩
      rintro ⟨t, rest, e, he, -⟩
      exact hnone t rest he
  disk args hargs := by
    obtain ⟨o, s', hrun, h⟩ := run_cases fs opcodes args s
    refine ⟨o, ?_⟩
    rcases h with ⟨t, rest, count, rfl, hout⟩ | ⟨-, rfl, -⟩
    · rcases tableCommand_cases fs opcodes hout with ⟨rfl, -⟩ | ⟨-, -, hmode, -⟩
      · exact hrun
      · obtain ⟨rest', rfl⟩ := (parseLockMode_write_iff rest).mp hmode
        exact absurd ⟨rest', rfl⟩ (hargs t)
    · exact hrun

/-- What is relied on of a disk: a text that was written is read back, and writing one of the
two tables does not touch the other. -/
structure Writing : Prop where
  readsBack : ∀ (t : Table) s text s', fs.write s t.path text = (.ok (), s') →
    fs.readToString s' t.path = .ok text
  apart : ∀ (t t' : Table) s text, t' ≠ t →
    fs.readToString (fs.write s t.path text).2 t'.path = fs.readToString s t'.path

theorem current_write (hfs : Writing fs) {t : Table} {s : σ}
    (h : (fs.write s t.path (t.text opcodes)).1 = .ok ()) :
    Current fs opcodes t (fs.write s t.path (t.text opcodes)).2 :=
  hfs.readsBack t s (t.text opcodes) _ (Prod.ext h rfl)

theorem written_current (hfs : Writing fs) {t : Table} {args : List Text} {s s' : σ} {o : Outcome}
    (hw : Writes t args) (hrun : run fs opcodes args s = some (o, s')) (hok : o.code = .success) :
    Current fs opcodes t s' := by
  obtain ⟨rest, rfl⟩ := hw
  obtain ⟨count, htable⟩ := run_table fs opcodes t (writeFlag :: rest) s
  rw [htable, Option.some.injEq] at hrun
  rcases tableCommand_cases fs opcodes hrun with ⟨-, -, hmode⟩ | ⟨rfl, -, -, hcode⟩
  · exact absurd ((parseLockMode_write_iff _).mpr ⟨rest, rfl⟩) hmode
  · exact current_write fs opcodes hfs (hcode.mp hok)

/-- It keeps it whatever is run next, unless writing it again fails. -/
theorem current_step (hfs : Writing fs) {t : Table} {args : List Text} {s s' : σ} {o : Outcome}
    (h : Current fs opcodes t s) (hrun : run fs opcodes args s = some (o, s'))
    (hok : Writes t args → o.code = .success) : Current fs opcodes t s' := by
  obtain ⟨o', s'', hrun', hcases⟩ := run_cases fs opcodes args s
  rw [hrun, Option.some.injEq, Prod.mk.injEq] at hrun'
  obtain ⟨rfl, rfl⟩ := hrun'
  rcases hcases with ⟨t', rest, count, rfl, hout⟩ | ⟨-, rfl, -⟩
  · rcases tableCommand_cases fs opcodes hout with ⟨rfl, -⟩ | ⟨rfl, -, hmode, hcode⟩
    · exact h
    · by_cases ht : t = t'
      · subst ht
        obtain ⟨rest', rfl⟩ := (parseLockMode_write_iff rest).mp hmode
        exact current_write fs opcodes hfs (hcode.mp (hok ⟨rest', rfl⟩))
      · rw [Current, hfs.apart t' t s _ ht]
        exact h
  · exact h

theorem current_runAll (hfs : Writing fs) {t : Table} {cmds : List (List Text)} {s s' : σ}
    {os : List Outcome} (h : Current fs opcodes t s)
    (hrun : runAll fs opcodes cmds s = some (os, s'))
    (hok : ∀ p ∈ cmds.zip os, Writes t p.1 → p.2.code = .success) : Current fs opcodes t s' := by
  induction cmds generalizing s os with
  | nil =>
    cases hrun
    exact h
  | cons args cmds ih =>
    obtain ⟨o, s₁, hone, -⟩ := run_cases fs opcodes args s
    have hcons : runAll fs opcodes (args :: cmds) s =
        (runAll fs opcodes cmds s₁).map fun r => (o :: r.1, r.2) := by
      simp only [runAll, hone, Option.bind_eq_bind, Option.bind_some]
      cases runAll fs opcodes cmds s₁ <;> rfl
    rw [hcons] at hrun
    obtain ⟨r, hrest, hr⟩ := Option.map_eq_some_iff.mp hrun
    cases hr
    have hnow := current_step fs opcodes hfs h hone (hok (args, o) List.mem_cons_self)
    exact ih hnow hrest fun p hp => hok p (List.mem_cons_of_mem _ hp)

/-- After a table was written its check passes, whatever was run in between short of a failed
write of it; for the lock, the check of everything then comes down to that of the documents. -/
theorem written_table_stays (hfs : Writing fs) {t : Table} {args : List Text} {s s₁ s₂ : σ}
    {o : Outcome} {cmds : List (List Text)} {os : List Outcome} (hw : Writes t args)
    (hrun : run fs opcodes args s = some (o, s₁)) (hok : o.code = .success)
    (hall : runAll fs opcodes cmds s₁ = some (os, s₂))
    (hlater : ∀ p ∈ cmds.zip os, Writes t p.1 → p.2.code = .success) :
    (∀ args', Checks t args' → ∃ o', run fs opcodes args' s₂ = some (o', s₂) ∧
      o'.code = .success) ∧
    (t = .lock → ∀ rest, ∃ o' o'', run fs opcodes ("verify".toList :: rest) s₂ = some (o', s₂) ∧
      run fs opcodes ("check-xrefs".toList :: rest) s₂ = some (o'', s₂) ∧
      (o'.code = .success ↔ o''.code = .success)) := by
  have hcurrent := current_runAll fs opcodes hfs (written_current fs opcodes hfs hw hrun hok)
    hall hlater
  constructor
  · intro args' hargs
    obtain ⟨o', ho, hcode⟩ := run_check fs opcodes hargs s₂
    exact ⟨o', ho, hcode.mpr hcurrent⟩
  · rintro rfl rest
    obtain ⟨o', ho, hcode⟩ := run_verify fs opcodes rest s₂
    obtain ⟨o'', ho', hcode'⟩ := run_checkXrefs fs opcodes rest s₂
    exact ⟨o', o'', ho, ho', by rw [hcode, hcode', and_iff_left hcurrent]⟩

end

def memory : FileSystem (Path → Except Text Text) where
  readToString s path := s path
  write s path text := (.ok (), Function.update s path (.ok text))
  readDir _ _ := .ok .done
  present _ _ := false

theorem memory_writing : Writing memory where
  readsBack t s text s' h := by
    cases h
    exact Function.update_self ..
  apart t t' s text h := by
    refine Function.update_of_ne ?_ _ _
    cases t <;> cases t' <;> first | exact absurd rfl h | decide

def bothWritten : Path → Except Text Text :=
  Function.update (Function.update (fun _ => .error []) opcodesLockPath (.ok (renderLock [])))
    opcodesMdPath (.ok (renderDoc []))

theorem written_table_stays_memory : ∃ o,
    run memory [] [lockName] bothWritten = some (o, bothWritten) ∧ o.code = .success := by
  have hwrites : Writes .lock [lockName, writeFlag] := ⟨[], rfl⟩
  have hstays := written_table_stays memory [] memory_writing hwrites
    (rfl : run memory [] [lockName, writeFlag] (fun _ => .error []) = some (_, _)) rfl
    (rfl : runAll memory [] [[mdName, writeFlag]] _ = some (_, bothWritten))
    fun p hp _ => by
      cases List.mem_singleton.mp hp
      rfl
  exact hstays.1 [lockName] ⟨[], rfl, rfl⟩

end Graftx.Xtask
