import Graftx.Obs.Registry
import Graftx.Lib.Entries
import Graftx.Lib.Numerals
import Graftx.Lib.StableSort
import Mathlib.Data.String.Basic

/-! Reading a registry. A hash map is read out in some order of its entries, `rows`; every
reading is a function of that order. Names are compared by their characters, which is how their
bytes compare. -/
namespace Graftx.Obs
open Lib.Numerals Lib.StableSort

/-- A call on a registry, made under its lock. -/
inductive ObsCall where
  | record (api : String) (bytesOut bytesIn : UInt64)
  | recordLatency (api : String) (d : Duration)

namespace ObsRegistry

def call (r : ObsRegistry) : ObsCall → ObsRegistry
  | .record api bytesOut bytesIn => r.record api bytesOut bytesIn
  | .recordLatency api d => r.recordLatency api d

def run (calls : List ObsCall) : ObsRegistry := calls.foldl call new

abbrev Rows := List (String × CallStats)

def snapshotSorted (rows : Rows) : Rows := sortByKey Prod.fst rows

def total (rows : Rows) : CallStats :=
  (rows.map Prod.snd).foldl (fun total stats => total.merge stats) {}

def reportHead : List Char :=
  "| API | Calls | Bytes Out | Bytes In |\n| --- | --- | --- | --- |\n".toList

def reportRow (api : List Char) (stats : CallStats) : List Char :=
  "| ".toList ++ api ++ " | ".toList ++ decimal stats.calls.toNat ++ " | ".toList ++
    decimal stats.bytesOut.toNat ++ " | ".toList ++ decimal stats.bytesIn.toNat ++ " |\n".toList

def report (rows : Rows) : List Char :=
  let rows := snapshotSorted rows
  let total : CallStats := rows.foldl (fun total row => total.merge row.2) {}
  reportHead ++ (rows.flatMap fun row => reportRow row.1.toList row.2) ++
    reportRow "TOTAL".toList total

/-- Only the quote and the backslash are escaped. -/
def pushJsonEscaped (s : List Char) : List Char :=
  s.flatMap fun ch =>
    match ch with
    | '"' => ['\\', '"']
    | '\\' => ['\\', '\\']
    | other => [other]

def keyCalls : List Char := "\x7b\"calls\":".toList

def keyBytesOut : List Char := ",\"bytes_out\":".toList

def keyBytesIn : List Char := ",\"bytes_in\":".toList

def jsonStats (stats : CallStats) : List Char :=
  keyCalls ++ decimal stats.calls.toNat ++ keyBytesOut ++ decimal stats.bytesOut.toNat ++
    keyBytesIn ++ decimal stats.bytesIn.toNat ++ ['\x7d']

def jsonRow (row : String × CallStats) : List Char :=
  '"' :: (pushJsonEscaped row.1.toList ++ '"' :: ':' :: jsonStats row.2)

def keyApis : List Char := "\x7b\"apis\":\x7b".toList

def keyTotal : List Char := "\x7d,\"total\":".toList

def toJson (rows : Rows) : List Char :=
  let rows := snapshotSorted rows
  let total : CallStats := rows.foldl (fun total row => total.merge row.2) {}
  keyApis ++
    (rows.zipIdx.flatMap fun (row, i) => (if 0 < i then [','] else []) ++ jsonRow row) ++
    keyTotal ++ jsonStats total ++ ['\x7d']

end ObsRegistry
end Graftx.Obs
