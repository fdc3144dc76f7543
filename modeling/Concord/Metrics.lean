/-
  Metrics of runs.

  For each address there are three series: whether the last run failed there,
  how many runs succeeded so far, and how long the last run took.

  * `record`, `recordRun`: what a run leaves behind.
  * `encode`: the exposition text, one family after the other by name, the
    series of a family by address; families without series are left out.
-/
import Concord.Decimal.Measure
import Concord.Run

namespace Concord

/-- The series of all addresses. -/
structure Metrics where
  /-- Whether the last run failed on an address. -/
  failed : Dict Bool
  /-- How many runs succeeded on an address; there is no series before the
      first. -/
  successes : Dict Nat
  /-- The duration of the last run in seconds. -/
  seconds : Dict Measure

namespace Metrics

/-- Metrics before the first run. -/
def empty : Metrics := ⟨Dict.empty, Dict.empty, Dict.empty⟩

/-- Records what came of a run on one address. -/
def record (m : Metrics) (address : String) (success : Bool) (duration : Measure) : Metrics where
  failed := m.failed.insert address (!success)
  successes :=
    if success then m.successes.insert address ((m.successes.get? address).getD 0 + 1)
    else m.successes
  seconds := m.seconds.insert address duration

/-- Records a run on every configured address. -/
def recordRun (m : Metrics) (r : RunReport) : Metrics :=
  r.instances.foldl
    (fun m address => m.record address (!r.invalid.contains address) (.finite r.stamp.duration)) m

/-- The failure of a second set of metrics under the same names. -/
def duplicateRegistration : Error :=
  .metrics "Duplicate metrics collector registration attempted"

/-! ## Exposition -/

/-- The value of the label that names the program. -/
def integration : String := "vault-converge"

/-- A label value with its backslashes, line breaks and quotes escaped. -/
def escapeLabel (s : String) : String :=
  String.ofList (s.toList.flatMap fun c =>
    match c with
    | '\\' => ['\\', '\\']
    | '\n' => ['\\', 'n']
    | '"' => ['\\', '"']
    | c => [c])

/-- One line of a family. -/
def sampleLine (name address value : String) : String :=
  name ++ "\x7baddress=\"" ++ escapeLabel address ++ "\",integration=\"" ++ integration ++ "\"\x7d " ++
    value ++ "\n"

/-- The value of the series that tells whether the last run failed. -/
def statusText (failed : Bool) : String := if failed then "1" else "0"

/-- A family with its head; nothing if it has no series. -/
def family (name help type : String) (samples : List (String × String)) : String :=
  if samples.isEmpty then ""
  else
    s!"# HELP {name} {help}\n# TYPE {name} {type}\n" ++
      String.join (samples.map fun (address, value) => sampleLine name address value)

/-- The exposition text. -/
def encode (m : Metrics) : String :=
  family "vault_converge_execution_counter"
      "Incremented on each successful reconcile of an instance." "counter"
      (m.successes.map toString).entries ++
    family "vault_converge_last_run_seconds"
      "Duration of the last run over all instances, in seconds." "gauge"
      (m.seconds.map Measure.text).entries ++
    family "vault_converge_last_run_status"
      "Whether the last reconcile of an instance succeeded. 0 = success, 1 = failure." "gauge"
      (m.failed.map statusText).entries

end Metrics

end Concord
