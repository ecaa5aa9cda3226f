import ImmichDoctor.Library.JsonValue
/-!
# Checks and reports

The result of a check, and what the results of a report come to.
-/

namespace ImmichDoctor.Core

open ImmichDoctor.Library

inductive CheckStatus
  | pass
  | fail
  | warn
  | skip
  deriving DecidableEq

/-- The details are those that the checks below give. -/
structure CheckResult where
  name : PyStr
  status : CheckStatus
  message : PyStr
  details : List (PyStr × JsonValue) := []

structure ValidationReport where
  summary : PyStr
  checks : List CheckResult

/-- `overall_status`, of the statuses that a report has. -/
def CheckStatus.overall (statuses : List CheckStatus) : CheckStatus :=
  if .fail ∈ statuses then .fail
  else if .warn ∈ statuses then .warn
  else if .pass ∈ statuses then .pass
  else .skip

theorem CheckStatus.overall_eq_fail {statuses : List CheckStatus} :
    overall statuses = .fail ↔ .fail ∈ statuses := by
  unfold overall
  split_ifs with hfail
  · exact iff_of_true rfl hfail
  · exact iff_of_false (by simp) hfail
  · exact iff_of_false (by simp) hfail
  · exact iff_of_false (by simp) hfail

/-- `overall_status` of a report without sections. -/
def ValidationReport.overallStatus (report : ValidationReport) : CheckStatus :=
  .overall (report.checks.map (·.status))

/-- `exit_code`. -/
def ValidationReport.exitCode (report : ValidationReport) : Nat :=
  if report.overallStatus = .fail then 1 else 0

theorem ValidationReport.overallStatus_eq_fail {report : ValidationReport} :
    report.overallStatus = .fail ↔ ∃ check ∈ report.checks, check.status = .fail := by
  rw [overallStatus, CheckStatus.overall_eq_fail, List.mem_map]

end ImmichDoctor.Core
