import CallChain.Json.Writer
import CallChain.Report

/-!
# Reports as JSON

The report, then optionally the time of writing and the figures of the index.
-/

namespace CallChain.Data

/-- What is written besides the report. -/
structure Options where
  pretty : Bool := false
  timestamp : Option String := none
  indexSummary : Value := .null

/-- A report with what is written besides it. -/
def reportValue (options : Options) (r : Report) : Value :=
  let stamped := match options.timestamp with
    | some time => Assoc.put "timestamp" (.text time) r.toEntries
    | none => r.toEntries
  .object (if options.indexSummary.isTruthy then Assoc.put "index" options.indexSummary stamped
    else stamped)

/-- A report as JSON. -/
def render (options : Options) (r : Report) : String :=
  Json.render options.pretty (reportValue options r)

end CallChain.Data
