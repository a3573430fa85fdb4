import HandleLedger.Config
import HandleLedger.Report

/-!
# Sinks

A sink hears the reports of a context and answers each with a verdict: true asks for the call to
be skipped. A sink may have a channel, by which its owner tells its reports from those of others.

A verdict depends on the report alone. A sink of the embedder that answers two equal reports in two
ways, or that turns to the books while it judges, is none of these.
-/

set_option autoImplicit false

namespace HandleLedger

/-- How a sink judges reports. -/
inductive Policy
  /-- Errors ask for the call to be skipped. -/
  | memory
  /-- Reports that the configuration selects are logged. Errors among them ask for the call to be
  skipped if the configuration says so. -/
  | logging (reporting : Reporting)
  /-- The embedder judges. -/
  | custom (judge : Report → Bool)

/-- Where reports go. -/
structure Sink where
  channel : Option Nat
  policy : Policy

namespace Sink

/-- The answer to a report. -/
def verdict (s : Sink) (r : Report) : Bool :=
  match s.policy with
  | .memory => r.severity == .error
  | .logging reporting =>
    reporting.enabled r.severity && r.severity == .error && reporting.skipOnError
  | .custom judge => judge r

/-- Whether a report reaches the log. -/
def logs (s : Sink) (r : Report) : Bool :=
  match s.policy with
  | .logging reporting => reporting.enabled r.severity
  | _ => false

end Sink

/-- What a memory sink has kept. -/
structure Inbox where
  reports : List Report

namespace Inbox

/-- The inbox of a sink that has heard nothing. -/
def empty : Inbox := ⟨[]⟩

/-- Keep further reports. -/
def receive (i : Inbox) (rs : List Report) : Inbox := ⟨i.reports ++ rs⟩

/-- The errors among the reports. -/
def errors (i : Inbox) : List Report := i.reports.filter (·.severity = .error)

/-- The number of reports with a code. -/
def countCode (i : Inbox) (code : Code) : Nat := i.reports.countP (·.code = code)

end Inbox

end HandleLedger
