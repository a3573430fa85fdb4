import HandleLedger.Log
import HandleLedger.Ledger

/-!
# Traces

A trace lists what happened in the course of an operation, in order: reports handed to sinks,
entries written to the log, and the run of an intercepted call together with the books as they
stood at that moment.
-/

set_option autoImplicit false

namespace HandleLedger

/-- Something that happened. -/
inductive Event
  | report (sink : Sink) (r : Report)
  | log (entry : Log)
  | call (seen : Ledger)

namespace Event

/-- What an event leaves in the log. -/
def logged? : Event → Option Log
  | .report sink r => if sink.logs r then some (.diagnostic r) else none
  | .log entry => some entry
  | .call _ => none

/-- The report that an event hands to a sink. -/
def report? : Event → Option Report
  | .report _ r => some r
  | _ => none

/-- The books that a call saw. -/
def seen? : Event → Option Ledger
  | .call seen => some seen
  | _ => none

/-- Whether a sink answered that the call is to be skipped. -/
def refused : Event → Bool
  | .report sink r => sink.verdict r
  | _ => false

end Event

/-- What happened, in order. -/
abbrev Trace := List Event

/-- A report that came in on a channel, with the verdict it got. -/
structure Delivery where
  channel : Nat
  report : Report
  verdict : Bool

/-- The delivery that an event makes, if its sink has a channel. -/
def Event.delivery? : Event → Option Delivery
  | .report sink r => sink.channel.map fun n => ⟨n, r, sink.verdict r⟩
  | _ => none

namespace Trace

/-- The entries that a trace leaves in the log. -/
def logs (t : Trace) : List Log := t.filterMap (·.logged?)

/-- The reports of a trace. -/
def reports (t : Trace) : List Report := t.filterMap (·.report?)

/-- The deliveries of a trace. -/
def deliveries (t : Trace) : List Delivery := t.filterMap (·.delivery?)

/-- The reports that came in on a channel. -/
def received (t : Trace) (channel : Nat) : List Report :=
  (t.deliveries.filter (·.channel = channel)).map (·.report)

/-- The books that each call of a trace saw. -/
def calls (t : Trace) : List Ledger := t.filterMap (·.seen?)

/-- What happened before the first call. -/
def beforeCall (t : Trace) : Trace := t.takeWhile fun e => e.seen?.isNone

end Trace

end HandleLedger
