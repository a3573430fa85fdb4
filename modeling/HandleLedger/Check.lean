import HandleLedger.Trace

/-!
# Checks

A check reads the books and changes nothing. It reports what it finds and asks for the call to be
skipped if a sink asked for that. Checks that are made together (`c ++ d`) are all made, whatever
the first ones find; `Check.andThen` stops at the first that asks for a skip.
-/

set_option autoImplicit false

namespace HandleLedger

/-- The result of a check. -/
structure Check where
  /-- Whether the call is to be skipped. -/
  skip : Bool
  trace : Trace

namespace Check

/-- The check that finds nothing. -/
def pass : Check := ⟨false, []⟩

instance : Inhabited Check := ⟨pass⟩

instance : Append Check where
  append c d := ⟨c.skip || d.skip, c.trace ++ d.trace⟩

/-- The checks of a list, all made in order. -/
def all (cs : List Check) : Check := cs.foldr (· ++ ·) pass

/-- The second check is made only if the first does not ask for a skip. -/
def andThen (c d : Check) : Check := if c.skip then c else c ++ d

/-- A check whose verdict is not heeded. -/
def advisory (c : Check) : Check := { c with skip := false }

/-- Hand a report to a sink, which decides. -/
def ask (sink : Sink) (r : Report) : Check := ⟨sink.verdict r, [.report sink r]⟩

/-- Write to the log and pass. -/
def note (entry : Log) : Check := ⟨false, [.log entry]⟩

@[simp] theorem skip_pass : pass.skip = false := rfl

@[simp] theorem trace_pass : pass.trace = [] := rfl

@[simp] theorem skip_append (c d : Check) : (c ++ d).skip = (c.skip || d.skip) := rfl

@[simp] theorem trace_append (c d : Check) : (c ++ d).trace = c.trace ++ d.trace := rfl

@[simp] theorem all_nil : all [] = pass := rfl

@[simp] theorem all_cons (c : Check) (cs : List Check) : all (c :: cs) = c ++ all cs := rfl

end Check

/-- What a search for survivors found. -/
structure Survey where
  found : Bool
  trace : Trace

namespace Ledger

/-- Check something about a context. One that is not known passes with a warning in the log. -/
def within (l : Ledger) (id : ContextId) (check : Context → Check) : Check :=
  match l.context? id with
  | none => Check.note (.unknownContext id)
  | some c => check c

/-- Survey a context. In one that is not known nothing is found, with a warning in the log. -/
def surveyed (l : Ledger) (id : ContextId) (survey : Context → Survey) : Survey :=
  match l.context? id with
  | none => ⟨false, [.log (.unknownContext id)]⟩
  | some c => survey c

end Ledger

end HandleLedger
