import HandleLedger.Action

/-!
# Passages

A passage is what surrounds one intercepted call: the check that is made before it, what is torn
down once it is clear that the call will run, and what goes into the books after it. The call
itself is known only by its outcome. `Passage.run` puts the parts in order; a call that is to be
skipped does not run, and then nothing changes.
-/

set_option autoImplicit false

namespace HandleLedger

/-- The number by which a call says why it failed. -/
abbrev ResultCode := Int32

/-- The result of a call that validation kept from running. -/
def skippedCode : ResultCode := -1000011001

/-- What kind of outcome a call has. -/
inductive Shape
  | handle
  | handles
  | status
  /-- The call gives nothing back. -/
  | nothing
  /-- The call gives a queue back and cannot fail. -/
  | queue
  deriving DecidableEq

namespace Shape

/-- The outcomes of a call. -/
abbrev Outcome : Shape → Type
  | .handle => Except ResultCode Handle
  | .handles => Except ResultCode (List Handle)
  | .status => Except ResultCode Unit
  | .nothing => Unit
  | .queue => Handle

/-- The result of a skipped call. A call for a queue is never skipped. -/
def skipped : (s : Shape) → s.Outcome
  | .handle => .error skippedCode
  | .handles => .error skippedCode
  | .status => .error skippedCode
  | .nothing => ()
  | .queue => nullHandle

end Shape

/-- What surrounds an intercepted call. -/
structure Passage (s : Shape) where
  check : Check
  /-- What happens once the check has let the call through, before it runs. -/
  prepare : Action Unit
  /-- What happens after the call. -/
  record : s.Outcome → Action Unit

namespace Passage

variable {s : Shape}

/-- A passage that only checks. -/
def checking (check : Check) : Passage s := ⟨check, pure (), fun _ => pure ()⟩

/-- A passage that records the handle that a call has given back. -/
def creating (check : Check) (record : Handle → Action Unit) : Passage .handle where
  check := check
  prepare := pure ()
  record
    | .error _ => pure ()
    | .ok h => record h

/-- A passage that records the handles that a call has given back. -/
def listing (check : Check) (record : List Handle → Action Unit) : Passage .handles where
  check := check
  prepare := pure ()
  record
    | .error _ => pure ()
    | .ok hs => record hs

/-- Make a call with this outcome. -/
def run (p : Passage s) (outcome : s.Outcome) : Action s.Outcome := fun l =>
  if p.check.skip then ⟨s.skipped, l, p.check.trace⟩
  else
    let prepared := p.prepare l
    let recorded := p.record outcome prepared.ledger
    ⟨outcome, recorded.ledger,
      p.check.trace ++ prepared.trace ++ .call prepared.ledger :: recorded.trace⟩

end Passage

end HandleLedger
