import HandleLedger.Check

/-!
# Actions

An action changes the books, gives a value and leaves a trace. One action after another acts on
the books that the first leaves, and their traces follow each other.
-/

set_option autoImplicit false

namespace HandleLedger

/-- What an action comes to. -/
structure Step (α : Type) where
  value : α
  ledger : Ledger
  trace : Trace

/-- A change of the books. -/
def Action (α : Type) := Ledger → Step α

namespace Action

variable {α β : Type}

instance : Monad Action where
  pure a := fun l => ⟨a, l, []⟩
  bind m f := fun l =>
    let first := m l
    let second := f first.value first.ledger
    ⟨second.value, second.ledger, first.trace ++ second.trace⟩

instance : LawfulMonad Action := by
  refine LawfulMonad.mk' Action ?_ ?_ ?_
  · intro α m
    funext l
    simp [Functor.map, Function.comp]
  · intro α β a f
    rfl
  · intro α β γ m f g
    funext l
    simp [bind]

/-- Change the books without a trace. -/
def modify (f : Ledger → Ledger) : Action Unit := fun l => ⟨(), f l, []⟩

/-- Leave a trace and change nothing. -/
def emit (trace : Trace) : Action Unit := fun l => ⟨(), l, trace⟩

/-- Act on a context. One that is not known gives the fallback, with a warning in the log. -/
def within (id : ContextId) (fallback : α) (act : Context → Action α) : Action α := fun l =>
  match l.context? id with
  | none => ⟨fallback, l, [.log (.unknownContext id)]⟩
  | some c => act c l

/-- Change the registry of a context. -/
def onRegistry (id : ContextId) (f : Registry → Registry) : Action Unit :=
  within id () fun _ => modify (·.modifyRegistry id f)

/-- Act on every member of a list, in order. -/
def each (xs : List α) (act : α → Action Unit) : Action Unit :=
  match xs with
  | [] => pure ()
  | x :: xs => do
    act x
    each xs act

/-- The verdict of a check of the current books. -/
def ofCheck (check : Ledger → Check) : Action Bool := fun l =>
  ⟨(check l).skip, l, (check l).trace⟩

/-- The finding of a survey of the current books. -/
def ofSurvey (survey : Ledger → Survey) : Action Bool := fun l =>
  ⟨(survey l).found, l, (survey l).trace⟩

end Action

end HandleLedger
