import HandleLedger.Kind
import HandleLedger.Table

/-!
# Identities of contexts

A context belongs to an instance or to a device (`Scope`). Its identity is its scope together with
its dispatch key, the word that all dispatchable handles of one instance or device share.
Identities stand in order: instances first, each scope by key.
-/

set_option autoImplicit false

namespace HandleLedger

/-- The word shared by the dispatchable handles of one instance or device. -/
abbrev DispatchKey := UInt64

/-- What a context belongs to. -/
inductive Scope
  | instanceLevel
  | deviceLevel
  deriving DecidableEq, Repr

namespace Scope

/-- The name of a scope. -/
def name : Scope → String
  | .instanceLevel => "instance"
  | .deviceLevel => "device"

/-- The scope of a name. -/
def ofName? (text : String) : Option Scope :=
  [instanceLevel, deviceLevel].find? (·.name == text)

/-- The place of a scope. -/
def index : Scope → Nat
  | .instanceLevel => 0
  | .deviceLevel => 1

/-- The kinds that the application destroys before it destroys the owner of the scope. -/
def ownedKinds : Scope → List Kind
  | .instanceLevel => Kind.instanceChildren
  | .deviceLevel => Kind.deviceChildren

end Scope

/-- The identity of a context. -/
structure ContextId where
  scope : Scope
  key : DispatchKey
  deriving DecidableEq, Repr

namespace ContextId

/-- The context of the instance with this key. -/
def ofInstance (key : DispatchKey) : ContextId := ⟨.instanceLevel, key⟩

/-- The context of the device with this key. -/
def ofDevice (key : DispatchKey) : ContextId := ⟨.deviceLevel, key⟩

/-- The identity as it stands in the log. -/
def described (id : ContextId) : String :=
  let key := toString id.key.toNat
  match id.scope with
  | .instanceLevel => s!"Instance(DispatchKey({key}))"
  | .deviceLevel => s!"Device(DispatchKey({key}))"

end ContextId

instance : Ranked ContextId where
  rank id := id.scope.index * UInt64.size + id.key.toNat
  eq_of_rank_eq := by
    rintro ⟨s, k⟩ ⟨s', k'⟩ e
    have lt := k.toNat_lt_size
    have lt' := k'.toNat_lt_size
    simp only [UInt64.size] at e lt lt'
    have hk : k.toNat = k'.toNat := by omega
    have hs : s.index = s'.index := by omega
    have hss : s = s' := by
      cases s <;> cases s' <;> first | rfl | exact absurd hs (by decide)
    rw [hss, UInt64.toNat_inj.mp hk]

end HandleLedger
