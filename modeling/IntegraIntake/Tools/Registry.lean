import IntegraIntake.Library.Table
import IntegraIntake.Tools.Models

/-!
# Action registries

The services that review, decide and execute an approval each take an
`ActionRegistry` of `app/tools/registry.py`.  Deployed code gives all of them
`BUILTIN_ACTION_REGISTRY`; here a registry is any set of descriptors with
distinct keys, and the built-in one is an instance.
-/

namespace IntegraIntake

open Library

/-- `ActionCapability` of a registry.  `argumentsModel` is what `model_validate`
of its argument model does; the callers drop the validated arguments. -/
structure RegisteredAction where
  key : String
  argumentsModel : List (String × Json) → Except ArgumentError Unit
  commitsSideEffect : Bool
  pendingActionVersion : ℕ
  key_safe : isSafeIdentifier key = true
  version_positive : 1 ≤ pendingActionVersion

/-- `ActionRegistry`. -/
structure ActionRegistry where
  capabilities : List RegisteredAction
  keys_unique : Table.Unique RegisteredAction.key capabilities

namespace ActionRegistry

/-- `keys`. -/
def keys (registry : ActionRegistry) : List String :=
  registry.capabilities.map RegisteredAction.key

/-- `require`; `none` stands for `ActionCapabilityUnavailable`. -/
def require (registry : ActionRegistry) (name : String) : Option RegisteredAction :=
  registry.capabilities.find? fun capability => capability.key == name

end ActionRegistry

/-! ## The built-in registry -/

theorem ActionKey.name_safe (key : ActionKey) : isSafeIdentifier key.name = true := by
  cases key <;> decide +kernel

theorem builtinActionRegistry_version {capability : ActionCapability}
    (h : capability ∈ builtinActionRegistry) : 1 ≤ capability.pendingActionVersion := by
  have hall : ∀ capability ∈ builtinActionRegistry, 1 ≤ capability.pendingActionVersion := by
    decide
  exact hall capability h

theorem requireAction_version {name : String} {capability : ActionCapability}
    (h : requireAction name = some capability) : 1 ≤ capability.pendingActionVersion :=
  builtinActionRegistry_version (List.mem_of_find?_eq_some h)

/-- A capability of the built-in registry as a descriptor. -/
def ActionCapability.registered (capability : ActionCapability)
    (hversion : 1 ≤ capability.pendingActionVersion) : RegisteredAction where
  key := capability.key.name
  argumentsModel := fun arguments =>
    (ToolArgs.modelValidate capability.key arguments).map fun _ => ()
  commitsSideEffect := capability.commitsSideEffect
  pendingActionVersion := capability.pendingActionVersion
  key_safe := capability.key.name_safe
  version_positive := hversion

theorem builtinKeys_unique : Table.Unique RegisteredAction.key
    (builtinActionRegistry.pmap ActionCapability.registered fun _ =>
      builtinActionRegistry_version) := by
  rw [Table.Unique, List.map_pmap]
  decide

/-- `BUILTIN_ACTION_REGISTRY`. -/
def ActionRegistry.builtin : ActionRegistry where
  capabilities := builtinActionRegistry.pmap ActionCapability.registered fun _ =>
    builtinActionRegistry_version
  keys_unique := builtinKeys_unique

theorem ActionRegistry.builtin_require_some {name : String} {capability : ActionCapability}
    (h : requireAction name = some capability) : ActionRegistry.builtin.require name =
      some (capability.registered (requireAction_version h)) := by
  have hname : capability.key.name = name := by simpa using List.find?_some h
  refine ActionRegistry.builtin.keys_unique.find?_eq ?_ ?_ fun other hother => ?_
  · exact List.mem_pmap.2 ⟨capability, List.mem_of_find?_eq_some h, rfl⟩
  · show (capability.key.name == name) = true
    rw [hname, beq_self_eq_true]
  · have hkey : other.key = name := by simpa using hother
    exact hkey.trans hname.symm

theorem ActionRegistry.builtin_require_none {name : String} (h : requireAction name = none) :
    ActionRegistry.builtin.require name = none := by
  rw [ActionRegistry.require, List.find?_eq_none]
  intro registered hregistered
  obtain ⟨capability, hcapability, rfl⟩ := List.mem_pmap.1 hregistered
  exact List.find?_eq_none.1 h capability hcapability

theorem ActionRegistry.builtin_keys : ActionRegistry.builtin.keys = registryKeys := by
  decide

end IntegraIntake
