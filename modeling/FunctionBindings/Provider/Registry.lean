import FunctionBindings.Provider.Artifact

/-!
# The registry of providers

A registry has slots, each of which takes one provider for good: whoever registers first stays. The
host resolves its provider from a slot of a fixed name.
-/

namespace FunctionBindings

/-- The slot from which the host resolves its provider. -/
def metadataProviderSlot : String := "function-metadata-provider"

/-- Providers by slot. -/
structure ProviderRegistry (α : Type) where
  slots : Table String α

namespace ProviderRegistry

variable {α : Type}

/-- The registry without providers. -/
def empty : ProviderRegistry α := ⟨∅⟩

instance : Inhabited (ProviderRegistry α) := ⟨empty⟩

/-- The provider in a slot. -/
def get? (registry : ProviderRegistry α) (slot : String) : Option α := registry.slots.get? slot

/-- True of a slot with a provider. -/
def isRegistered (registry : ProviderRegistry α) (slot : String) : Bool :=
  registry.slots.contains slot

/-- Put a provider into a slot that has none. -/
def register (registry : ProviderRegistry α) (slot : String) (provider : α) :
    Except ProviderError (ProviderRegistry α) :=
  if registry.isRegistered slot then .error (.alreadyRegistered slot)
  else .ok ⟨registry.slots.insert slot provider⟩

/-- A registration is refused exactly when its slot has a provider. -/
theorem register_eq_error_iff {registry : ProviderRegistry α} {slot : String} {provider : α}
    {error : ProviderError} : registry.register slot provider = .error error ↔
      registry.isRegistered slot = true ∧ error = .alreadyRegistered slot := by
  unfold register
  split
  · rename_i hfilled
    exact ⟨fun h ↦ ⟨hfilled, (Except.error.inj h).symm⟩, fun h ↦ h.2 ▸ rfl⟩
  · rename_i hfree
    exact iff_of_false nofun fun h ↦ hfree h.1

/-- A registration fills its slot and leaves every other slot alone. -/
theorem get?_of_register {registry next : ProviderRegistry α} {slot : String} {provider : α}
    (h : registry.register slot provider = .ok next) (other : String) :
    next.get? other = if slot = other then some provider else registry.get? other := by
  unfold register at h
  split at h
  · cases h
  · cases h
    exact Table.get?_insert registry.slots slot other provider

/-- Put a provider into the slot of the host. -/
def configure (registry : ProviderRegistry α) (provider : α) :
    Except ProviderError (ProviderRegistry α) :=
  registry.register metadataProviderSlot provider

/-- The provider in the slot of the host. -/
def metadataProvider (registry : ProviderRegistry α) : Except ProviderError α :=
  match registry.get? metadataProviderSlot with
  | some provider => .ok provider
  | none => .error (.notRegistered metadataProviderSlot)

/-- The slots with providers, in order of their names. -/
def text (registry : ProviderRegistry α) : String :=
  let names := registry.slots.keys.mergeSort fun a b ↦ decide (a ≤ b)
  "ProviderRegistry \x7b slots: [" ++ ", ".intercalate (names.map Text.literal) ++ "] \x7d"

/-- The records that the host gets for a directory, given how providers are asked. -/
def functionMetadata {m : Type → Type} [Monad m]
    (records : α → m (Except ProviderError (List FunctionRecord)))
    (registry : ProviderRegistry α) : m (Except ProviderError (List FunctionRecord)) :=
  match registry.metadataProvider with
  | .ok provider => records provider
  | .error error => return .error error

end ProviderRegistry

end FunctionBindings
