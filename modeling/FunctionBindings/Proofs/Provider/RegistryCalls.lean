import FunctionBindings.Provider.Registry
import Mathlib.Data.List.Basic

/-!
# Calls on a registry

A host makes calls on one registry: it registers providers, asks for them, and asks the one in its
own slot for records. What a call is answered depends on the earlier calls alone
(`RegistryCall.Answered`): the first registration of a slot is accepted and its provider stays, and
every later one is refused. The registry keeps a table instead, of which one call changes one free
slot at most (`get?_after`), so that a run of calls leaves in every slot what was first registered
for it (`get?_run`). Main statement: `answers_of_calls`.
-/

namespace FunctionBindings

/-- A call on a registry of providers. -/
inductive RegistryCall (α : Type) where
  | register (slot : String) (provider : α)
  /-- Register a provider for the slot of the host. -/
  | configure (provider : α)
  | get (slot : String)
  | isRegistered (slot : String)
  | metadataProvider
  | functionMetadata (directory : String)

/-- What a call is answered. -/
inductive RegistryAnswer (m : Type → Type) (α : Type) where
  | registration (result : Except ProviderError Unit)
  | slot (provider : Option α)
  | flag (value : Bool)
  | provider (result : Except ProviderError α)
  /-- The records of the host, which its provider is asked for. -/
  | records (result : m (Except ProviderError (List FunctionRecord)))

namespace RegistryCall

variable {α : Type} {m : Type → Type}

/-- The provider that a call would put into a slot. -/
def providerFor? (slot : String) : RegistryCall α → Option α
  | .register other provider => if other = slot then some provider else none
  | .configure provider => if metadataProviderSlot = slot then some provider else none
  | .get _ | .isRegistered _ | .metadataProvider | .functionMetadata _ => none

/-- True of a call that registers a provider for a slot. -/
inductive Registers : RegistryCall α → String → α → Prop where
  | register (slot : String) (provider : α) : Registers (.register slot provider) slot provider
  | configure (provider : α) : Registers (.configure provider) metadataProviderSlot provider

/-- A call registers for a slot the provider that it would put there. -/
theorem providerFor?_eq_some_iff {call : RegistryCall α} {slot : String} {provider : α} :
    call.providerFor? slot = some provider ↔ call.Registers slot provider := by
  constructor
  · intro h
    cases call with
    | register other registered =>
        obtain ⟨rfl, hprovider⟩ := Option.ite_none_right_eq_some.1 h
        obtain rfl := Option.some.inj hprovider
        exact .register other registered
    | configure registered =>
        obtain ⟨rfl, hprovider⟩ := Option.ite_none_right_eq_some.1 h
        obtain rfl := Option.some.inj hprovider
        exact .configure registered
    | get | isRegistered | metadataProvider | functionMetadata => cases h
  · intro h
    cases h with
    | register => exact if_pos rfl
    | configure =>
        rw [providerFor?]
        exact if_pos rfl

/-- True of calls of which none registers a provider for a slot. -/
def LeaveFree (calls : List (RegistryCall α)) (slot : String) : Prop :=
  ∀ call ∈ calls, ∀ provider, ¬ call.Registers slot provider

/-- True of calls of which the first that registers a provider for a slot registers this one. -/
def FirstRegister (calls : List (RegistryCall α)) (slot : String) (provider : α) : Prop :=
  ∃ earlier call later, calls = earlier ++ call :: later ∧
    call.Registers slot provider ∧ LeaveFree earlier slot

/-- A call would put nothing into a slot that it registers nothing for. -/
theorem providerFor?_eq_none_iff {call : RegistryCall α} {slot : String} :
    call.providerFor? slot = none ↔ ∀ provider, ¬ call.Registers slot provider := by
  simp only [Option.eq_none_iff_forall_ne_some, ne_eq, providerFor?_eq_some_iff]

/-- The first provider that calls would put into a slot. -/
theorem findSome?_eq_some_iff {calls : List (RegistryCall α)} {slot : String} {provider : α} :
    calls.findSome? (providerFor? slot) = some provider ↔ FirstRegister calls slot provider := by
  simp only [List.findSome?_eq_some_iff, providerFor?_eq_some_iff, providerFor?_eq_none_iff]
  rfl

/-- Calls leave a slot free if none of them would put a provider there. -/
theorem findSome?_eq_none_iff {calls : List (RegistryCall α)} {slot : String} :
    calls.findSome? (providerFor? slot) = none ↔ LeaveFree calls slot := by
  simp only [List.findSome?_eq_none_iff, providerFor?_eq_none_iff]
  rfl

section

variable [Monad m] (ask : String → α → m (Except ProviderError (List FunctionRecord)))

/-- What a call is answered after earlier calls, given how a provider is asked for the records of a
directory. -/
inductive Answered (earlier : List (RegistryCall α)) :
    RegistryCall α → RegistryAnswer m α → Prop where
  | accepted {call : RegistryCall α} {slot : String} {provider : α}
      (hcall : call.Registers slot provider) (hfree : LeaveFree earlier slot) :
      Answered earlier call (.registration (.ok ()))
  | refused {call : RegistryCall α} {slot : String} {provider first : α}
      (hcall : call.Registers slot provider) (hfirst : FirstRegister earlier slot first) :
      Answered earlier call (.registration (.error (.alreadyRegistered slot)))
  | found {slot : String} {first : α} (hfirst : FirstRegister earlier slot first) :
      Answered earlier (.get slot) (.slot (some first))
  | notFound {slot : String} (hfree : LeaveFree earlier slot) :
      Answered earlier (.get slot) (.slot none)
  | filled {slot : String} {first : α} (hfirst : FirstRegister earlier slot first) :
      Answered earlier (.isRegistered slot) (.flag true)
  | free {slot : String} (hfree : LeaveFree earlier slot) :
      Answered earlier (.isRegistered slot) (.flag false)
  | hostProvider {first : α} (hfirst : FirstRegister earlier metadataProviderSlot first) :
      Answered earlier .metadataProvider (.provider (.ok first))
  | noHostProvider (hfree : LeaveFree earlier metadataProviderSlot) :
      Answered earlier .metadataProvider
        (.provider (.error (.notRegistered metadataProviderSlot)))
  | hostRecords {directory : String} {first : α}
      (hfirst : FirstRegister earlier metadataProviderSlot first) :
      Answered earlier (.functionMetadata directory) (.records (ask directory first))
  | noHostRecords {directory : String} (hfree : LeaveFree earlier metadataProviderSlot) :
      Answered earlier (.functionMetadata directory)
        (.records (pure (.error (.notRegistered metadataProviderSlot))))

end

end RegistryCall

namespace ProviderRegistry

variable {α : Type} {m : Type → Type} {registry : ProviderRegistry α}

/-- The registry that a registration leaves behind; a refused one leaves it as it is. -/
def settle (registry : ProviderRegistry α) :
    Except ProviderError (ProviderRegistry α) → ProviderRegistry α
  | .ok next => next
  | .error _ => registry

/-- The registry after a call. -/
def after (registry : ProviderRegistry α) : RegistryCall α → ProviderRegistry α
  | .register slot provider => registry.settle (registry.register slot provider)
  | .configure provider => registry.settle (registry.configure provider)
  | .get _ | .isRegistered _ | .metadataProvider | .functionMetadata _ => registry

/-- The registry after calls in order. -/
def run (registry : ProviderRegistry α) (calls : List (RegistryCall α)) : ProviderRegistry α :=
  calls.foldl after registry

/-- What a registry answers to a call. -/
def answer [Monad m] (ask : String → α → m (Except ProviderError (List FunctionRecord)))
    (registry : ProviderRegistry α) : RegistryCall α → RegistryAnswer m α
  | .register slot provider => .registration ((registry.register slot provider).map fun _ ↦ ())
  | .configure provider => .registration ((registry.configure provider).map fun _ ↦ ())
  | .get slot => .slot (registry.get? slot)
  | .isRegistered slot => .flag (registry.isRegistered slot)
  | .metadataProvider => .provider registry.metadataProvider
  | .functionMetadata directory => .records (registry.functionMetadata (ask directory))

/-- A slot is registered if there is a provider in it. -/
theorem isRegistered_eq (registry : ProviderRegistry α) (slot : String) :
    registry.isRegistered slot = (registry.get? slot).isSome := rfl

/-- A registration for a slot with a provider leaves the registry as it is. -/
theorem settle_register_of_isRegistered {slot : String} (provider : α)
    (h : registry.isRegistered slot) :
    registry.settle (registry.register slot provider) = registry := by
  rw [register_eq_error_iff.2 ⟨h, rfl⟩, settle]

/-- A registration puts its provider into its slot, unless there is one, and leaves every other slot
alone. -/
theorem get?_settle_register (registry : ProviderRegistry α) (slot other : String) (provider : α) :
    (registry.settle (registry.register slot provider)).get? other =
      (registry.get? other).or (if slot = other then some provider else none) := by
  cases hregister : registry.register slot provider with
  | error error =>
      obtain ⟨hfilled, -⟩ := register_eq_error_iff.1 hregister
      rw [settle]
      split
      · rename_i hslot
        rw [Option.or_of_isSome (hslot ▸ hfilled)]
      · rw [Option.or_none]
  | ok next =>
      have hfree : registry.get? slot = none := by
        rw [← Option.not_isSome_iff_eq_none, ← isRegistered_eq]
        intro hfilled
        rw [register_eq_error_iff.2 ⟨hfilled, rfl⟩] at hregister
        cases hregister
      rw [settle, get?_of_register hregister]
      split
      · rename_i hslot
        rw [← hslot, hfree, Option.none_or]
      · rw [Option.or_none]

/-- A call puts a provider into a slot only if it registers it and the slot is free. -/
theorem get?_after (registry : ProviderRegistry α) (call : RegistryCall α) (slot : String) :
    (registry.after call).get? slot = (registry.get? slot).or (call.providerFor? slot) := by
  cases call with
  | register other provider => exact registry.get?_settle_register other slot provider
  | configure provider => exact registry.get?_settle_register metadataProviderSlot slot provider
  | get | isRegistered | metadataProvider | functionMetadata =>
      rw [after, RegistryCall.providerFor?, Option.or_none]

/-- After calls, a slot holds the provider that it had, or else the first that they register. -/
theorem get?_run (registry : ProviderRegistry α) (calls : List (RegistryCall α)) (slot : String) :
    (registry.run calls).get? slot =
      (registry.get? slot).or (calls.findSome? (RegistryCall.providerFor? slot)) := by
  unfold run
  induction calls generalizing registry with
  | nil => rw [List.foldl_nil, List.findSome?_nil, Option.or_none]
  | cons call calls ih =>
      rw [List.foldl_cons, ih, get?_after, Option.or_assoc, List.findSome?_cons]
      cases call.providerFor? slot <;> rfl

/-- Calls may be made in two runs. -/
theorem run_append (registry : ProviderRegistry α) (earlier later : List (RegistryCall α)) :
    registry.run (earlier ++ later) = (registry.run earlier).run later :=
  List.foldl_append

/-- A call that registers a provider for a slot with one changes nothing. -/
theorem after_of_isRegistered {call : RegistryCall α} {slot : String} {provider : α}
    (hcall : call.Registers slot provider) (hfilled : registry.isRegistered slot) :
    registry.after call = registry := by
  cases hcall with
  | register => exact settle_register_of_isRegistered provider hfilled
  | configure => exact settle_register_of_isRegistered provider hfilled

/-- What is answered to a registration. -/
theorem answer_of_registers [Monad m]
    (ask : String → α → m (Except ProviderError (List FunctionRecord)))
    {call : RegistryCall α} {slot : String} {provider : α} (hcall : call.Registers slot provider) :
    registry.answer ask call = .registration
      (if registry.isRegistered slot then .error (.alreadyRegistered slot) else .ok ()) := by
  have hregister : (registry.register slot provider).map (fun _ ↦ ()) =
      if registry.isRegistered slot then .error (.alreadyRegistered slot) else .ok () := by
    unfold register
    split <;> rfl
  cases hcall with
  | register => exact congrArg RegistryAnswer.registration hregister
  | configure => exact congrArg RegistryAnswer.registration hregister

end ProviderRegistry

namespace RegistryCall

variable {α : Type} {m : Type → Type} {calls : List (RegistryCall α)} {slot : String}

/-- A slot of a new registry holds a provider after calls if it is the first that they register. -/
theorem get?_run_empty_eq_some_iff {provider : α} :
    (ProviderRegistry.empty.run calls).get? slot = some provider ↔
      FirstRegister calls slot provider := by
  rw [ProviderRegistry.get?_run, ← findSome?_eq_some_iff]
  rfl

/-- A slot of a new registry is free after calls if they leave it free. -/
theorem get?_run_empty_eq_none_iff :
    (ProviderRegistry.empty.run calls).get? slot = none ↔ LeaveFree calls slot := by
  rw [ProviderRegistry.get?_run, ← findSome?_eq_none_iff]
  rfl

/-- A call on a registry that was new before earlier calls is answered by the rules. -/
theorem answered_answer [Monad m]
    (ask : String → α → m (Except ProviderError (List FunctionRecord)))
    (earlier : List (RegistryCall α)) (call : RegistryCall α) :
    Answered ask earlier call ((ProviderRegistry.empty.run earlier).answer ask call) := by
  have hregistration {slot : String} {provider : α} (hcall : call.Registers slot provider) :
      Answered ask earlier call ((ProviderRegistry.empty.run earlier).answer ask call) := by
    rw [ProviderRegistry.answer_of_registers ask hcall, ProviderRegistry.isRegistered_eq]
    cases hheld : (ProviderRegistry.empty.run earlier).get? slot with
    | none => exact .accepted hcall (get?_run_empty_eq_none_iff.1 hheld)
    | some first => exact .refused hcall (get?_run_empty_eq_some_iff.1 hheld)
  cases call with
  | register slot provider => exact hregistration (.register slot provider)
  | configure provider => exact hregistration (.configure provider)
  | get slot =>
      rw [ProviderRegistry.answer]
      cases hheld : (ProviderRegistry.empty.run earlier).get? slot with
      | none => exact .notFound (get?_run_empty_eq_none_iff.1 hheld)
      | some first => exact .found (get?_run_empty_eq_some_iff.1 hheld)
  | isRegistered slot =>
      rw [ProviderRegistry.answer, ProviderRegistry.isRegistered_eq]
      cases hheld : (ProviderRegistry.empty.run earlier).get? slot with
      | none => exact .free (get?_run_empty_eq_none_iff.1 hheld)
      | some first => exact .filled (get?_run_empty_eq_some_iff.1 hheld)
  | metadataProvider =>
      rw [ProviderRegistry.answer, ProviderRegistry.metadataProvider]
      cases hheld : (ProviderRegistry.empty.run earlier).get? metadataProviderSlot with
      | none => exact .noHostProvider (get?_run_empty_eq_none_iff.1 hheld)
      | some first => exact .hostProvider (get?_run_empty_eq_some_iff.1 hheld)
  | functionMetadata directory =>
      rw [ProviderRegistry.answer, ProviderRegistry.functionMetadata,
        ProviderRegistry.metadataProvider]
      cases hheld : (ProviderRegistry.empty.run earlier).get? metadataProviderSlot with
      | none => exact .noHostRecords (get?_run_empty_eq_none_iff.1 hheld)
      | some first => exact .hostRecords (get?_run_empty_eq_some_iff.1 hheld)

end RegistryCall

/-- The providers of this library never say themselves that none is registered. -/
theorem MetadataProvider.records_ne_notRegistered {σ : Type} [Files (StateM σ)]
    (provider : MetadataProvider) (directory slot : String) (state : σ) :
    ((provider.records (m := StateM σ) directory).run state).run.1 ≠
      .error (.notRegistered slot) := by
  cases provider with
  | fixed records => nofun
  | artifact fileName =>
      simp only [records, readArtifact]
      cases hread : ((Files.readFile (m := StateM σ) (Path.join directory fileName)).run
        state).run with
      | mk result next =>
          cases result with
          | error error => simp [hread]
          | ok text =>
              cases hrecords : FunctionRecord.readAll.ofText text <;> simp [hread, hrecords]

/-- After any calls on a new registry, a slot holds the provider that was first registered for it,
and does so for good: a later registration for the slot is refused and leaves the registry as it is,
and a call that registers nothing for the slot leaves the slot as it is. Every call is answered by
the rules for the calls before it. The host has no provider exactly if no call has registered one
for its slot, and as the providers of this library never say that none is registered themselves, the
host is told so exactly then. -/
theorem answers_of_calls {α : Type} {m : Type → Type} [Monad m]
    (ask : String → α → m (Except ProviderError (List FunctionRecord)))
    (calls : List (RegistryCall α)) :
    let registryAt := fun i ↦ ProviderRegistry.empty.run (calls.take i)
    (∀ i slot provider, (registryAt i).get? slot = some provider ↔
      RegistryCall.FirstRegister (calls.take i) slot provider) ∧
    (∀ i j slot provider, i ≤ j → (registryAt i).get? slot = some provider →
      (registryAt j).get? slot = some provider) ∧
    (∀ i call, calls[i]? = some call →
      RegistryCall.Answered ask (calls.take i) call ((registryAt i).answer ask call) ∧
      (∀ slot provider first, call.Registers slot provider →
        (registryAt i).get? slot = some first → registryAt (i + 1) = registryAt i) ∧
      (∀ slot, (∀ provider, ¬ call.Registers slot provider) →
        (registryAt (i + 1)).get? slot = (registryAt i).get? slot)) ∧
    (∀ i, (registryAt i).metadataProvider = .error (.notRegistered metadataProviderSlot) ↔
      RegistryCall.LeaveFree (calls.take i) metadataProviderSlot) ∧
    ∀ (σ : Type) [Files (StateM σ)] (known : List (RegistryCall MetadataProvider))
      (directory slot : String) (state : σ),
      ((((ProviderRegistry.empty.run known).functionMetadata (m := StateM σ)
        (·.records directory)).run state).run.1 = .error (.notRegistered slot) ↔
      RegistryCall.LeaveFree known metadataProviderSlot ∧ slot = metadataProviderSlot) := by
  intro registryAt
  have hnext {i : Nat} {call : RegistryCall α} (hcall : calls[i]? = some call) :
      registryAt (i + 1) = (registryAt i).after call := by
    have htake : calls.take (i + 1) = calls.take i ++ [call] := by
      rw [List.take_add_one, hcall, Option.toList_some]
    show ProviderRegistry.empty.run (calls.take (i + 1)) = _
    rw [htake, ProviderRegistry.run_append]
    rfl
  refine ⟨fun i slot provider ↦ RegistryCall.get?_run_empty_eq_some_iff, ?_, ?_, ?_, ?_⟩
  · intro i j slot provider hle hheld
    obtain ⟨more, hmore⟩ : calls.take i <+: calls.take j := List.take_prefix_take_left hle
    show (ProviderRegistry.empty.run (calls.take j)).get? slot = some provider
    rw [← hmore, ProviderRegistry.run_append, ProviderRegistry.get?_run, hheld, Option.some_or]
  · intro i call hcall
    refine ⟨RegistryCall.answered_answer ask _ call, ?_, ?_⟩
    · intro slot provider first hregisters hheld
      rw [hnext hcall]
      refine ProviderRegistry.after_of_isRegistered hregisters ?_
      rw [ProviderRegistry.isRegistered_eq, hheld, Option.isSome_some]
    · intro slot hother
      rw [hnext hcall, ProviderRegistry.get?_after,
        RegistryCall.providerFor?_eq_none_iff.2 hother, Option.or_none]
  · intro i
    rw [← RegistryCall.get?_run_empty_eq_none_iff, ProviderRegistry.metadataProvider]
    cases (ProviderRegistry.empty.run (calls.take i)).get? metadataProviderSlot <;> simp
  · intro σ _ known directory slot state
    rw [← RegistryCall.get?_run_empty_eq_none_iff, ProviderRegistry.functionMetadata,
      ProviderRegistry.metadataProvider]
    cases (ProviderRegistry.empty.run known).get? metadataProviderSlot with
    | none => simp [eq_comm]
    | some provider => simp [provider.records_ne_notRegistered directory slot state]

end FunctionBindings
