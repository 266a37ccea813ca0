import Vermyth.Grimoire.Lifecycle
import Vermyth.Grimoire.Replay

set_option autoImplicit false

namespace Vermyth

open Foundation

-- registry.register and then write_registered_aspect, with what they leave when
-- one of them raises.
def registerNew (aspect : RegisteredAspect) (registry : AspectRegistry) (grimoire : Grimoire) :
    Except PyError Unit × AspectRegistry × Grimoire :=
  match registry.register aspect with
  | .error raised => (.error raised, registry, grimoire)
  | .ok registry =>
      match writeRegisteredAspect aspect (registry.dimensionality - 1) registry grimoire with
      | .error raised => (.error raised, registry, grimoire)
      | .ok (registry, grimoire) => (.ok (), registry, grimoire)

inductive RegistrationCall where
  | register (aspectId : String) (polarity : Int) (entropyCoefficient : ℚ) (symbol : String)
  | accept (genesisId : String) (now : Datetime)

def registrationCall (state : GenesisState) : RegistrationCall → Except PyError Unit × GenesisState
  | .register aspectId polarity entropyCoefficient symbol =>
      match RegisteredAspect.make aspectId polarity entropyCoefficient symbol with
      | .error raised => (.error raised, state)
      | .ok aspect =>
          let done := registerNew aspect state.registry state.grimoire
          (done.1, { state with registry := done.2.1, grimoire := done.2.2 })
  | .accept genesisId now =>
      let done := acceptEmergentAspect genesisId now state
      (done.1.map fun _ => (), done.2)

theorem tool_register_aspect_call (aspectId : String) (polarity : Int) (entropyCoefficient : ℚ) (symbol : String)
    (process after : VermythProcess) (derivedFrom : List String) :
    toolRegisterAspect aspectId polarity entropyCoefficient symbol process = .ok after ↔
      registrationCall { registry := process.registry, grimoire := process.grimoire, derivedFrom := derivedFrom }
        (.register aspectId polarity entropyCoefficient symbol) =
          (.ok (), { registry := after.registry, grimoire := after.grimoire, derivedFrom := derivedFrom }) ∧
        after.engine = process.engine := by
  cases made : RegisteredAspect.make aspectId polarity entropyCoefficient symbol with
  | error raised => simp [toolRegisterAspect, registrationCall, made, bind, Except.bind]
  | ok aspect =>
      cases registered : process.registry.register aspect with
      | error raised =>
          simp [toolRegisterAspect, registrationCall, registerNew, made, registered, bind, Except.bind]
      | ok registry =>
          cases written : writeRegisteredAspect aspect (registry.dimensionality - 1) registry process.grimoire with
          | error raised =>
              simp [toolRegisterAspect, registrationCall, registerNew, made, registered, written, bind, Except.bind]
          | ok both =>
              cases after
              simp only [toolRegisterAspect, registrationCall, registerNew, made, registered, written, bind,
                Except.bind, pure, Except.pure]
              simp only [Except.ok.injEq, VermythProcess.mk.injEq, Prod.mk.injEq, GenesisState.mk.injEq, true_and,
                and_true]
              tauto

def rowOf (aspect : RegisteredAspect) (registry : AspectRegistry) : RegisteredAspectRow where
  aspect := aspect
  ordinal := 6 + registry.registered.length

structure Unharmed (before after : GenesisState) : Prop where
  registry : after.registry = before.registry
  registeredAspects : after.grimoire.registeredAspects = before.grimoire.registeredAspects
  basisVersions : after.grimoire.basisVersions = before.grimoire.basisVersions

def InStep (state : GenesisState) : Prop :=
  state.registry.fullOrder = aspectCanonicalOrder.map Aspect.canonical ++
    (queryRegisteredAspects state.grimoire).map fun row => .registered row.aspect

structure Agrees (call : RegistrationCall) (state : GenesisState) : Prop where
  failed : ∀ raised, (registrationCall state call).1 = .error raised → Unharmed state (registrationCall state call).2
  registered : (registrationCall state call).1 = .ok () →
    (registrationCall state call).2.registry ≠ state.registry → InStep (registrationCall state call).2

end Vermyth
