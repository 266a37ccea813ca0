import Vermyth.Engine.Composition
import Vermyth.Grimoire.Store

set_option autoImplicit false

namespace Vermyth

open Foundation

-- The data files of the composition engine, and what str() and float() make of
-- JSON values.
structure RegistryEnv where
  base : CompositionEngine
  pyStr : Json → String
  pyFloat : Json → Except PyError ℚ

structure VermythProcess where
  registry : AspectRegistry
  engine : CompositionEngine
  grimoire : Grimoire

def textOf (env : RegistryEnv) : Json → String
  | .str text => text
  | value => env.pyStr value

def toolRegisterAspect (aspectId : String) (polarity : Int) (entropyCoefficient : ℚ) (symbol : String)
    (process : VermythProcess) : Except PyError VermythProcess := do
  let aspect ← RegisteredAspect.make aspectId polarity entropyCoefficient symbol
  let registry ← process.registry.register aspect
  let (registry, grimoire) ← writeRegisteredAspect aspect (registry.dimensionality - 1) registry process.grimoire
  return { process with registry := registry, grimoire := grimoire }

def requestNames (env : RegistryEnv) (payload : List (String × Json)) : Except PyError (String × List Json) :=
  let name := pyStrip (textOf env ((payload.lookup "name").getD (.str "")))
  if name = "" then .error (.valueError "name is required")
  else
    match payload.lookup "aspects" with
    | some (.arr (first :: rest)) => .ok (name, first :: rest)
    | _ => .error (.valueError "aspects must be a non-empty list of aspect names")

def requestAspect (registry : AspectRegistry) : Json → Except PyError Aspect
  | .str name =>
      match registry.resolve name with
      | .ok aspect => .ok aspect
      | .error _ => .error (.valueError ("Unknown aspect: " ++ name))
  | _ => .error (.valueError "aspects must be a list of strings")

structure SigilTerms where
  effectClass : EffectClass
  contradictionSeverity : ContradictionSeverity
  resonanceCeiling : ℚ
  allowOverride : Bool

def requestTerms (env : RegistryEnv) (payload : List (String × Json)) : Except PyError SigilTerms := do
  let classText := textOf env ((payload.lookup "effect_class").getD (.str ""))
  let effectClass ← match EffectClass.named? classText with
    | some own => .ok own
    | none => .error (.keyError classText)
  let severityText := textOf env ((payload.lookup "contradiction_severity").getD (.str "NONE"))
  let severity ← match ContradictionSeverity.named? severityText with
    | some own => .ok own
    | none => .error (.keyError severityText)
  let ceiling ← env.pyFloat ((payload.lookup "resonance_ceiling").getD (.int 1))
  return { effectClass := effectClass, contradictionSeverity := severity, resonanceCeiling := ceiling,
           allowOverride := ((payload.lookup "allow_override").getD (.bool false)).truthy }

def liveEntry (sigil : ResolvedSigil) : SigilEntry where
  name := sigil.name
  effectClass := sigil.effectClass
  resonanceCeiling := sigil.resonanceCeiling

def sigilRow (sigil : ResolvedSigil) (isOverride : Bool) (now : Datetime) : RegisteredSigilRow where
  name := sigil.name
  aspects := sigil.aspects
  effectClass := sigil.effectClass
  resonanceCeiling := sigil.resonanceCeiling
  contradictionSeverity := sigil.contradictionSeverity
  isOverride := isOverride
  registeredAt := now

def toolRegisterSigil (env : RegistryEnv) (order : SetOrder) (payload : List (String × Json)) (now : Datetime)
    (process : VermythProcess) : Except PyError VermythProcess := do
  let (name, aspectsIn) ← requestNames env payload
  let resolved ← aspectsIn.mapM (requestAspect process.registry)
  let aspects := AspectSet.build order (resolved.map Aspect.name)
  let terms ← requestTerms env payload
  let sigil ← ResolvedSigil.make process.registry order name aspects terms.effectClass terms.resonanceCeiling
    terms.contradictionSeverity
  let engine ← process.engine.registerSigilEntry process.registry aspects (liveEntry sigil) terms.allowOverride
  return { process with
           engine := engine
           grimoire := writeRegisteredSigil (sigilRow sigil terms.allowOverride now) process.grimoire }

inductive RegistryCall where
  | aspect (aspectId : String) (polarity : Int) (entropyCoefficient : ℚ) (symbol : String)
  | sigil (payload : List (String × Json)) (now : Datetime)

def registryCall (env : RegistryEnv) (order : SetOrder) (process : VermythProcess) :
    RegistryCall → Except PyError VermythProcess
  | .aspect aspectId polarity entropyCoefficient symbol =>
      toolRegisterAspect aspectId polarity entropyCoefficient symbol process
  | .sigil payload now => toolRegisterSigil env order payload now process

-- A sequence of calls none of which raises.
def registryCalls (env : RegistryEnv) (order : SetOrder) (calls : List RegistryCall) (process : VermythProcess) :
    Except PyError VermythProcess := calls.foldlM (registryCall env order) process

def replayEntry (row : RegisteredSigilRow) : SigilEntry where
  name := row.name
  effectClass := row.effectClass
  resonanceCeiling := row.resonanceCeiling
  contradictionSeverity := some row.contradictionSeverity

def replaySigil (order : SetOrder) (registry : AspectRegistry) (engine : CompositionEngine)
    (row : RegisteredSigilRow) : Except PyError CompositionEngine := do
  let resolved ← resolveNames registry row.aspects.names
  let aspects := AspectSet.build order (resolved.map Aspect.name)
  let _ ← ResolvedSigil.make registry order row.name aspects row.effectClass row.resonanceCeiling
    row.contradictionSeverity
  engine.registerSigilEntry registry aspects (replayEntry row) row.isOverride

def buildTools (env : RegistryEnv) (order : SetOrder) (grimoire : Grimoire) : Except PyError VermythProcess := do
  let registry ← (queryRegisteredAspects grimoire).foldlM
    (fun registry row => registry.register row.aspect) ({} : AspectRegistry)
  let registry := registry.setBasisVersion (latestVersion grimoire)
  let engine ← (queryRegisteredSigils grimoire).foldlM (replaySigil order registry) env.base
  return { registry := registry, engine := engine, grimoire := grimoire }

end Vermyth
