import Vermyth.Foundation.Transition
import Vermyth.Grimoire.Store

set_option autoImplicit false

namespace Vermyth

open Foundation

-- The process's registry and the store. derivedFrom is the history of the
-- proposals whose acceptance put an aspect in the registry, which the code does
-- not keep.
structure GenesisState where
  registry : AspectRegistry
  grimoire : Grimoire
  derivedFrom : List String := []

def decided (status : GenesisStatus) (now : Datetime) (aspect : EmergentAspect) : EmergentAspect :=
  { aspect with status := status, decidedAt := some now }

def storeEmergent (aspect : EmergentAspect) (state : GenesisState) : Except PyError EmergentAspect × GenesisState :=
  match writeEmergentAspect aspect state.grimoire with
  | .error raised => (.error raised, state)
  | .ok grimoire => (.ok aspect, { state with grimoire := grimoire })

def registerDerived (accepted : EmergentAspect) (state : GenesisState) : Except PyError Unit × GenesisState :=
  if state.registry.isRegistered accepted.proposedName then (.ok (), state)
  else
    match state.registry.register accepted.derived with
    | .error raised => (.error raised, state)
    | .ok registry =>
        let state := { state with registry := registry, derivedFrom := state.derivedFrom ++ [accepted.genesisId] }
        match writeRegisteredAspect accepted.derived (registry.dimensionality - 1) registry state.grimoire with
        | .error raised => (.error raised, state)
        | .ok (registry, grimoire) => (.ok (), { state with registry := registry, grimoire := grimoire })

def acceptEmergentAspect (genesisId : String) (now : Datetime) (state : GenesisState) :
    Except PyError EmergentAspect × GenesisState :=
  match readEmergentAspect genesisId state.grimoire with
  | .error raised => (.error raised, state)
  | .ok aspect =>
      if aspect.reviewedAt = none then
        (.error (.runtimeError "genesis proposal must be reviewed before acceptance"), state)
      else
        match registerDerived (decided .accepted now aspect) state with
        | (.error raised, state) => (.error raised, state)
        | (.ok _, state) => storeEmergent (decided .accepted now aspect) state

def rejectEmergentAspect (genesisId : String) (now : Datetime) (state : GenesisState) :
    Except PyError EmergentAspect × GenesisState :=
  match readEmergentAspect genesisId state.grimoire with
  | .error raised => (.error raised, state)
  | .ok aspect => storeEmergent (decided .rejected now aspect) state

def reviewEmergentAspect (genesisId reviewer : String) (note : Option String) (now : Datetime)
    (state : GenesisState) : Except PyError EmergentAspect × GenesisState :=
  match readEmergentAspect genesisId state.grimoire with
  | .error raised => (.error raised, state)
  | .ok aspect => storeEmergent
      { aspect with reviewedBy := some reviewer, reviewedAt := some now, reviewNote := note } state

inductive GenesisEvent where
  | write (aspect : EmergentAspect)
  | review (genesisId reviewer : String) (note : Option String) (now : Datetime)
  | accept (genesisId : String) (now : Datetime)
  | reject (genesisId : String) (now : Datetime)

def genesisCall (state : GenesisState) : GenesisEvent → Except PyError EmergentAspect × GenesisState
  | .write aspect => storeEmergent aspect state
  | .review genesisId reviewer note now => reviewEmergentAspect genesisId reviewer note now state
  | .accept genesisId now => acceptEmergentAspect genesisId now state
  | .reject genesisId now => rejectEmergentAspect genesisId now state

def genesisStep (state : GenesisState) (event : GenesisEvent) : GenesisState := (genesisCall state event).2

def proposal? (state : GenesisState) (genesisId : String) : Option EmergentAspect :=
  state.grimoire.emergentAspects.find? genesisId

def statusOf (state : GenesisState) (genesisId : String) : Option GenesisStatus :=
  (proposal? state genesisId).map EmergentAspect.status

-- What write_emergent_aspect asks of a proposal: integers SQLite can hold and a
-- name no other proposal has.
structure Writable (aspect : EmergentAspect) (grimoire : Grimoire) : Prop where
  supportCount : ∃ value, sqlInteger aspect.supportCount = .ok value
  basisVersion : ∃ value, sqlInteger aspect.centroidVector.normalizedBasisVersion = .ok value
  nameFree : ∀ old ∈ grimoire.emergentAspects.rows, old.genesisId ≠ aspect.genesisId →
    old.proposedName ≠ aspect.proposedName

theorem write_emergent_ok (aspect : EmergentAspect) (grimoire after : Grimoire) :
    writeEmergentAspect aspect grimoire = .ok after ↔ Writable aspect grimoire ∧
      after = { grimoire with emergentAspects := grimoire.emergentAspects.upsert aspect } := by
  have free : (grimoire.emergentAspects.rows.any fun old =>
      old.genesisId ≠ aspect.genesisId && old.proposedName = aspect.proposedName) = true ↔
        ¬ ∀ old ∈ grimoire.emergentAspects.rows, old.genesisId ≠ aspect.genesisId →
          old.proposedName ≠ aspect.proposedName := by
    simp
  rw [writeEmergentAspect]
  constructor
  · intro written
    obtain ⟨count, countOk, written⟩ := (bind_ok _ _ _).mp written
    obtain ⟨basis, basisOk, written⟩ := (bind_ok _ _ _).mp written
    split_ifs at written with taken
    exact ⟨⟨⟨count, countOk⟩, ⟨basis, basisOk⟩, not_not.mp (mt free.mpr taken)⟩, (Except.ok.inj written).symm⟩
  · intro written
    obtain ⟨⟨⟨count, countOk⟩, ⟨basis, basisOk⟩, nameFree⟩, rfl⟩ := written
    simp only [bind_ok]
    exact ⟨count, countOk, basis, basisOk, if_neg fun taken => free.mp taken nameFree⟩

theorem store_emergent_cases (aspect : EmergentAspect) (state : GenesisState) :
    (∃ raised, ¬ Writable aspect state.grimoire ∧ storeEmergent aspect state = (.error raised, state)) ∨
      (Writable aspect state.grimoire ∧ storeEmergent aspect state = (.ok aspect, { state with
        grimoire := { state.grimoire with
          emergentAspects := state.grimoire.emergentAspects.upsert aspect } })) := by
  rw [storeEmergent]
  cases written : writeEmergentAspect aspect state.grimoire with
  | error raised =>
      refine Or.inl ⟨raised, fun writable => ?_, rfl⟩
      have ok := (write_emergent_ok aspect state.grimoire _).mpr ⟨writable, rfl⟩
      rw [written] at ok
      cases ok
  | ok after =>
      obtain ⟨writable, rfl⟩ := (write_emergent_ok aspect state.grimoire after).mp written
      exact Or.inr ⟨writable, rfl⟩

theorem read_emergent_ok (genesisId : String) (grimoire : Grimoire) (aspect : EmergentAspect)
    (ok : readEmergentAspect genesisId grimoire = .ok aspect) :
    ∃ row, grimoire.emergentAspects.find? genesisId = some row ∧ aspect = restoredEmergent row := by
  rw [readEmergentAspect] at ok
  cases found : grimoire.emergentAspects.find? genesisId with
  | none => simp [found] at ok
  | some row =>
      simp only [found] at ok
      split_ifs at ok
      exact ⟨row, rfl, (Except.ok.inj ok).symm⟩

theorem register_derived_fresh (accepted : EmergentAspect) (state : GenesisState)
    (free : state.registry.isRegistered accepted.proposedName = false)
    (canonical : AspectRegistry.isCanonical accepted.proposedName = false)
    (unwritten : ¬ state.grimoire.registeredAspects.Has accepted.proposedName) :
    ∃ registry registeredAspects basisVersions,
      registry.registered = state.registry.registered ++ [accepted.derived] ∧
        registerDerived accepted state = (.ok (),
          { registry := registry
            grimoire := { state.grimoire with
              registeredAspects := registeredAspects, basisVersions := basisVersions }
            derivedFrom := state.derivedFrom ++ [accepted.genesisId] }) := by
  have registered := (AspectRegistry.register_ok state.registry _ accepted.derived).mpr ⟨canonical, free, rfl⟩
  simp only [registerDerived, free, Bool.false_eq_true, if_false, registered,
    write_registered_aspect_fresh accepted.derived _ _ state.grimoire unwritten]
  exact ⟨_, _, _, rfl, rfl⟩

end Vermyth
