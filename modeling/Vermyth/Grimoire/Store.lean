import Mathlib.Data.List.Sort
import Vermyth.Grimoire.Crystallized
import Vermyth.Schema.Swarm

set_option autoImplicit false

namespace Vermyth

open Foundation

structure RegisteredAspectRow where
  aspect : RegisteredAspect
  ordinal : Nat
deriving DecidableEq

def RegisteredAspectRow.name (row : RegisteredAspectRow) : String := row.aspect.name

structure BasisVersionRow where
  version : Nat
  dimensionality : Nat
  aspectOrder : List String
deriving DecidableEq

-- A row of registered_sigils. aspects_json holds the names as they were walked.
structure RegisteredSigilRow where
  name : String
  aspects : AspectSet
  effectClass : EffectClass
  resonanceCeiling : ℚ
  contradictionSeverity : ContradictionSeverity
  isOverride : Bool
  registeredAt : Datetime
deriving DecidableEq

def baseBasis : BasisVersionRow where
  version := 0
  dimensionality := 6
  aspectOrder := aspectCanonicalOrder.map AspectID.name

def baseBasisVersions : Table BasisVersionRow.version where
  rows := [baseBasis]
  distinct := by simp

structure Grimoire where
  seeds : SeedTable := Table.empty
  crystallized : CrystallizedTable := Table.empty
  emergentAspects : Table EmergentAspect.genesisId := Table.empty
  registeredAspects : Table RegisteredAspectRow.name := Table.empty
  registeredSigils : Table RegisteredSigilRow.name := Table.empty
  basisVersions : Table BasisVersionRow.version := baseBasisVersions

-- SELECT COALESCE(MAX(version), 0)
def latestVersion (grimoire : Grimoire) : Nat :=
  (grimoire.basisVersions.rows.map BasisVersionRow.version).foldr max 0

-- The rows of registered_aspects and of basis_versions are written in one
-- transaction.
def writeRegisteredAspect (aspect : RegisteredAspect) (ordinal : Nat) (registry : AspectRegistry)
    (grimoire : Grimoire) : Except PyError (AspectRegistry × Grimoire) :=
  let nextBasis := latestVersion grimoire + 1
  match grimoire.registeredAspects.insert? { aspect := aspect, ordinal := ordinal } with
  | none => .error (.valueError ("Aspect '" ++ aspect.name ++ "' already exists"))
  | some registeredAspects =>
      .ok (registry.setBasisVersion nextBasis,
        { grimoire with
          registeredAspects := registeredAspects
          basisVersions := grimoire.basisVersions.put
            { version := nextBasis, dimensionality := ordinal + 1,
              aspectOrder := registry.fullOrder.map Aspect.name } })

def nextBasisRow (registry : AspectRegistry) (ordinal : Nat) (grimoire : Grimoire) : BasisVersionRow where
  version := latestVersion grimoire + 1
  dimensionality := ordinal + 1
  aspectOrder := registry.fullOrder.map Aspect.name

theorem write_registered_aspect_fresh (aspect : RegisteredAspect) (ordinal : Nat) (registry : AspectRegistry)
    (grimoire : Grimoire) (fresh : ¬ grimoire.registeredAspects.Has aspect.name) :
    writeRegisteredAspect aspect ordinal registry grimoire =
      .ok (registry.setBasisVersion (latestVersion grimoire + 1),
        { grimoire with
          registeredAspects := grimoire.registeredAspects.append { aspect := aspect, ordinal := ordinal } fresh
          basisVersions := grimoire.basisVersions.put (nextBasisRow registry ordinal grimoire) }) := by
  have inserted : grimoire.registeredAspects.insert? { aspect := aspect, ordinal := ordinal } =
      some (grimoire.registeredAspects.append { aspect := aspect, ordinal := ordinal } fresh) :=
    Table.insert_fresh _ _ fresh
  rw [writeRegisteredAspect, inserted]
  rfl

theorem write_registered_aspect_taken (aspect : RegisteredAspect) (ordinal : Nat) (registry : AspectRegistry)
    (grimoire : Grimoire) (taken : grimoire.registeredAspects.Has aspect.name) :
    writeRegisteredAspect aspect ordinal registry grimoire =
      .error (.valueError ("Aspect '" ++ aspect.name ++ "' already exists")) := by
  have refused : grimoire.registeredAspects.insert? { aspect := aspect, ordinal := ordinal } = none :=
    Table.insert_taken _ _ taken
  rw [writeRegisteredAspect, refused]

-- ORDER BY ordinal ASC
def queryRegisteredAspects (grimoire : Grimoire) : List RegisteredAspectRow :=
  grimoire.registeredAspects.rows.insertionSort fun a b => a.ordinal ≤ b.ordinal

def writeRegisteredSigil (row : RegisteredSigilRow) (grimoire : Grimoire) : Grimoire :=
  { grimoire with registeredSigils := grimoire.registeredSigils.put row }

def registeredText (row : RegisteredSigilRow) : String := String.ofList row.registeredAt.isoformat

-- ORDER BY registered_at DESC
def queryRegisteredSigils (grimoire : Grimoire) : List RegisteredSigilRow :=
  grimoire.registeredSigils.rows.insertionSort fun a b => registeredText b ≤ registeredText a

-- INSERT ... ON CONFLICT(genesis_id) DO UPDATE, where proposed_name is UNIQUE.
def writeEmergentAspect (aspect : EmergentAspect) (grimoire : Grimoire) : Except PyError Grimoire := do
  let _ ← sqlInteger aspect.supportCount
  let _ ← sqlInteger aspect.centroidVector.normalizedBasisVersion
  if grimoire.emergentAspects.rows.any fun old =>
      old.genesisId ≠ aspect.genesisId && old.proposedName = aspect.proposedName then
    .error (.runtimeError "UNIQUE constraint failed: emergent_aspects.proposed_name")
  else .ok { grimoire with emergentAspects := grimoire.emergentAspects.upsert aspect }

-- Empty texts come back as None, and a centroid without a basis as one of 0.
def restoredEmergent (row : EmergentAspect) : EmergentAspect :=
  { row with
    centroidVector := { row.centroidVector with basisVersion := some row.centroidVector.normalizedBasisVersion }
    reviewedBy := row.reviewedBy.filter (· ≠ "")
    reviewNote := row.reviewNote.filter (· ≠ "") }

@[simp] theorem restored_emergent_name (row : EmergentAspect) :
    (restoredEmergent row).proposedName = row.proposedName := rfl

@[simp] theorem restored_emergent_status (row : EmergentAspect) : (restoredEmergent row).status = row.status := rfl

def readEmergentAspect (genesisId : String) (grimoire : Grimoire) : Except PyError EmergentAspect :=
  match grimoire.emergentAspects.find? genesisId with
  | none => .error (.keyError genesisId)
  | some row =>
      if row.reviewNote.any fun note => 500 < note.length then .error (invalid "EmergentAspect" "review_note")
      else .ok (restoredEmergent row)

end Vermyth
