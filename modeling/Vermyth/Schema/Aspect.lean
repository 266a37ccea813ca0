import Mathlib.Data.Finset.Dedup
import Vermyth.Schema.Cast
import Vermyth.Schema.Session

set_option autoImplicit false

namespace Vermyth

inductive AspectID where
  | void
  | form
  | motion
  | mind
  | decay
  | light
deriving DecidableEq, Repr

def AspectID.name : AspectID → String
  | .void => "VOID"
  | .form => "FORM"
  | .motion => "MOTION"
  | .mind => "MIND"
  | .decay => "DECAY"
  | .light => "LIGHT"

def AspectID.polarity : AspectID → Int
  | .void => -1
  | .form => 1
  | .motion => 1
  | .mind => 1
  | .decay => -1
  | .light => 1

def AspectID.entropyCoefficient : AspectID → ℚ
  | .void => 95 / 100
  | .form => 15 / 100
  | .motion => 55 / 100
  | .mind => 35 / 100
  | .decay => 85 / 100
  | .light => 5 / 100

def aspectCanonicalOrder : List AspectID := [.void, .form, .motion, .mind, .decay, .light]

-- ^[A-Z][A-Z0-9_]*$
def aspectName (text : String) : Bool :=
  match text.toList with
  | [] => false
  | c :: rest => c.isUpper && rest.all fun c => c.isUpper || c.isDigit || c = '_'

@[ext] structure RegisteredAspect where
  name : String
  polarity : Int
  entropyCoefficient : ℚ
  symbol : String
  nameValid : aspectName name = true ∧ name.length ≤ 30
  polarityValid : polarity = -1 ∨ polarity = 1
  entropyRange : 0 ≤ entropyCoefficient ∧ entropyCoefficient ≤ 1
  symbolLength : symbol.length = 1

theorem full_entropy : (0 : ℚ) ≤ 1 ∧ (1 : ℚ) ≤ 1 := by decide +kernel

instance : DecidableEq RegisteredAspect := fun _ _ => decidable_of_iff _ RegisteredAspect.ext_iff.symm

def RegisteredAspect.make (name : String) (polarity : Int) (entropyCoefficient : ℚ) (symbol : String) :
    Except PyError RegisteredAspect :=
  if nameValid : aspectName name = true ∧ name.length ≤ 30 then
    if polarityValid : polarity = -1 ∨ polarity = 1 then
      if entropyRange : 0 ≤ entropyCoefficient ∧ entropyCoefficient ≤ 1 then
        if symbolLength : symbol.length = 1 then
          .ok { name := name, polarity := polarity, entropyCoefficient := entropyCoefficient, symbol := symbol,
                nameValid := nameValid, polarityValid := polarityValid, entropyRange := entropyRange,
                symbolLength := symbolLength }
        else .error (invalid "RegisteredAspect" "symbol")
      else .error (invalid "RegisteredAspect" "entropy_coefficient")
    else .error (invalid "RegisteredAspect" "polarity")
  else .error (invalid "RegisteredAspect" "name")

inductive Aspect where
  | canonical (id : AspectID)
  | registered (aspect : RegisteredAspect)
deriving DecidableEq

def Aspect.name : Aspect → String
  | .canonical id => id.name
  | .registered aspect => aspect.name

def Aspect.polarity : Aspect → Int
  | .canonical id => id.polarity
  | .registered aspect => aspect.polarity

def Aspect.entropyCoefficient : Aspect → ℚ
  | .canonical id => id.entropyCoefficient
  | .registered aspect => aspect.entropyCoefficient

structure AspectRegistry where
  registered : List RegisteredAspect := []
  basisVersion : Nat := 0
deriving DecidableEq

namespace AspectRegistry

def fullOrder (registry : AspectRegistry) : List Aspect :=
  aspectCanonicalOrder.map Aspect.canonical ++ registry.registered.map Aspect.registered

def dimensionality (registry : AspectRegistry) : Nat := registry.fullOrder.length

def resolve (registry : AspectRegistry) (name : String) : Except PyError Aspect :=
  match registry.fullOrder.find? fun aspect => aspect.name = name with
  | some aspect => .ok aspect
  | none => .error (.keyError name)

def isRegistered (registry : AspectRegistry) (name : String) : Bool :=
  registry.registered.any fun aspect => aspect.name = name

def isCanonical (name : String) : Bool := aspectCanonicalOrder.any fun id => id.name = name

def register (registry : AspectRegistry) (aspect : RegisteredAspect) : Except PyError AspectRegistry :=
  if isCanonical aspect.name then
    .error (.valueError ("Aspect '" ++ aspect.name ++ "' conflicts with canonical AspectID"))
  else if registry.isRegistered aspect.name then
    .error (.valueError ("Aspect '" ++ aspect.name ++ "' already exists"))
  else .ok { registered := registry.registered ++ [aspect], basisVersion := registry.basisVersion + 1 }

def setBasisVersion (registry : AspectRegistry) (version : Nat) : AspectRegistry :=
  { registry with basisVersion := version }

theorem dimensionality_six (registry : AspectRegistry) : 6 ≤ registry.dimensionality := by
  simp [dimensionality, fullOrder, aspectCanonicalOrder]

theorem register_ok (registry after : AspectRegistry) (aspect : RegisteredAspect) :
    registry.register aspect = .ok after ↔ isCanonical aspect.name = false ∧
      registry.isRegistered aspect.name = false ∧
        after = { registered := registry.registered ++ [aspect], basisVersion := registry.basisVersion + 1 } := by
  rw [register]
  by_cases canonical : isCanonical aspect.name = true
  · simp [canonical]
  · by_cases taken : registry.isRegistered aspect.name = true
    · simp [canonical, taken]
    · simp [canonical, taken, eq_comm]

end AspectRegistry

-- A frozenset of aspects, by the names that tell them apart, in the order in
-- which Python walks it.
structure AspectSet where
  names : List String
  distinct : names.Nodup
deriving DecidableEq

-- What the frozenset is up to that order, as == and hash see it.
def AspectSet.members (aspects : AspectSet) : Finset String := aspects.names.toFinset

structure SetOrder where
  walk : List String → List String
  permutes : ∀ names, (walk names).Perm names.dedup

def AspectSet.build (order : SetOrder) (names : List String) : AspectSet where
  names := order.walk names
  distinct := (order.permutes names).nodup_iff.mpr names.nodup_dedup

-- A set made of another one: Python keeps the members and not always the order.
def AspectSet.rebuild (order : SetOrder) (aspects : AspectSet) : AspectSet := .build order aspects.names

theorem mem_members (aspects : AspectSet) (name : String) : name ∈ aspects.members ↔ name ∈ aspects.names :=
  List.mem_toFinset

theorem members_eq (a b : AspectSet) : a.members = b.members ↔ a.names.Perm b.names := by
  constructor
  · exact List.perm_of_nodup_nodup_toFinset_eq a.distinct b.distinct
  · exact List.toFinset_eq_of_perm _ _

@[simp] theorem rebuild_members (order : SetOrder) (aspects : AspectSet) :
    (aspects.rebuild order).members = aspects.members := by
  rw [members_eq]
  exact (order.permutes aspects.names).trans (by rw [aspects.distinct.dedup])

-- SemanticVector.from_aspects
def fromAspects (registry : AspectRegistry) (aspects : AspectSet) : SemanticVector where
  components := registry.fullOrder.map fun aspect =>
    if aspect.name ∈ aspects.names then aspect.entropyCoefficient * (if aspect.polarity = 1 then 1 else -1) else 0
  basisVersion := some registry.basisVersion
  atLeastSix := by
    rw [List.length_map]
    exact registry.dimensionality_six

def SemanticVector.normalizedBasisVersion (vector : SemanticVector) : Nat := vector.basisVersion.getD 0

end Vermyth
