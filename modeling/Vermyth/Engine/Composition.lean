import Vermyth.Foundation.Table
import Vermyth.Schema.Sigil

set_option autoImplicit false

namespace Vermyth

open Foundation

-- An entry of the composition table, from the data files or from a
-- registration. Only some of them have a severity of their own.
structure SigilEntry where
  name : String
  effectClass : EffectClass
  resonanceCeiling : ℚ
  contradictionSeverity : Option ContradictionSeverity := none
deriving DecidableEq

structure SigilSlot where
  key : String
  entry : SigilEntry
deriving DecidableEq

abbrev SigilTable := Table SigilSlot.key

structure CompositionEngine where
  table : SigilTable
  contradictions : List (String × ContradictionSeverity) := []

def AspectRegistry.names (registry : AspectRegistry) : List String := registry.fullOrder.map Aspect.name

-- sorted() by the place in the full order; what is not in it comes last, as it
-- is walked.
def canonicalAspectKey (registry : AspectRegistry) (aspects : AspectSet) : String :=
  "+".intercalate (registry.names.filter (fun name => name ∈ aspects.names) ++
    aspects.names.filter fun name => name ∉ registry.names)

def contradictionSeverityForKey (contradictions : List (String × ContradictionSeverity)) (key : String)
    (raw : SigilEntry) : ContradictionSeverity :=
  raw.contradictionSeverity.getD ((contradictions.lookup key).getD .none)

namespace CompositionEngine

def entry? (engine : CompositionEngine) (key : String) : Option SigilEntry :=
  (engine.table.find? key).map SigilSlot.entry

def noResolution (key : String) : PyError :=
  .valueError ("no defined resolution for aspect combination: '" ++ key ++ "'")

def compose (engine : CompositionEngine) (registry : AspectRegistry) (order : SetOrder) (aspects : AspectSet) :
    Except PyError ResolvedSigil :=
  if aspects.names.length < 1 then .error (.valueError "aspects must contain at least one AspectID")
  else if 3 < aspects.names.length then .error (.valueError "aspects must contain at most three AspectIDs")
  else
    let key := canonicalAspectKey registry aspects
    match engine.entry? key with
    | none => .error (noResolution key)
    | some raw => ResolvedSigil.make registry order raw.name aspects raw.effectClass raw.resonanceCeiling
        (contradictionSeverityForKey engine.contradictions key raw)

def registerSigilEntry (engine : CompositionEngine) (registry : AspectRegistry) (aspects : AspectSet)
    (entry : SigilEntry) (allowOverride : Bool) : Except PyError CompositionEngine :=
  let key := canonicalAspectKey registry aspects
  if engine.table.Has key ∧ allowOverride = false then
    .error (.valueError ("sigil for aspect combination '" ++ key ++
      "' already exists; set allow_override=True to replace"))
  else .ok { engine with table := engine.table.upsert { key := key, entry := entry } }

end CompositionEngine

structure SigilReport where
  name : String
  effectClass : EffectClass
  resonanceCeiling : ℚ
  contradictionSeverity : ContradictionSeverity
deriving DecidableEq

def ResolvedSigil.report (sigil : ResolvedSigil) : SigilReport where
  name := sigil.name
  effectClass := sigil.effectClass
  resonanceCeiling := sigil.resonanceCeiling
  contradictionSeverity := sigil.contradictionSeverity

def SigilEntry.report (contradictions : List (String × ContradictionSeverity)) (key : String) (raw : SigilEntry) :
    SigilReport where
  name := raw.name
  effectClass := raw.effectClass
  resonanceCeiling := raw.resonanceCeiling
  contradictionSeverity := contradictionSeverityForKey contradictions key raw

def CeilingValid (ceiling : ℚ) : Prop := 0 ≤ ceiling ∧ ceiling ≤ 1

instance (ceiling : ℚ) : Decidable (CeilingValid ceiling) := inferInstanceAs (Decidable (_ ∧ _))

def resolveEntry (contradictions : List (String × ContradictionSeverity)) (key : String) :
    Option SigilEntry → Except PyError SigilReport
  | none => .error (CompositionEngine.noResolution key)
  | some raw =>
      if CeilingValid raw.resonanceCeiling then .ok (raw.report contradictions key)
      else .error (invalid "Sigil" "resonance_ceiling")

def AspectSet.Sized (aspects : AspectSet) : Prop := 1 ≤ aspects.names.length ∧ aspects.names.length ≤ 3

theorem rebuild_sized (order : SetOrder) (aspects : AspectSet) : (aspects.rebuild order).Sized ↔ aspects.Sized := by
  have perm := (members_eq _ _).mp (rebuild_members order aspects)
  rw [AspectSet.Sized, AspectSet.Sized, perm.length_eq]

theorem resolved_sigil_ok (registry : AspectRegistry) (order : SetOrder) (name : String) (aspects : AspectSet)
    (effectClass : EffectClass) (resonanceCeiling : ℚ) (contradictionSeverity : ContradictionSeverity)
    (sigil : ResolvedSigil) :
    ResolvedSigil.make registry order name aspects effectClass resonanceCeiling contradictionSeverity = .ok sigil ↔
      aspects.Sized ∧ CeilingValid resonanceCeiling ∧ sigil =
        { name := name, aspects := aspects.rebuild order, effectClass := effectClass,
          resonanceCeiling := resonanceCeiling, contradictionSeverity := contradictionSeverity,
          semanticVector := fromAspects registry aspects } := by
  rw [ResolvedSigil.make, AspectSet.Sized, CeilingValid]
  split_ifs with sized range
  · simp [sized, range, eq_comm]
  · simp [range]
  · simp [sized]

theorem sigil_make_report (registry : AspectRegistry) (order : SetOrder) (key : String) (aspects : AspectSet)
    (sized : aspects.Sized) (contradictions : List (String × ContradictionSeverity)) (raw : SigilEntry) :
    (ResolvedSigil.make registry order raw.name aspects raw.effectClass raw.resonanceCeiling
      (contradictionSeverityForKey contradictions key raw)).map ResolvedSigil.report =
        resolveEntry contradictions key (some raw) := by
  have size : 1 ≤ aspects.names.length ∧ aspects.names.length ≤ 3 := sized
  rw [ResolvedSigil.make, if_pos size, resolveEntry]
  by_cases range : 0 ≤ raw.resonanceCeiling ∧ raw.resonanceCeiling ≤ 1
  · have valid : CeilingValid raw.resonanceCeiling := range
    rw [if_pos range, if_pos valid]
    rfl
  · have notValid : ¬ CeilingValid raw.resonanceCeiling := range
    rw [if_neg range, if_neg notValid]
    rfl

theorem compose_report (engine : CompositionEngine) (registry : AspectRegistry) (order : SetOrder)
    (aspects : AspectSet) (sized : aspects.Sized) :
    (engine.compose registry order aspects).map ResolvedSigil.report =
      resolveEntry engine.contradictions (canonicalAspectKey registry aspects)
        (engine.entry? (canonicalAspectKey registry aspects)) := by
  have notEmpty : ¬ aspects.names.length < 1 := by
    have least := sized.1
    omega
  have notMany : ¬ 3 < aspects.names.length := by
    have most := sized.2
    omega
  rw [CompositionEngine.compose, if_neg notEmpty, if_neg notMany]
  cases held : engine.entry? (canonicalAspectKey registry aspects) with
  | none =>
      simp only [held]
      rfl
  | some raw =>
      simp only [held]
      exact sigil_make_report registry order _ aspects sized engine.contradictions raw

theorem compose_unsized (engine other : CompositionEngine) (registry : AspectRegistry) (order otherOrder : SetOrder)
    (aspects again : AspectSet) (same : aspects.names.length = again.names.length) (unsized : ¬ aspects.Sized) :
    (engine.compose registry order aspects).map ResolvedSigil.report =
      (other.compose registry otherOrder again).map ResolvedSigil.report := by
  rw [CompositionEngine.compose, CompositionEngine.compose, ← same]
  by_cases empty : aspects.names.length < 1
  · rw [if_pos empty, if_pos empty]
  · have many : 3 < aspects.names.length := by
      by_contra few
      exact unsized ⟨by omega, by omega⟩
    rw [if_neg empty, if_neg empty, if_pos many, if_pos many]

theorem resolve_entry_eq (contradictions : List (String × ContradictionSeverity)) (key : String)
    (a b : Option SigilEntry) (validA : ∀ raw ∈ a, CeilingValid raw.resonanceCeiling) (some : a ≠ none)
    (same : resolveEntry contradictions key a = resolveEntry contradictions key b) :
    a.map (SigilEntry.report contradictions key) = b.map (SigilEntry.report contradictions key) := by
  cases a with
  | none => exact absurd rfl some
  | some raw =>
      rw [resolveEntry, if_pos (validA raw rfl)] at same
      cases b with
      | none => cases same
      | some other =>
          rw [resolveEntry] at same
          split_ifs at same
          exact congrArg Option.some (Except.ok.inj same)

theorem resolve_entry_report (contradictions : List (String × ContradictionSeverity)) (key : String)
    (a b : Option SigilEntry)
    (same : a.map (SigilEntry.report contradictions key) = b.map (SigilEntry.report contradictions key)) :
    resolveEntry contradictions key a = resolveEntry contradictions key b := by
  cases a with
  | none =>
      rw [Option.map_none, eq_comm, Option.map_eq_none_iff] at same
      rw [same]
  | some raw =>
      cases b with
      | none => cases same
      | some other =>
          have reports := Option.some.inj same
          have ceilings : raw.resonanceCeiling = other.resonanceCeiling := congrArg SigilReport.resonanceCeiling reports
          rw [resolveEntry, resolveEntry, reports, ceilings]

theorem register_sigil_entry_ok (engine after : CompositionEngine) (registry : AspectRegistry) (aspects : AspectSet)
    (entry : SigilEntry) (allowOverride : Bool) :
    engine.registerSigilEntry registry aspects entry allowOverride = .ok after ↔
      (allowOverride = true ∨ ¬ engine.table.Has (canonicalAspectKey registry aspects)) ∧
        after = { engine with
          table := engine.table.upsert { key := canonicalAspectKey registry aspects, entry := entry } } := by
  rw [CompositionEngine.registerSigilEntry]
  by_cases taken : engine.table.Has (canonicalAspectKey registry aspects)
  · cases allowOverride with
    | true => simp [eq_comm]
    | false => simp [taken]
  · simp [taken, eq_comm]

def AspectRegistry.Distinct (registry : AspectRegistry) : Prop := registry.names.Nodup

theorem canonical_key_names (registry after : AspectRegistry) (same : after.names = registry.names) :
    canonicalAspectKey after = canonicalAspectKey registry := by
  funext aspects
  rw [canonicalAspectKey, canonicalAspectKey, same]

theorem canonical_key_known (registry : AspectRegistry) (aspects : AspectSet)
    (known : ∀ name ∈ aspects.names, name ∈ registry.names) :
    canonicalAspectKey registry aspects = "+".intercalate (registry.names.filter fun name => name ∈ aspects.names) := by
  have none : (aspects.names.filter fun name => name ∉ registry.names) = [] := by
    rw [List.filter_eq_nil_iff]
    intro name member unknown
    exact of_decide_eq_true unknown (known name member)
  rw [canonicalAspectKey, none, List.append_nil]

theorem canonical_key_members (registry : AspectRegistry) (a b : AspectSet) (same : a.members = b.members)
    (known : ∀ name ∈ a.names, name ∈ registry.names) :
    canonicalAspectKey registry a = canonicalAspectKey registry b := by
  have perm := (members_eq a b).mp same
  have knownB : ∀ name ∈ b.names, name ∈ registry.names := fun name member => known name (perm.mem_iff.mpr member)
  rw [canonical_key_known registry a known, canonical_key_known registry b knownB]
  congr 1
  refine List.filter_congr fun name _ => ?_
  rw [decide_eq_decide]
  exact perm.mem_iff

theorem canonical_key_extend (registry after : AspectRegistry) (later : List String)
    (names : after.names = registry.names ++ later) (distinct : after.Distinct) (aspects : AspectSet)
    (known : ∀ name ∈ aspects.names, name ∈ registry.names) :
    canonicalAspectKey after aspects = canonicalAspectKey registry aspects := by
  have knownAfter : ∀ name ∈ aspects.names, name ∈ after.names := by
    intro name member
    rw [names]
    exact List.mem_append_left _ (known name member)
  have newOnly : (later.filter fun name => name ∈ aspects.names) = [] := by
    rw [List.filter_eq_nil_iff]
    intro name isLater inSet
    rw [AspectRegistry.Distinct, names, List.nodup_append] at distinct
    exact distinct.2.2 name (known name (of_decide_eq_true inSet)) name isLater rfl
  rw [canonical_key_known registry aspects known, canonical_key_known after aspects knownAfter, names,
    List.filter_append, newOnly, List.append_nil]

end Vermyth
