import Vermyth.Casting.Fallback
import Vermyth.Foundation.Ranked
import Vermyth.Typescript.VerdictAgreement

set_option autoImplicit false

namespace Vermyth.Typescript

open Foundation

structure AspectsPort (registry : AspectRegistry) (aspects : List Aspect) (own : AspectSet) : Prop where
  names : (aspects.map Aspect.name).Perm own.names
  known : ∀ aspect ∈ aspects, aspect ∈ registry.fullOrder

structure SigilPorts (sigil : Sigil) (own : ResolvedSigil) : Prop where
  name : sigil.name = own.name
  aspects : (sigil.aspects.map Aspect.name).Perm own.aspects.names
  effectClass : sigil.effectClass = own.effectClass
  resonanceCeiling : sigil.resonanceCeiling = own.resonanceCeiling
  contradictionSeverity : sigil.contradictionSeverity = own.contradictionSeverity
  semanticVector : VectorPorts sigil.semanticVector own.semanticVector

theorem sigil_face (sigil : Sigil) (own : ResolvedSigil) (ports : SigilPorts sigil own) : FacePorts sigil own.face :=
  ⟨ports.name, ports.contradictionSeverity, ports.resonanceCeiling, ports.semanticVector⟩

def CeilingsValid (table : SigilTable) : Prop := ∀ slot ∈ table.rows, CeilingValid slot.entry.resonanceCeiling

def traitComponent (names : List String) (traits : String × Int × ℚ) : ℚ :=
  if traits.1 ∈ names then traits.2.2 * (if traits.2.1 = 1 then 1 else -1) else 0

section Compose

variable (registry : AspectRegistry) (own : Vermyth.AspectRegistry) (ports : RegistryPorts registry own)

include ports

theorem names_same : registry.fullOrder.map Aspect.name = own.names := by
  have traits := congrArg (List.map Prod.fst) (full_order_traits registry own ports)
  rw [List.map_map, List.map_map] at traits
  exact traits

theorem known_names (aspects : List Aspect) (set : AspectSet) (aspectPorts : AspectsPort registry aspects set) :
    ∀ name ∈ set.names, name ∈ own.names := by
  intro name member
  obtain ⟨aspect, isAspect, rfl⟩ := List.mem_map.mp (aspectPorts.names.mem_iff.mpr member)
  rw [← names_same registry own ports]
  exact List.mem_map_of_mem (aspectPorts.known aspect isAspect)

theorem key_same (aspects : List Aspect) (set : AspectSet) (aspectPorts : AspectsPort registry aspects set) :
    canonicalAspectKey registry aspects = Vermyth.canonicalAspectKey own set := by
  have known := known_names registry own ports aspects set aspectPorts
  have distinct : own.names.Nodup := ports.distinct
  have nodup : (aspects.map Aspect.name).Nodup := aspectPorts.names.nodup_iff.mpr set.distinct
  have knownHere : ∀ name ∈ aspects.map Aspect.name, name ∈ own.names :=
    fun name member => known name (aspectPorts.names.mem_iff.mp member)
  have sorted := Ranked.sort_by_place own.names (aspects.map Aspect.name) distinct nodup knownHere
  have named := List.map_insertionSort
    (fun a b : Aspect => own.names.idxOf a.name ≤ own.names.idxOf b.name)
    (fun a b : String => own.names.idxOf a ≤ own.names.idxOf b) Aspect.name aspects fun _ _ _ _ => Iff.rfl
  rw [canonical_key_known own set known, canonicalAspectKey, joinPlus]
  simp only [names_same registry own ports]
  rw [named, sorted]
  congr 1
  refine List.filter_congr fun name _ => ?_
  rw [decide_eq_decide]
  exact aspectPorts.names.mem_iff

theorem aspects_vector (aspects : List Aspect) (set : AspectSet) (names : (aspects.map Aspect.name).Perm set.names) :
    ∃ vector, semanticVectorFromAspects registry aspects = .ok vector ∧ VectorPorts vector (fromAspects own set) := by
  have long : 6 ≤ (registry.fullOrder.map (aspectComponent aspects)).length := by
    rw [List.length_map]
    exact full_order_six registry
  refine ⟨_, create_vector_ok _ _ long, ?_, congrArg some ports.basisVersion⟩
  have traits := congrArg (List.map (traitComponent set.names)) (full_order_traits registry own ports)
  rw [List.map_map, List.map_map] at traits
  refine Eq.trans (List.map_congr_left fun aspect _ => ?_) traits
  simp only [aspectComponent, names.mem_iff]
  rfl

end Compose

theorem severity_same (contradictions : List (String × Contradiction)) (own : List (String × ContradictionSeverity))
    (ports : ContradictionsPort contradictions own) (key : String) (raw : SigilEntry) :
    severityForKey contradictions key raw = contradictionSeverityForKey own key raw := by
  have lookups := ports.severity key
  rw [severityForKey, contradictionSeverityForKey]
  cases raw.contradictionSeverity with
  | none => exact lookups
  | some severity => rfl

structure AnchorPorts (anchor : Anchor) (own : Vermyth.Anchor) : Prop where
  key : anchor.key = own.key
  raw : anchor.raw = own.raw
  canonical : ∀ aspect ∈ anchor.aspects, aspect ∈ canonicalAspects
  distinct : anchor.aspects.Nodup
  members : ∀ name, name ∈ anchor.aspects.map Aspect.name ↔ name ∈ own.aspects.names
  some : 1 ≤ own.aspects.names.length
  valid : CeilingValid own.raw.resonanceCeiling

structure ScoredPorts (scored : Scored) (own : Vermyth.Scored) : Prop where
  sim : scored.sim = own.similarity
  anchor : AnchorPorts scored.anchor own.anchor

structure WeightedPorts (weighted : Weighted) (own : Vermyth.Weighted) : Prop where
  weight : weighted.weight = own.weight
  scored : ScoredPorts weighted.scored own.scored

structure FluidPorts (sigil : Sigil) (own : Vermyth.FluidSigil) : Prop where
  resolved : SigilPorts sigil own.toResolvedSigil
  parts : ∃ parts, sigil.fluid = some parts ∧ parts.nearestCanonical = own.nearestCanonical ∧
    VectorPorts parts.sourceVector own.sourceVector

theorem canonical_name_injective (a b : Aspect) (left : a ∈ canonicalAspects) (right : b ∈ canonicalAspects)
    (same : a.name = b.name) : a = b := by
  have each : ∀ a ∈ canonicalAspects, ∀ b ∈ canonicalAspects, a.name = b.name → a = b := by decide +kernel
  exact each a left b right same

theorem names_perm (aspects : List Aspect) (canonical : ∀ aspect ∈ aspects, aspect ∈ canonicalAspects)
    (distinct : aspects.Nodup) (set : AspectSet)
    (members : ∀ name, name ∈ aspects.map Aspect.name ↔ name ∈ set.names) :
    (aspects.map Aspect.name).Perm set.names := by
  have nodup := distinct.map_on fun a left b right =>
    canonical_name_injective a b (canonical a left) (canonical b right)
  exact (List.perm_ext_iff_of_nodup nodup set.distinct).mpr members

theorem canonical_of_member (id : AspectID) : canonicalOf id ∈ canonicalAspects := by
  cases id <;> decide +kernel

theorem canonical_of_name (id : AspectID) : (canonicalOf id).name = id.name := by
  cases id <;> rfl

theorem softmax_same (math : VectorMath) (sims : List ℚ) : softmax math sims = Vermyth.softmax math sims := by
  cases sims with
  | nil => rfl
  | cons first rest =>
      have positive : 0 < ((first :: rest).map fun sim => math.exp (sim - (first :: rest).max?.getD 0)).sum := by
        refine weights_sum_pos _ (by simp) fun weight member => ?_
        obtain ⟨sim, -, rfl⟩ := List.mem_map.mp member
        exact math.expPos _
      simp only [softmax, Vermyth.softmax, shares, ← List.sum_eq_foldl, if_neg positive.ne']

section Neighbors

variable (neighbors : List Weighted) (owns : List Vermyth.Weighted)
  (each : List.Forall₂ WeightedPorts neighbors owns)

include each

theorem ceiling_same : meanCeiling neighbors = Vermyth.meanCeiling owns := by
  rw [meanCeiling, fold_sum, mean_ceiling_map]
  congr 1
  refine related_map WeightedPorts _ _ (fun weighted own ports => ?_) neighbors owns each
  rw [ports.weight, ports.scored.anchor.raw]

theorem severities_same (contradictions : List (String × Contradiction)) (composition : Vermyth.CompositionEngine)
    (ports : ContradictionsPort contradictions composition.contradictions) :
    worstSeverity contradictions neighbors = Vermyth.worstSeverity composition owns := by
  refine List.rel_foldl (P := Eq) (R := WeightedPorts) ?_ rfl each
  rintro worst _ rfl weighted own weightedPorts
  simp only [severity_same contradictions composition.contradictions ports, weightedPorts.weight,
    weightedPorts.scored.anchor.key, weightedPorts.scored.anchor.raw]
  by_cases counts : 1 / 10 < own.weight
  · simp only [counts, if_true, true_and]
  · simp only [counts, if_false, false_and]

theorem neighbor_aspects_canonical (aspect : Aspect)
    (member : aspect ∈ neighbors.flatMap fun neighbor => neighbor.scored.anchor.aspects) :
    aspect ∈ canonicalAspects := by
  induction each with
  | nil => exact absurd member List.not_mem_nil
  | cons first _ ih =>
      rw [List.flatMap_cons, List.mem_append] at member
      obtain own | later := member
      · exact first.scored.anchor.canonical aspect own
      · exact ih later

theorem neighbor_names (name : String) :
    name ∈ (neighbors.flatMap fun neighbor => neighbor.scored.anchor.aspects).map Aspect.name ↔
      name ∈ owns.flatMap fun neighbor => neighbor.scored.anchor.aspects.names := by
  induction each with
  | nil => rfl
  | cons first _ ih =>
      rw [List.flatMap_cons, List.flatMap_cons, List.map_append, List.mem_append, List.mem_append, ih,
        first.scored.anchor.members name]

theorem union_perm (order : SetOrder) (best : Weighted) (bestOwn : Vermyth.Weighted)
    (bestPorts : WeightedPorts best bestOwn) :
    ((unionAspects best neighbors).map Aspect.name).Perm (Vermyth.unionAspects order bestOwn owns).names := by
  have anchorPorts := bestPorts.scored.anchor
  have whole : ((newSet (neighbors.flatMap fun neighbor => neighbor.scored.anchor.aspects)).map Aspect.name).Perm
      (AspectSet.build order (owns.flatMap fun neighbor => neighbor.scored.anchor.aspects.names)).names := by
    refine names_perm _ (fun aspect member => ?_) (new_set_nodup _) _ fun name => ?_
    · exact neighbor_aspects_canonical neighbors owns each aspect ((mem_new_set _ _).mp member)
    · have walked : name ∈ (AspectSet.build order
          (owns.flatMap fun neighbor => neighbor.scored.anchor.aspects.names)).names ↔
            name ∈ owns.flatMap fun neighbor => neighbor.scored.anchor.aspects.names := by
        rw [AspectSet.build, (order.permutes _).mem_iff, List.mem_dedup]
      rw [walked, ← neighbor_names neighbors owns each name]
      simp only [List.mem_map, mem_new_set]
  have size := whole.length_eq
  rw [List.length_map] at size
  rw [unionAspects, Vermyth.unionAspects, size]
  by_cases many : 3 < (AspectSet.build order
      (owns.flatMap fun neighbor => neighbor.scored.anchor.aspects.names)).names.length
  · simp only [if_pos many, new_set_distinct _ anchorPorts.distinct]
    exact names_perm _ anchorPorts.canonical anchorPorts.distinct _ anchorPorts.members
  · simp only [if_neg many]
    exact whole

theorem ceilings_valid : ∀ own ∈ owns, CeilingValid own.scored.anchor.raw.resonanceCeiling := by
  induction each with
  | nil => exact fun own member => absurd member List.not_mem_nil
  | cons first _ ih => exact List.forall_mem_cons.mpr ⟨first.scored.anchor.valid, ih⟩

end Neighbors

theorem anchor_ports (order : SetOrder) (slot : SigilSlot) (valid : CeilingValid slot.entry.resonanceCeiling) :
    Option.Rel AnchorPorts (anchorOf slot) (Vermyth.anchorOf order slot) := by
  rw [anchorOf, Vermyth.anchorOf]
  cases found : anchorAspects slot.key with
  | none => exact .none
  | some ids =>
      have chosen := found
      rw [anchorAspects] at chosen
      have joined := List.find?_some chosen
      have nonempty : ids ≠ [] := (of_decide_eq_true joined).1
      have walked : ∀ name, name ∈ (AspectSet.build order (ids.map AspectID.name)).names ↔
          name ∈ ids.map AspectID.name := by
        intro name
        rw [AspectSet.build, (order.permutes _).mem_iff, List.mem_dedup]
      obtain ⟨id, isId⟩ := List.exists_mem_of_ne_nil ids nonempty
      refine .some ⟨rfl, rfl, fun aspect member => ?_, new_set_nodup _, fun name => ?_, ?_, valid⟩
      · obtain ⟨own, -, rfl⟩ := List.mem_map.mp ((mem_new_set _ _).mp member)
        exact canonical_of_member own
      · rw [walked]
        simp only [List.mem_map, mem_new_set, exists_exists_and_eq_and, canonical_of_name]
      · exact List.length_pos_of_mem ((walked id.name).mpr (List.mem_map_of_mem isId))

section Casts

variable (engine : ResonanceEngine) (own : Vermyth.ResonanceEngine) (ports : EnginePorts engine own)
  (ceilings : CeilingsValid own.composition.table)

include ports

include ceilings in
theorem compose_alike (aspects : List Aspect) (distinct : aspects.Nodup) (set : AspectSet)
    (aspectPorts : AspectsPort engine.registry aspects set) :
    Agreeing SigilPorts (engine.compose aspects distinct) (own.composition.compose own.registry own.order set) := by
  have lengths : aspects.length = set.names.length := by
    rw [← aspectPorts.names.length_eq, List.length_map]
  have key := key_same engine.registry own.registry ports.registry aspects set aspectPorts
  rw [ResonanceEngine.compose, Vermyth.CompositionEngine.compose, lengths]
  by_cases empty : set.names.length < 1
  · rw [if_pos empty, if_pos empty]
    exact .error _ _
  · by_cases many : 3 < set.names.length
    · rw [if_neg empty, if_neg empty, if_pos many, if_pos many]
      exact .error _ _
    · simp only [if_neg empty, if_neg many, key, ports.table, Vermyth.CompositionEngine.entry?]
      cases found : own.composition.table.find? (Vermyth.canonicalAspectKey own.registry set) with
      | none => exact .error _ _
      | some slot =>
          have valid := ceilings slot (own.composition.table.find_mem _ slot found)
          have sized : set.Sized := ⟨Nat.not_lt.mp empty, Nat.not_lt.mp many⟩
          have made := (resolved_sigil_ok own.registry own.order slot.entry.name set slot.entry.effectClass
            slot.entry.resonanceCeiling (contradictionSeverityForKey own.composition.contradictions
              (Vermyth.canonicalAspectKey own.registry set) slot.entry) _).mpr ⟨sized, valid, rfl⟩
          obtain ⟨vector, built, vectorPorts⟩ :=
            aspects_vector engine.registry own.registry ports.registry aspects set aspectPorts.names
          have severity := severity_same engine.composition.contradictions own.composition.contradictions
            ports.contradictions (Vermyth.canonicalAspectKey own.registry set) slot.entry
          simp only [Option.map_some, made, buildSigil, built, bind, Except.bind, severity]
          refine .ok _ _ ⟨rfl, ?_, rfl, rfl, rfl, vectorPorts⟩
          exact aspectPorts.names.trans ((members_eq _ _).mp (rebuild_members own.order set)).symm

theorem score_alike (vec : SemanticVector) (vecOwn : Vermyth.SemanticVector) (vectors : VectorPorts vec vecOwn)
    (anchor : Anchor) (anchorOwn : Vermyth.Anchor) (anchorPorts : AnchorPorts anchor anchorOwn) :
    Agreeing ScoredPorts (scoreAnchor engine.math engine.registry vec anchor)
      (Vermyth.scoreAnchor own.math own.registry vecOwn anchorOwn) := by
  have names := names_perm _ anchorPorts.canonical anchorPorts.distinct _ anchorPorts.members
  obtain ⟨vector, made, vectorPorts⟩ := aspects_vector engine.registry own.registry ports.registry _ _ names
  rw [scoreAnchor, made, ports.math]
  refine alike_bind Eq ScoredPorts _ _ _ _ (cosine_alike own.math vector vec _ vecOwn vectorPorts vectors) ?_
  rintro sim _ rfl
  exact .ok _ _ ⟨rfl, anchorPorts⟩

include ceilings in
theorem anchors_port :
    List.Forall₂ AnchorPorts (anchors engine.composition) (Vermyth.anchors own.order own.composition) := by
  rw [anchors, Vermyth.anchors, ports.table]
  refine List.rel_filterMap (R := fun slot other => slot = other ∧ slot ∈ own.composition.table.rows) ?_ ?_
  · rintro slot _ ⟨rfl, member⟩
    exact anchor_ports own.order slot (ceilings slot member)
  · exact List.forall₂_same.mpr fun slot member => ⟨rfl, member⟩

theorem neighbors_port (k : Nat) (scored : List Scored) (scoredOwn : List Vermyth.Scored)
    (each : List.Forall₂ ScoredPorts scored scoredOwn) :
    List.Forall₂ WeightedPorts (weighNeighbors engine.math (nearest k scored))
      (Vermyth.weighNeighbors own.math (Vermyth.nearest k scoredOwn)) := by
  have near : List.Forall₂ ScoredPorts (nearest k scored) (Vermyth.nearest k scoredOwn) := by
    refine List.forall₂_take k (related_insertion_sort ScoredPorts _ _ ?_ scored scoredOwn each)
    intro a b c d left right
    rw [left.sim, right.sim]
  have sims : (nearest k scored).map Scored.sim = (Vermyth.nearest k scoredOwn).map Vermyth.Scored.similarity :=
    related_map ScoredPorts _ _ (fun _ _ ports => ports.sim) _ _ near
  rw [weighNeighbors, Vermyth.weighNeighbors, sims, softmax_same, ports.math]
  exact related_zip_with ScoredPorts WeightedPorts _ _ (fun _ _ _ ports => ⟨rfl, ports⟩) _ _ near _

theorem normalize_ports (vector : SemanticVector) (vectorOwn : Vermyth.SemanticVector)
    (vectors : VectorPorts vector vectorOwn) : ∃ vec, normalizeForComposition engine.math vector = .ok vec ∧
      VectorPorts vec (Vermyth.CompositionEngine.normalizeUnit own.math vectorOwn) := by
  rw [normalizeForComposition, unit_same, ports.math, vectors.components]
  refine ⟨_, create_vector_ok _ _ ?_, rfl, vectors.basisVersion⟩
  rw [unit_components_length]
  exact vectorOwn.atLeastSix

theorem fluid_ports (vector vec : SemanticVector) (vectorOwn vecOwn : Vermyth.SemanticVector)
    (vectors : VectorPorts vector vectorOwn) (vecs : VectorPorts vec vecOwn) (best : Weighted)
    (bestOwn : Vermyth.Weighted) (bestPorts : WeightedPorts best bestOwn) (neighbors : List Weighted)
    (near : List Vermyth.Scored) (each : List.Forall₂ WeightedPorts neighbors (Vermyth.weighNeighbors own.math near))
    (member : bestOwn ∈ Vermyth.weighNeighbors own.math near) :
    ∃ sigil, FluidSigil.make own vectorOwn vecOwn bestOwn (Vermyth.weighNeighbors own.math near) = .ok sigil ∧
      FluidPorts (buildFluidSigil engine vector vec best neighbors) sigil := by
  have nonempty : near ≠ [] := by
    rintro rfl
    exact absurd member List.not_mem_nil
  have some := union_names own.order bestOwn _ member bestPorts.scored.anchor.some
  have valid := mean_ceiling_valid own near nonempty (ceilings_valid neighbors _ each)
  have union := union_perm neighbors _ each own.order best bestOwn bestPorts
  refine ⟨_, (fluid_sigil_fields own vectorOwn vecOwn bestOwn _ _).mpr ⟨⟨some, valid⟩, rfl⟩, ⟨?_, ?_, ?_, ?_, ?_, vecs⟩,
    ⟨_, rfl, ?_, vectors⟩⟩
  · exact congrArg (fun raw : SigilEntry => "Fluid:" ++ raw.name) bestPorts.scored.anchor.raw
  · exact union.trans ((members_eq _ _).mp (rebuild_members own.order _)).symm
  · exact congrArg SigilEntry.effectClass bestPorts.scored.anchor.raw
  · exact ceiling_same neighbors _ each
  · exact severities_same neighbors _ each _ own.composition ports.contradictions
  · exact congrArg SigilEntry.name bestPorts.scored.anchor.raw

include ceilings in
theorem interpolate_alike (vector : SemanticVector) (vectorOwn : Vermyth.SemanticVector)
    (vectors : VectorPorts vector vectorOwn) (k : Nat) :
    Agreeing FluidPorts (engine.interpolate vector k) (own.interpolate vectorOwn k) := by
  rw [ResonanceEngine.interpolate, Vermyth.ResonanceEngine.interpolate]
  by_cases few : k < 1
  · rw [if_pos few, if_pos few]
    exact .error _ _
  · obtain ⟨vec, normalized, vecs⟩ := normalize_ports engine own ports vector vectorOwn vectors
    have scores := alike_map_m AnchorPorts ScoredPorts _ _ (score_alike engine own ports vec _ vecs) _ _
      (anchors_port engine own ports ceilings)
    rw [if_neg few, if_neg few]
    simp only [normalized, bind, Except.bind]
    generalize (anchors engine.composition).mapM (scoreAnchor engine.math engine.registry vec) = read at scores ⊢
    generalize (Vermyth.anchors own.order own.composition).mapM (Vermyth.scoreAnchor own.math own.registry
      (Vermyth.CompositionEngine.normalizeUnit own.math vectorOwn)) = readOwn at scores ⊢
    cases scores with
    | error raised thrown => exact .error _ _
    | ok scored scoredOwn each =>
        have weighed := neighbors_port engine own ports k scored scoredOwn each
        generalize neighbors : weighNeighbors engine.math (nearest k scored) = list at weighed
        simp only [neighbors]
        cases list with
        | nil =>
            rw [List.forall₂_nil_left_iff.mp weighed]
            exact .error _ _
        | cons first rest =>
            cases owns : Vermyth.weighNeighbors own.math (Vermyth.nearest k scoredOwn) with
            | nil =>
                rw [owns] at weighed
                cases weighed
            | cons firstOwn restOwn =>
                have both := weighed
                rw [owns] at both
                cases both with
                | cons start others =>
                    have chosen := scan_best_argmax Vermyth.Weighted.weight firstOwn restOwn
                    have best := related_scan_best WeightedPorts Weighted.weight Vermyth.Weighted.weight
                      (fun _ _ weighedPorts => weighedPorts.weight) rest restOwn others first firstOwn start
                    have member := List.argmax_mem (Option.mem_def.mpr chosen)
                    rw [← owns] at member
                    obtain ⟨sigil, made, sigilPorts⟩ := fluid_ports engine own ports vector vec vectorOwn _ vectors vecs
                      _ _ best (first :: rest) _ weighed member
                    rw [owns] at made
                    simp only [chosen, made]
                    exact .ok _ _ sigilPorts

end Casts

end Vermyth.Typescript
