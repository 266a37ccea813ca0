import Mathlib.Data.List.Chain
import Vermyth.Engine.BasisExtension
import Vermyth.Engine.Causal
import Vermyth.Engine.Projection

set_option autoImplicit false

namespace Vermyth

open Foundation

theorem anchor_canonical (order : SetOrder) (composition : CompositionEngine) (anchor : Anchor)
    (member : anchor ∈ anchors order composition) : anchor.aspects.Canonical := by
  obtain ⟨slot, -, made⟩ := List.mem_filterMap.mp member
  obtain ⟨ids, found, rfl⟩ := Option.map_eq_some_iff.mp made
  intro name walked
  have named := List.mem_dedup.mp ((order.permutes (ids.map AspectID.name)).mem_iff.mp walked)
  obtain ⟨id, isId, rfl⟩ := List.mem_map.mp named
  have ordered := List.mem_of_find?_eq_some found
  exact List.any_eq_true.mpr ⟨id, (List.mem_sublists.mp ordered).subset isId, decide_eq_true rfl⟩

theorem union_canonical (order : SetOrder) (best : Weighted) (neighbors : List Weighted) (member : best ∈ neighbors)
    (canonical : ∀ neighbor ∈ neighbors, neighbor.scored.anchor.aspects.Canonical) :
    (unionAspects order best neighbors).Canonical := by
  rw [unionAspects]
  by_cases many : 3 < (AspectSet.build order
      (neighbors.flatMap fun neighbor => neighbor.scored.anchor.aspects.names)).names.length
  · simpa only [if_pos many] using canonical best member
  · simp only [if_neg many]
    intro name walked
    have named := List.mem_dedup.mp ((order.permutes _).mem_iff.mp walked)
    obtain ⟨neighbor, isNeighbor, own⟩ := List.mem_flatMap.mp named
    exact canonical neighbor isNeighbor name own

theorem rebuild_canonical (order : SetOrder) (aspects : AspectSet) (canonical : aspects.Canonical) :
    (aspects.rebuild order).Canonical := by
  intro name walked
  exact canonical name (List.mem_dedup.mp ((order.permutes aspects.names).mem_iff.mp walked))

structure Interpolated (engine : ResonanceEngine) (sigil : ResolvedSigil) : Prop where
  canonical : sigil.aspects.Canonical
  basis : sigil.semanticVector.normalizedBasisVersion = engine.registry.basisVersion

theorem interpolated (engine : ResonanceEngine) (vector : SemanticVector) (sigil : FluidSigil)
    (made : engine.interpolate vector 3 = .ok sigil) : Interpolated engine sigil.toResolvedSigil := by
  obtain ⟨-, basis, best, chosen, made⟩ := interpolate_found engine vector 3 sigil made
  obtain ⟨-, rfl⟩ := (fluid_sigil_fields engine _ _ best _ sigil).mp made
  refine ⟨?_, basis⟩
  apply rebuild_canonical
  apply union_canonical engine.order best _ (List.argmax_mem chosen)
  exact fun neighbor member => anchor_canonical _ _ _ (neighbor_anchor engine vector 3 neighbor member).2

theorem fluid_cast_ok (engine : ResonanceEngine) (vector : SemanticVector) (intent : Intent) (stamp : CastStamp)
    (result : CastRecord) (cast : engine.fluidCast vector intent stamp = .ok result) :
    result.castId = stamp.castId ∧ result.lineage = none ∧ Interpolated engine result.sigil := by
  obtain ⟨sigil, made, rest⟩ := (bind_ok _ _ _).mp cast
  obtain rfl := Except.ok.inj rest
  exact ⟨rfl, rfl, interpolated engine vector sigil made⟩

def ChildOf (parent child : CastRecord) : Prop :=
  ∀ lineage ∈ child.lineage, lineage.parentCastId = parent.castId ∧ lineage.depth = lineageDepth parent.result

theorem with_lineage_child (base parent : CastRecord) (branchId : String) :
    ChildOf parent (base.withLineage parent branchId) := by
  intro lineage named
  obtain ⟨own, isOwn, parentId, depth⟩ := with_lineage base parent branchId
  rw [isOwn] at named
  obtain rfl := Option.some.inj named
  exact ⟨parentId, depth⟩

structure ChainOf (engine : ResonanceEngine) (stamps : ChainStamps) (chain : List CastRecord) : Prop where
  root : ∀ first ∈ chain.head?, first.lineage = none
  linked : chain.IsChain ChildOf
  interpolated : ∀ result ∈ chain, Interpolated engine result.sigil
  drawn : ∀ result ∈ chain, ∃ index, result.castId = (stamps.cast index).castId

theorem chain_nil (engine : ResonanceEngine) (stamps : ChainStamps) : ChainOf engine stamps [] where
  root := fun _ isFirst => absurd isFirst (Option.not_mem_none _)
  linked := List.isChain_nil
  interpolated := fun _ member => absurd member List.not_mem_nil
  drawn := fun _ member => absurd member List.not_mem_nil

theorem chain_more (engine : ResonanceEngine) (stamps : ChainStamps) (chain : List CastRecord)
    (holds : ChainOf engine stamps chain) (vector : SemanticVector) (intent : Intent) (base : CastRecord)
    (cast : engine.fluidCast vector intent (stamps.cast chain.length) = .ok base) :
    ChainOf engine stamps (chain ++ [ResonanceEngine.chainResult base chain stamps.branchId]) := by
  obtain ⟨isDrawn, noLineage, made⟩ := fluid_cast_ok engine vector intent _ base cast
  cases last : chain.getLast? with
  | none =>
      obtain rfl := List.getLast?_eq_none_iff.mp last
      rw [ResonanceEngine.chainResult, last]
      exact
        { root := fun first isFirst => Option.some.inj isFirst ▸ noLineage
          linked := List.isChain_singleton base
          interpolated := fun result member => List.mem_singleton.mp member ▸ made
          drawn := by
            intro result member
            rw [List.mem_singleton.mp member]
            exact ⟨_, isDrawn⟩ }
  | some parent =>
      rw [ResonanceEngine.chainResult, last]
      have some : chain ≠ [] := by
        rintro rfl
        contradiction
      refine ⟨?_, ?_, ?_, ?_⟩
      · intro first isFirst
        rw [List.head?_append_of_ne_nil _ some] at isFirst
        exact holds.root first isFirst
      · refine List.isChain_append.mpr ⟨holds.linked, List.isChain_singleton _, ?_⟩
        intro above isLast child isChild
        rw [last] at isLast
        obtain rfl := Option.some.inj isLast
        obtain rfl := Option.some.inj isChild
        exact with_lineage_child base parent stamps.branchId
      · intro result member
        rcases List.mem_append.mp member with old | new
        · exact holds.interpolated result old
        · rw [List.mem_singleton.mp new]
          exact made
      · intro result member
        rcases List.mem_append.mp member with old | new
        · exact holds.drawn result old
        · rw [List.mem_singleton.mp new]
          exact ⟨_, isDrawn⟩

theorem auto_rounds_chain (engine : ResonanceEngine) (intent : Intent) (targetResonance blendAlpha : ℚ)
    (stamps : ChainStamps) (rounds : Nat) (vector : SemanticVector) (chain longer : List CastRecord)
    (holds : ChainOf engine stamps chain)
    (went : engine.autoRounds intent targetResonance blendAlpha stamps rounds vector chain = .ok longer) :
    ChainOf engine stamps longer := by
  induction rounds generalizing vector chain with
  | zero =>
      obtain rfl := Except.ok.inj went
      exact holds
  | succ rounds ih =>
      obtain ⟨base, cast, went⟩ := (bind_ok _ _ _).mp went
      have more := chain_more engine stamps chain holds vector intent base cast
      by_cases reaches :
          (ResonanceEngine.chainResult base chain stamps.branchId).verdict.Reaches targetResonance
      · simp only [if_pos reaches] at went
        obtain rfl := Except.ok.inj went
        exact more
      · simp only [if_neg reaches] at went
        obtain ⟨fluid, -, went⟩ := (bind_ok _ _ _).mp went
        exact ih _ _ more went

theorem auto_cast_chain (engine : ResonanceEngine) (vector : SemanticVector) (intent : Intent) (maxDepth : Int)
    (targetResonance blendAlpha : ℚ) (stamps : ChainStamps) (final : CastRecord) (chain : List CastRecord)
    (cast : engine.autoCast vector intent maxDepth targetResonance blendAlpha stamps = .ok (final, chain)) :
    ChainOf engine stamps chain ∧ final ∈ chain := by
  obtain ⟨own, went, rest⟩ := (bind_ok _ _ _).mp cast
  have holds := auto_rounds_chain engine intent targetResonance blendAlpha stamps _ vector [] own
    (chain_nil engine stamps) went
  cases last : own.getLast? with
  | none =>
      simp only [last] at rest
      contradiction
  | some result =>
      simp only [last] at rest
      obtain ⟨rfl, rfl⟩ := Prod.mk.inj (Except.ok.inj rest)
      exact ⟨holds, List.mem_of_getLast? last⟩

def ResonanceEngine.FirstReaches (engine : ResonanceEngine) (vector : SemanticVector) (intent : Intent)
    (targetResonance : ℚ) (stamps : ChainStamps) : Prop :=
  ∀ first, engine.fluidCast vector intent (stamps.cast 0) = .ok first → first.verdict.Reaches targetResonance

theorem auto_cast_first (engine : ResonanceEngine) (vector : SemanticVector) (intent : Intent) (maxDepth : Int)
    (targetResonance blendAlpha : ℚ) (stamps : ChainStamps) (final : CastRecord) (chain : List CastRecord)
    (reaches : engine.FirstReaches vector intent targetResonance stamps)
    (cast : engine.autoCast vector intent maxDepth targetResonance blendAlpha stamps = .ok (final, chain)) :
    final.lineage = none := by
  obtain ⟨own, went, rest⟩ := (bind_ok _ _ _).mp cast
  cases rounds : maxDepth.toNat with
  | zero =>
      rw [rounds] at went
      obtain rfl := Except.ok.inj went
      contradiction
  | succ later =>
      rw [rounds] at went
      obtain ⟨base, first, went⟩ := (bind_ok _ _ _).mp went
      have done : (ResonanceEngine.chainResult base [] stamps.branchId).verdict.Reaches targetResonance :=
        reaches base first
      simp only [if_pos done] at went
      obtain rfl := Except.ok.inj went
      obtain ⟨rfl, -⟩ := Prod.mk.inj (Except.ok.inj rest)
      exact (fluid_cast_ok engine vector intent _ base first).2.1

theorem predictive_cast_ok (engine : ResonanceEngine) (graph : CausalSubgraph) (intent : Intent)
    (stamps : ChainStamps) (result : CastRecord) (cast : engine.predictiveCast graph intent stamps = .ok result) :
    ∃ target chain, engine.interpolate (engine.intentVector intent).vector 3 = .ok target ∧
      engine.autoCast
        (engine.blendToward (engine.intentVector intent).vector target.semanticVector
          (1 / 10 + 4 / 10 * graph.narrativeCoherence))
        intent 4 (max (65 / 100) graph.narrativeCoherence) (35 / 100) stamps = .ok (result, chain) := by
  obtain ⟨target, made, cast⟩ := (bind_ok _ _ _).mp cast
  obtain ⟨⟨final, chain⟩, went, cast⟩ := (bind_ok _ _ _).mp cast
  obtain rfl := Except.ok.inj cast
  exact ⟨target, chain, made, went⟩

end Vermyth
