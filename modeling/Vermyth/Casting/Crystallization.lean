import Vermyth.Casting.ChannelRecovery
import Vermyth.Casting.Lineage
import Vermyth.Grimoire.SeedLedger

set_option autoImplicit false

namespace Vermyth

open Foundation

namespace CastProcess

variable (process : CastProcess)

def reached (arguments : CastArguments) (draws : CallDraws) : Option (AspectSet × SeedCast) :=
  match process.beginCast arguments draws with
  | .error _ => none
  | .ok (asked, result, begun) =>
      match begun.attachParent result arguments.parentCastId arguments.branchId draws with
      | .error _ => none
      | .ok (child, _) => some (asked, child.seedCast)

def castAll (calls : List (CastArguments × CallDraws)) : CastProcess :=
  calls.foldl (fun process call => (process.toolCast call.1 call.2).2) process

def countCall (ledger : SeedLedger) (call : CastArguments × CallDraws) : SeedLedger :=
  (process.reached call.1 call.2).elim ledger fun reached =>
    ledger.counts reached.2 process.seeds.grimoire.seeds (process.toolCast call.1 call.2).2.seeds.grimoire.seeds

def countCalls (process : CastProcess) (ledger : SeedLedger) : List (CastArguments × CallDraws) → SeedLedger
  | [] => ledger
  | call :: rest => countCalls (process.toolCast call.1 call.2).2 (process.countCall ledger call) rest

def ledger (calls : List (CastArguments × CallDraws)) : SeedLedger := process.countCalls {} calls

theorem cast_all_snoc (calls : List (CastArguments × CallDraws)) (call : CastArguments × CallDraws) :
    process.castAll (calls ++ [call]) = ((process.castAll calls).toolCast call.1 call.2).2 := by
  rw [castAll, List.foldl_append]
  rfl

theorem count_calls_snoc (counted : SeedLedger) (calls : List (CastArguments × CallDraws))
    (call : CastArguments × CallDraws) :
    process.countCalls counted (calls ++ [call]) =
      (process.castAll calls).countCall (process.countCalls counted calls) call := by
  induction calls generalizing process counted with
  | nil => rfl
  | cons first rest ih => exact ih _ _

theorem ledger_snoc (calls : List (CastArguments × CallDraws)) (call : CastArguments × CallDraws) :
    process.ledger (calls ++ [call]) = (process.castAll calls).countCall (process.ledger calls) call :=
  process.count_calls_snoc {} calls call

theorem write_channel_seeds (state : ChannelState) (written : CastProcess)
    (wrote : process.writeChannelState state = .ok written) :
    written.seeds = process.seeds ∧ written.env = process.env := by
  obtain ⟨_, -, wrote⟩ := (bind_ok _ _ _).mp wrote
  obtain ⟨_, -, wrote⟩ := (bind_ok _ _ _).mp wrote
  obtain ⟨_, -, wrote⟩ := (bind_ok _ _ _).mp wrote
  obtain rfl := Except.ok.inj wrote
  exact ⟨rfl, rfl⟩

theorem begin_cast_seeds (arguments : CastArguments) (draws : CallDraws) (asked : AspectSet) (result : CastRecord)
    (begun : CastProcess) (begins : process.beginCast arguments draws = .ok (asked, result, begun)) :
    (begun.seeds = process.seeds ∧ begun.env = process.env) ∧ askedSet process.env arguments.aspects = .ok asked ∧
      asked.members = result.sigil.aspects.members := by
  obtain ⟨intent, asks, ⟨_, casts⟩ | ⟨_, rfl, casts⟩⟩ :=
    process.begin_cast_cases arguments draws asked result begun begins
  · refine ⟨?_, asks, (process.chained_result_ok asked intent _ _ draws result begun casts).1.2⟩
    obtain ⟨⟨own, state⟩, -, casts⟩ := (bind_ok _ _ _).mp casts
    obtain ⟨after, wrote, casts⟩ := (bind_ok _ _ _).mp casts
    obtain ⟨rfl, rfl⟩ := Prod.mk.inj (Except.ok.inj casts)
    exact process.write_channel_seeds _ after wrote
  · exact ⟨⟨rfl, rfl⟩, asks, (process.base_cast_ok asked intent draws.stamp result casts).2⟩

theorem attach_parent_seeds (result child : CastRecord) (parentCastId branchId : Option String) (draws : CallDraws)
    (attached : CastProcess)
    (attaches : process.attachParent result parentCastId branchId draws = .ok (child, attached)) :
    (attached.seeds = process.seeds ∧ attached.env = process.env) ∧ child.sigil = result.sigil := by
  cases parentCastId with
  | none =>
      obtain ⟨rfl, rfl⟩ := Prod.mk.inj (Except.ok.inj attaches)
      exact ⟨⟨rfl, rfl⟩, rfl⟩
  | some parentCastId =>
      obtain ⟨parent, -, attaches⟩ := (bind_ok _ _ _).mp attaches
      obtain ⟨report, -, attaches⟩ := (bind_ok _ _ _).mp attaches
      obtain ⟨rfl, rfl⟩ := Prod.mk.inj (Except.ok.inj attaches)
      exact ⟨⟨rfl, rfl⟩, rfl⟩

theorem keep_cast_seeds (asked : AspectSet) (result : CastRecord) (draw : SeedDraw) :
    (process.keepCast asked result draw).2.seeds =
      (accumulateSeed process.env asked result.seedCast draw process.seeds).2 := by
  rw [keepCast, growSeed]
  cases (accumulateSeed process.env asked result.seedCast draw process.seeds).1 with
  | error raised => rfl
  | ok _ =>
      dsimp only
      cases wrote : writeCast { process with
          seeds := (accumulateSeed process.env asked result.seedCast draw process.seeds).2 } result with
      | error raised => rfl
      | ok written =>
          rw [writeCast] at wrote
          cases inserted : process.casts.insert? result with
          | none =>
              rw [inserted] at wrote
              contradiction
          | some casts =>
              rw [inserted] at wrote
              obtain ⟨_, -, wrote⟩ := (bind_ok _ _ _).mp wrote
              obtain rfl := Except.ok.inj wrote
              rfl

theorem tool_cast_seeds (arguments : CastArguments) (draws : CallDraws) :
    (process.toolCast arguments draws).2.seeds = (process.reached arguments draws).elim process.seeds fun reached =>
      (accumulateSeed process.env reached.1 reached.2 (draws.seed 0) process.seeds).2 := by
  rw [toolCast, wrapped, castSteps, reached]
  cases begins : process.beginCast arguments draws with
  | error raised => rfl
  | ok begun =>
      obtain ⟨asked, result, begun⟩ := begun
      obtain ⟨⟨seeds, env⟩, -⟩ := process.begin_cast_seeds arguments draws asked result begun begins
      dsimp only
      cases attaches : begun.attachParent result arguments.parentCastId arguments.branchId draws with
      | error raised => exact seeds
      | ok both =>
          obtain ⟨child, attached⟩ := both
          obtain ⟨⟨attachedSeeds, attachedEnv⟩, -⟩ := begun.attach_parent_seeds result child _ _ draws attached attaches
          dsimp only
          rw [keep_cast_seeds, attachedSeeds, attachedEnv, seeds, env]
          rfl

theorem reached_members (arguments : CastArguments) (draws : CallDraws) (asked : AspectSet) (cast : SeedCast)
    (reaches : process.reached arguments draws = some (asked, cast)) :
    askedSet process.env arguments.aspects = .ok asked ∧ asked.members = cast.aspects.members := by
  rw [reached] at reaches
  cases begins : process.beginCast arguments draws with
  | error raised =>
      rw [begins] at reaches
      contradiction
  | ok begun =>
      obtain ⟨own, result, begun⟩ := begun
      obtain ⟨-, asks, members⟩ := process.begin_cast_seeds arguments draws own result begun begins
      rw [begins] at reaches
      dsimp only at reaches
      cases attaches : begun.attachParent result arguments.parentCastId arguments.branchId draws with
      | error raised =>
          rw [attaches] at reaches
          contradiction
      | ok both =>
          obtain ⟨child, attached⟩ := both
          obtain ⟨-, sigil⟩ := begun.attach_parent_seeds result child _ _ draws attached attaches
          rw [attaches] at reaches
          obtain ⟨rfl, rfl⟩ := Prod.mk.inj (Option.some.inj reaches)
          refine ⟨asks, members.trans ?_⟩
          rw [← sigil]
          rfl

def OnPattern (pattern : Finset String) (arguments : CastArguments) : Prop :=
  ∀ asked, askedSet process.env arguments.aspects = .ok asked →
    asked.members = pattern ∧ LookupExact asked process.seeds.grimoire.seeds

def PatternRun (pattern : Finset String) (calls : List (CastArguments × CallDraws)) : Prop :=
  ∀ earlier call later, calls = earlier ++ call :: later → (process.castAll earlier).OnPattern pattern call.1

-- A call writes no crystallized sigil and resets nothing, or it writes one of the
-- generation that is due, on casts enough, and resets its seed. Only SQLite can
-- refuse the reset, after as many calls as its integers count.
def CrystallizesDue (earlier : List (CastArguments × CallDraws)) (call : CastArguments × CallDraws) : Prop :=
  let before := process.castAll earlier
  let after := process.castAll (earlier ++ [call])
  let counted := process.ledger earlier
  let next := process.ledger (earlier ++ [call])
  (after.seeds.grimoire.crystallized = before.seeds.grimoire.crystallized ∧ next.resets = counted.resets) ∨
    ∃ asked cast row, before.reached call.1 call.2 = some (asked, cast) ∧
      after.seeds.grimoire.crystallized = before.seeds.grimoire.crystallized.put row ∧
        row.generation = counted.resets + 1 ∧ Ripe row.generation (counted.observed ++ [cast]) ∧
          (next = { observed := [], resets := counted.resets + 1 } ∨ 2 ^ 63 ≤ earlier.length + 2)

theorem env_cast_all (calls : List (CastArguments × CallDraws)) : (process.castAll calls).env = process.env := by
  induction calls using List.reverseRecOn with
  | nil => rfl
  | append_singleton calls call ih =>
      rw [cast_all_snoc, ← ih]
      exact ((process.castAll calls).tool_cast_keeps call.1 call.2).1

theorem resets_count (counted : SeedLedger) (call : CastArguments × CallDraws) :
    (process.countCall counted call).resets ≤ counted.resets + 1 := by
  rw [countCall]
  cases process.reached call.1 call.2 with
  | none => exact Nat.le_succ _
  | some reached =>
      rw [Option.elim_some, SeedLedger.counts]
      split_ifs
      · exact Nat.le_succ _
      · exact le_rfl
      · exact Nat.le_succ _

theorem resets_most (calls : List (CastArguments × CallDraws)) : (process.ledger calls).resets ≤ calls.length := by
  induction calls using List.reverseRecOn with
  | nil => exact le_rfl
  | append_singleton calls call ih =>
      rw [ledger_snoc, List.length_append, List.length_singleton]
      exact (resets_count _ _ call).trans (Nat.succ_le_succ ih)

theorem call_step (pattern : Finset String) (counted : SeedLedger) (call : CastArguments × CallDraws)
    (kept : SeedKept process.env pattern counted process.seeds.grimoire.seeds)
    (on : process.OnPattern pattern call.1) (asked : AspectSet) (cast : SeedCast)
    (reaches : process.reached call.1 call.2 = some (asked, cast)) :
    LedgerStep process.env pattern counted cast process.seeds.grimoire
      (process.toolCast call.1 call.2).2.seeds.grimoire := by
  obtain ⟨asks, same⟩ := process.reached_members call.1 call.2 asked cast reaches
  obtain ⟨rfl, finds⟩ := on asked asks
  rw [tool_cast_seeds, reaches]
  exact accumulate_ledger process.env counted asked cast (call.2.seed 0) process.seeds kept same finds

theorem call_kept (pattern : Finset String) (counted : SeedLedger) (call : CastArguments × CallDraws)
    (kept : SeedKept process.env pattern counted process.seeds.grimoire.seeds)
    (on : process.OnPattern pattern call.1) :
    SeedKept process.env pattern (process.countCall counted call)
      (process.toolCast call.1 call.2).2.seeds.grimoire.seeds := by
  rw [countCall]
  cases reaches : process.reached call.1 call.2 with
  | none =>
      rw [tool_cast_seeds, reaches]
      exact kept
  | some reached =>
      obtain ⟨asked, cast⟩ := reached
      exact (process.call_step pattern counted call kept on asked cast reaches).kept

theorem run_kept (pattern : Finset String) (calls : List (CastArguments × CallDraws))
    (empty : process.seeds.grimoire.seeds.rows = []) (run : process.PatternRun pattern calls) :
    SeedKept process.env pattern (process.ledger calls) (process.castAll calls).seeds.grimoire.seeds := by
  induction calls using List.reverseRecOn with
  | nil => exact .none _ empty
  | append_singleton calls call ih =>
      have before := ih fun earlier own later split => run earlier own (later ++ [call]) (by rw [split]; simp)
      have on := run calls call [] rfl
      rw [← process.env_cast_all calls] at before
      have step := (process.castAll calls).call_kept pattern (process.ledger calls) call before on
      rw [process.env_cast_all calls] at step
      rw [ledger_snoc, cast_all_snoc]
      exact step

theorem run_crystallizes (pattern : Finset String) (earlier : List (CastArguments × CallDraws))
    (call : CastArguments × CallDraws) (empty : process.seeds.grimoire.seeds.rows = [])
    (run : process.PatternRun pattern (earlier ++ [call])) : process.CrystallizesDue earlier call := by
  have kept := process.run_kept pattern earlier empty fun before own later split =>
    run before own (later ++ [call]) (by rw [split]; simp)
  have on := run earlier call [] rfl
  rw [← process.env_cast_all earlier] at kept
  have most := process.resets_most earlier
  rw [CrystallizesDue, cast_all_snoc, ledger_snoc, countCall]
  cases reaches : (process.castAll earlier).reached call.1 call.2 with
  | none =>
      left
      rw [tool_cast_seeds, reaches]
      exact ⟨rfl, rfl⟩
  | some reached =>
      obtain ⟨asked, cast⟩ := reached
      obtain same | ⟨row, crystals, generation, ripe, reset⟩ :=
        ((process.castAll earlier).call_step pattern _ call kept on asked cast reaches).crystals
      · exact Or.inl same
      · refine Or.inr ⟨asked, cast, row, rfl, crystals, generation, generation ▸ ripe, ?_⟩
        obtain reset | ⟨wide, -⟩ := reset
        · exact Or.inl reset
        · exact Or.inr (wide.trans (Nat.add_le_add_right most 2))

end CastProcess

theorem pattern_run_snoc (process : CastProcess) (pattern : Finset String)
    (calls : List (CastProcess.CastArguments × CallDraws)) (call : CastProcess.CastArguments × CallDraws)
    (run : process.PatternRun pattern calls) (on : (process.castAll calls).OnPattern pattern call.1) :
    process.PatternRun pattern (calls ++ [call]) := by
  intro earlier own later split
  rcases later.eq_nil_or_concat with rfl | ⟨rest, last, rfl⟩
  · obtain ⟨rfl, same⟩ := List.append_inj' split rfl
    rwa [← (List.cons.inj same).1]
  · rw [List.concat_eq_append, ← List.cons_append, ← List.append_assoc] at split
    exact run earlier own rest (List.append_inj' split rfl).1

structure SeedStatistic (counted : List SeedCast) (seed : GlyphSeed) : Prop where
  observed : seed.observedCount = counted.length
  mean : seed.meanResonance = (counted.map SeedCast.adjusted).sum / counted.length
  coherence : seed.coherenceRate =
    counted.countP (fun cast => cast.verdict.verdictType = .coherent) / counted.length
  first : ∃ cast, counted.head? = some cast ∧ seed.candidateEffectClass = some cast.effectClass
  meanInRange : InUnit seed.meanResonance
  coherenceInRange : InUnit seed.coherenceRate

theorem seed_statistic_of (pattern : Finset String) (generation : Nat) (counted : List SeedCast) (seed : GlyphSeed)
    (first : SeedCast) (head : counted.head? = some first)
    (own : SeedOf pattern generation first.effectClass counted seed) : SeedStatistic counted seed where
  observed := own.observed
  mean := by rw [own.mean, meanOf, List.length_map]
  coherence := by rw [own.coherence, coherence_share]
  first := ⟨first, head, own.candidate⟩
  meanInRange := own.mean ▸ adjusted_mean_unit counted
  coherenceInRange := own.coherence ▸ coherence_mean_unit counted

theorem accumulate_other (registry : AspectRegistry) (order : SetOrder) (drawn : String) (cast : SeedCast)
    (seeds : List GlyphSeed) (grown : Option GlyphSeed) (ok : accumulate registry order drawn cast seeds = .ok grown)
    (pattern : Finset String) (other : cast.aspects.members ≠ pattern) :
    seedFor pattern (grown.elim seeds (replaceSeed seeds)) = seedFor pattern seeds := by
  cases accumulate_grown registry order drawn cast seeds grown ok with
  | nothing incoherent unmatched => rfl
  | first seed unmatched coherent id own count mean => exact seed_for_other pattern seeds seed (own ▸ other)
  | next seed matching found own count mean => exact seed_for_other pattern seeds seed (own ▸ other)

theorem seed_statistics :
    (∀ registry order (casts : List (String × SeedCast)), (∀ cast ∈ casts, cast.2.aspects.Sized) →
      ∃ seeds, accumulateAll registry order casts = .ok seeds ∧
        ∀ pattern, (seedFor pattern seeds).elim (countedOf pattern (casts.map Prod.snd) = [])
          (SeedStatistic (countedOf pattern (casts.map Prod.snd)))) ∧
    (∀ registry order drawn cast seeds grown, accumulate registry order drawn cast seeds = .ok grown →
      ∀ pattern, cast.aspects.members ≠ pattern →
        seedFor pattern (grown.elim seeds (replaceSeed seeds)) = seedFor pattern seeds) ∧
    ∀ (process : CastProcess) pattern calls, process.seeds.grimoire.seeds.rows = [] →
      process.PatternRun pattern calls →
        SeedKept process.env pattern (process.ledger calls) (process.castAll calls).seeds.grimoire.seeds ∧
          ∀ earlier call later, calls = earlier ++ call :: later → process.CrystallizesDue earlier call := by
  refine ⟨?_, accumulate_other, ?_⟩
  · intro registry order casts sized
    obtain ⟨seeds, all, count⟩ := accumulate_all_counts registry order casts sized
    refine ⟨seeds, all, fun pattern => ?_⟩
    have own := count pattern
    cases found : seedFor pattern seeds with
    | none =>
        rw [found] at own
        exact own
    | some seed =>
        rw [found] at own
        obtain ⟨first, head, stands⟩ := own
        exact seed_statistic_of pattern 1 _ seed first head stands
  · intro process pattern calls empty run
    refine ⟨process.run_kept pattern calls empty run, fun earlier call later split => ?_⟩
    refine process.run_crystallizes pattern earlier call empty fun before own rest within => ?_
    exact run before own (rest ++ later) (by rw [split, List.append_cons, within]; simp)

instance (process : CastProcess) (pattern : Finset String) (arguments : CastProcess.CastArguments) :
    Decidable (process.OnPattern pattern arguments) :=
  inferInstanceAs (Decidable (∀ asked, askedSet process.env arguments.aspects = .ok asked →
    asked.members = pattern ∧ selectSeeds (some asked) none process.seeds.grimoire.seeds =
      process.seeds.grimoire.seeds.rows.filter fun row => row.aspectPattern.members = asked.members))

def formCall (name : String) : CastProcess.CastArguments × CallDraws :=
  ({ aspects := ["FORM"], intent := .ok cautious }, drawsNamed name)

theorem half_in_unit : InUnit (1 / 2) := by decide +kernel

theorem form_sized : formSet.Sized := ⟨le_rfl, by decide⟩

def formCast (verdictType : VerdictType) : SeedCast where
  aspects := formSet
  effectClass := .containment
  verdict := { verdictType, resonance := { adjusted := 1 / 2, inRange := half_in_unit } }

theorem form_pattern_run : (newProcess {}).PatternRun formSet.members [formCall "A", formCall "B"] := by
  have none : (newProcess {}).PatternRun formSet.members [] := by
    intro earlier call later split
    exact absurd split (by simp)
  have one := pattern_run_snoc _ _ [] (formCall "A") none (by decide +kernel)
  exact pattern_run_snoc _ _ _ (formCall "B") one (by decide +kernel)

theorem seed_statistics_form :
    (∃ seeds, accumulateAll {} listOrder [("A", formCast .incoherent), ("B", formCast .coherent)] = .ok seeds ∧
      ∀ pattern, (seedFor pattern seeds).elim
        (countedOf pattern [formCast .incoherent, formCast .coherent] = [])
          (SeedStatistic (countedOf pattern [formCast .incoherent, formCast .coherent]))) ∧
    ((newProcess {}).ledger [formCall "A", formCall "B"]).observed.length = 2 ∧
      (newProcess {}).CrystallizesDue [formCall "A"] (formCall "B") := by
  refine ⟨seed_statistics.1 {} listOrder [("A", formCast .incoherent), ("B", formCast .coherent)] ?_, ?_, ?_⟩
  · intro cast member
    rcases List.mem_cons.mp member with rfl | last
    · exact form_sized
    · obtain rfl := List.mem_singleton.mp last
      exact form_sized
  · decide +kernel
  · exact (seed_statistics.2.2 (newProcess {}) formSet.members [formCall "A", formCall "B"] rfl form_pattern_run).2
      [formCall "A"] (formCall "B") [] rfl

end Vermyth
