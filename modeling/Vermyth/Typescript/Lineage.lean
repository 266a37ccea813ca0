import Vermyth.Typescript.RowAgreement

set_option autoImplicit false

namespace Vermyth.Typescript

def rowOf (table : List Row) (castId : String) : Option Row := table.find? fun row => row.castId = castId

section Repository

variable (platform : JsPlatform) (registry : AspectRegistry)

def writeCast (table : List Row) (result : CastResult) : Except String (List Row) :=
  match rowOf table result.castId with
  | some _ => .error ("CastResult with cast_id " ++ platform.stringify (.str result.castId) ++ " already exists")
  | none => .ok (table ++ [serializeCastResultRow platform registry result])

def readCast (table : List Row) (castId : String) : Except String ReadCast :=
  match rowOf table castId with
  | some row => deserializeCastResult platform registry row
  | none => .error ("unknown cast_id: " ++ platform.stringify (.str castId))

-- row.lineage?.parentCastId ?? null
def parentCastId (cast : ReadCast) : Option String :=
  match cast.lineage.bind fun lineage => present lineage "parentCastId" with
  | some (.str parent) => some parent
  | _ => none

-- The loop of toolLineage, with the rounds that max_depth leaves.
def lineageLoop (table : List Row) : Nat → String → Except String (List ReadCast)
  | 0, _ => .ok []
  | rounds + 1, castId => do
      let row ← readCast platform registry table castId
      match parentCastId row with
      | none => return [row]
      | some parent => return row :: (← lineageLoop table rounds parent)

def toolLineage (table : List Row) (castId : String) (maxDepth : Option ℚ) : Except String (List ReadCast) :=
  if castId = "" then .error "cast_id is required"
  else (lineageLoop platform registry table ⌈maxDepth.getD 50⌉₊ castId).map List.reverse

end Repository

structure CastChain where
  root : CastResult
  rest : List CastResult
  rooted : root.lineage = none
  linked : (root :: rest).IsChain fun parent child => child.lineage.map Lineage.parentCastId = some parent.castId
  distinct : ((root :: rest).map CastResult.castId).Nodup

def CastChain.casts (chain : CastChain) : List CastResult := chain.root :: chain.rest

def CastChain.last (chain : CastChain) : CastResult := chain.casts.getLast (List.cons_ne_nil _ _)

section Chain

variable (platform : JsPlatform) (registry : AspectRegistry)

def Holds (table : List Row) (casts : List CastResult) : Prop :=
  ∀ result ∈ casts, rowOf table result.castId = some (serializeCastResultRow platform registry result)

def ReturnsWhole (table : List Row) (chain : CastChain) (maxDepth : Option ℚ) : Prop :=
  ∃ casts, toolLineage platform registry table chain.last.castId maxDepth = .ok casts ∧
    casts.map ReadCast.castId = chain.casts.map CastResult.castId

theorem write_row_of (table after : List Row) (result : CastResult)
    (written : writeCast platform registry table result = .ok after) :
    rowOf after result.castId = some (serializeCastResultRow platform registry result) ∧
      ∀ castId row, rowOf table castId = some row → rowOf after castId = some row := by
  rw [writeCast] at written
  cases before : rowOf table result.castId with
  | some row =>
      rw [before] at written
      contradiction
  | none =>
      rw [before] at written
      obtain rfl := Except.ok.inj written
      constructor
      · rw [rowOf, List.find?_append, ← rowOf, before]
        simp [serializeCastResultRow]
      · intro castId row held
        rw [rowOf, List.find?_append, ← rowOf, held]
        rfl

theorem written_held (results : List CastResult) (table after : List Row)
    (written : results.foldlM (writeCast platform registry) table = .ok after) :
    Holds platform registry after results ∧
      ∀ castId row, rowOf table castId = some row → rowOf after castId = some row := by
  induction results generalizing table with
  | nil =>
      obtain rfl := Except.ok.inj written
      exact ⟨fun result member => absurd member List.not_mem_nil, fun castId row held => held⟩
  | cons result rest ih =>
      obtain ⟨next, first, later⟩ := (bind_ok _ _ _).mp written
      obtain ⟨own, kept⟩ := write_row_of platform registry table next result first
      obtain ⟨others, keptLater⟩ := ih next later
      refine ⟨?_, fun castId row held => keptLater castId row (kept castId row held)⟩
      exact List.forall_mem_cons.mpr ⟨keptLater _ _ own, others⟩

variable (parses : platform.Parses)
include parses

theorem read_held (table : List Row) (result : CastResult)
    (held : rowOf table result.castId = some (serializeCastResultRow platform registry result)) :
    readCast platform registry table result.castId =
      ((result.sigil.aspects.map Aspect.name).mapM (registry.resolve platform)).map
        (restored platform registry result) := by
  rw [readCast, held]
  exact deserialize_serialized platform registry parses result

omit parses in
theorem restored_parent (result : CastResult) (resolved : List Aspect) :
    parentCastId (restored platform registry result resolved) = none := by
  rw [parentCastId, restored]
  cases result.lineage with
  | none => rfl
  | some lineage => rfl

theorem loop_held (table : List Row) (rounds : Nat) (result : CastResult)
    (held : rowOf table result.castId = some (serializeCastResultRow platform registry result)) :
    lineageLoop platform registry table (rounds + 1) result.castId =
      ((result.sigil.aspects.map Aspect.name).mapM (registry.resolve platform)).map fun resolved =>
        [restored platform registry result resolved] := by
  rw [lineageLoop, read_held platform registry parses table result held]
  cases (result.sigil.aspects.map Aspect.name).mapM (registry.resolve platform) with
  | error raised => rfl
  | ok resolved =>
      have rootless := restored_parent platform registry result resolved
      simp only [Except.map, bind, Except.bind, rootless]
      rfl

theorem returns_whole_iff (table : List Row) (chain : CastChain) (maxDepth : Option ℚ)
    (held : Holds platform registry table chain.casts) :
    ReturnsWhole platform registry table chain maxDepth ↔
      chain.rest = [] ∧ chain.root.castId ≠ "" ∧ 0 < maxDepth.getD 50 ∧
        ∀ aspect ∈ chain.root.sigil.aspects, ∃ own, registry.resolve platform aspect.name = .ok own := by
  have lastHeld := held chain.last (List.getLast_mem _)
  constructor
  · rintro ⟨casts, returned, whole⟩
    rw [toolLineage] at returned
    split at returned
    · contradiction
    rename_i named
    cases rounds : ⌈maxDepth.getD 50⌉₊ with
    | zero =>
        rw [rounds, lineageLoop] at returned
        obtain rfl := Except.ok.inj returned
        contradiction
    | succ rounds' =>
        rw [rounds, loop_held platform registry parses table rounds' chain.last lastHeld] at returned
        cases mapped : (chain.last.sigil.aspects.map Aspect.name).mapM (registry.resolve platform) with
        | error raised =>
            rw [mapped] at returned
            contradiction
        | ok resolved =>
            rw [mapped] at returned
            obtain rfl := Except.ok.inj returned
            have alone : chain.rest = [] := by
              have lengths := congrArg List.length whole
              simpa [CastChain.casts] using lengths
            have last : chain.last = chain.root := by simp [CastChain.last, CastChain.casts, alone]
            rw [last] at named mapped
            refine ⟨alone, named, ?_, ?_⟩
            · exact Nat.ceil_pos.mp (rounds ▸ Nat.succ_pos _)
            · have each := (map_m_ok_iff _ _).mp ⟨resolved, mapped⟩
              exact fun aspect member => each aspect.name (List.mem_map_of_mem member)
  · rintro ⟨alone, named, deep, each⟩
    have last : chain.last = chain.root := by simp [CastChain.last, CastChain.casts, alone]
    have names : ∀ name ∈ chain.root.sigil.aspects.map Aspect.name,
        ∃ own, registry.resolve platform name = .ok own := by
      intro name member
      obtain ⟨aspect, inside, rfl⟩ := List.mem_map.mp member
      exact each aspect inside
    obtain ⟨resolved, mapped⟩ := (map_m_ok_iff _ _).mpr names
    obtain ⟨rounds, counted⟩ := Nat.exists_eq_succ_of_ne_zero (Nat.ceil_pos.mpr deep).ne'
    rw [last] at lastHeld
    refine ⟨[restored platform registry chain.root resolved], ?_, ?_⟩
    · rw [toolLineage, last, if_neg named, counted, loop_held platform registry parses table rounds _ lastHeld, mapped]
      rfl
    · rw [CastChain.casts, alone]
      rfl

-- A cast comes back as it was only without a lineage: its document is read
-- under the keys of the interface, which are not the ones it is written with.
-- A lineage is therefore never followed.
theorem cast_rows_round_trip_iff :
    (∀ result, RoundTrips platform registry result ↔ result.Kept platform registry) ∧
      ∀ table chain maxDepth, Holds platform registry table chain.casts →
        (ReturnsWhole platform registry table chain maxDepth ↔
          chain.rest = [] ∧ chain.root.castId ≠ "" ∧ 0 < maxDepth.getD 50 ∧
            ∀ aspect ∈ chain.root.sigil.aspects, ∃ own, registry.resolve platform aspect.name = .ok own) :=
  ⟨round_trips_kept platform registry parses, returns_whole_iff platform registry parses⟩

end Chain

def voidDigest : String := "90251d5ff4018bf08f45ca85f613ed0b18d830f5f84b424197ea13620e87fa11"

def plainPlatform : JsPlatform where
  stringify := fun value => String.ofList (dumps .compact plainFloat value)
  parse := fun text => (loads readPlainFloat text.toList).elim (.error "Unexpected token") .ok
  toISOString := fun _ => "1970-01-01T00:00:00.000Z"
  newDate := fun _ => 0
  sha256Hex := fun _ => voidDigest

theorem distinct_items_each (items : List Json) (each : ∀ item ∈ items, item.distinct = true) :
    distinctItems items = true := by
  induction items with
  | nil => rfl
  | cons item rest ih =>
      rw [List.forall_mem_cons] at each
      rw [distinctItems, each.1, ih each.2, Bool.and_self]

theorem distinct_fields_each (fields : List (String × Json)) (each : ∀ field ∈ fields, field.2.distinct = true) :
    distinctFields fields = true := by
  induction fields with
  | nil => rfl
  | cons field rest ih =>
      rw [List.forall_mem_cons] at each
      rw [distinctFields, each.1, ih each.2, Bool.and_self]

theorem is_js_distinct (value : Json) (js : IsJs value) : value.distinct = true := by
  induction js with
  | null => rfl
  | bool value => rfl
  | number value => rfl
  | str text => rfl
  | arr items each ih => exact distinct_items_each items ih
  | obj fields keys each ih =>
      rw [Json.distinct, decide_eq_true keys, distinct_fields_each fields ih, Bool.and_self]

theorem plain_parses : plainPlatform.Parses := by
  intro value js
  have back := loads_dumps .compact plain_float_text value (is_js_distinct value js)
  simp only [plainPlatform, String.toList_ofList, back]
  rfl

theorem flat_at_least_six : 6 ≤ (List.replicate 6 (0 : ℚ)).length := Nat.le_refl 6

def flatVector : SemanticVector where
  components := List.replicate 6 0
  basisVersion := some 0
  atLeastSix := flat_at_least_six

def plainCast (castId : String) (lineage : Option Lineage) : CastResult where
  castId := castId
  timestamp := 0
  intent := { objective := "study", scope := "", reversibility := .reversible, sideEffectTolerance := .none }
  sigil :=
    { name := "Void", aspects := [.void], distinct := List.nodup_singleton _, effectClass := .erasure
      resonanceCeiling := 1, contradictionSeverity := .none, semanticFingerprint := voidDigest
      semanticVector := flatVector, polarity := .negative }
  verdict :=
    { verdictType := .coherent, resonance := { raw := 1, adjusted := 1, ceilingApplied := false, proof := "" }
      effectDescription := "", incoherenceReason := none, castingNote := ""
      intentVector :=
        { vector := flatVector, projectionMethod := .partially, constraintComponent := flatVector
          semanticComponent := none, confidence := 1 } }
  lineage := lineage

def rootCast : CastResult := plainCast "root" none

def childCast : CastResult := plainCast "child" (some { parentCastId := "root", depth := 1, branchId := "branch" })

theorem flat_whole : flatVector.WholeBasis := ⟨0, congrArg some Int.cast_zero.symm⟩

theorem root_cast_kept : rootCast.Kept plainPlatform {} where
  lineage := rfl
  provenance := fun own held => absurd held (Option.not_mem_none own)
  sigil := ⟨List.forall_mem_singleton.mpr rfl, flat_whole, rfl, rfl⟩
  verdict := ⟨flat_whole, flat_whole, fun own held => absurd held (Option.not_mem_none own)⟩

def rootChain : CastChain where
  root := rootCast
  rest := []
  rooted := rfl
  linked := .singleton _
  distinct := List.nodup_singleton _

theorem root_child_distinct : ([rootCast, childCast].map CastResult.castId).Nodup := by decide

def childChain : CastChain where
  root := rootCast
  rest := [childCast]
  rooted := rfl
  linked := .cons_cons rfl (.singleton _)
  distinct := root_child_distinct

def rowsOf (casts : List CastResult) : List Row := casts.map (serializeCastResultRow plainPlatform {})

theorem root_rows_held : Holds plainPlatform {} (rowsOf rootChain.casts) rootChain.casts :=
  List.forall_mem_singleton.mpr rfl

theorem child_rows_held : Holds plainPlatform {} (rowsOf childChain.casts) childChain.casts :=
  List.forall_mem_cons.mpr ⟨rfl, List.forall_mem_singleton.mpr rfl⟩

theorem cast_rows_round_trip_root :
    RoundTrips plainPlatform {} rootCast ∧ ReturnsWhole plainPlatform {} (rowsOf rootChain.casts) rootChain none := by
  obtain ⟨rows, chains⟩ := cast_rows_round_trip_iff plainPlatform {} plain_parses
  refine ⟨(rows rootCast).mpr root_cast_kept, (chains _ rootChain none root_rows_held).mpr ⟨rfl, ?_, ?_, ?_⟩⟩
  · decide
  · norm_num
  · exact List.forall_mem_singleton.mpr ⟨_, rfl⟩

theorem parent_link_lost :
    ¬ RoundTrips plainPlatform {} childCast ∧
      ¬ ReturnsWhole plainPlatform {} (rowsOf childChain.casts) childChain none := by
  constructor
  · intro back
    have kept := (round_trips_kept plainPlatform {} plain_parses childCast).mp back
    exact Option.some_ne_none _ kept.lineage
  · intro whole
    have alone := (returns_whole_iff plainPlatform {} plain_parses _ childChain none child_rows_held).mp whole
    exact List.cons_ne_nil _ _ alone.1

end Vermyth.Typescript
