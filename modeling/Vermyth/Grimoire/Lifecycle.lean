import Vermyth.Grimoire.Genesis

set_option autoImplicit false

namespace Vermyth

open Foundation

def Fresh (state : GenesisState) : GenesisEvent → Prop
  | .write aspect => aspect.status = .proposed ∧ proposal? state aspect.genesisId = none
  | _ => True

-- A reviewed proposal is accepted again, or while no aspect of its name is in
-- the registry or in the store and it was not rejected; the registry itself
-- refuses the names of canonical aspects. A proposal is rejected while it is not
-- accepted.
def Orderly (state : GenesisState) : GenesisEvent → Prop
  | .accept genesisId _ => ∀ aspect, readEmergentAspect genesisId state.grimoire = .ok aspect →
      aspect.reviewedAt ≠ none →
        (state.registry.isRegistered aspect.proposedName = true → aspect.status = .accepted) ∧
          (state.registry.isRegistered aspect.proposedName = false →
            AspectRegistry.isCanonical aspect.proposedName = false →
              aspect.status ≠ .rejected ∧ ¬ state.grimoire.registeredAspects.Has aspect.proposedName)
  | .reject genesisId _ => ∀ aspect, readEmergentAspect genesisId state.grimoire = .ok aspect →
      aspect.status ≠ .accepted
  | _ => True

instance (state : GenesisState) : (event : GenesisEvent) → Decidable (Fresh state event)
  | .write _ => inferInstanceAs (Decidable (_ ∧ _))
  | .review _ _ _ _ => isTrue trivial
  | .accept _ _ => isTrue trivial
  | .reject _ _ => isTrue trivial

def decidableOfRead (read : Except PyError EmergentAspect) (holds : EmergentAspect → Prop) [DecidablePred holds] :
    Decidable (∀ aspect, read = .ok aspect → holds aspect) :=
  match read with
  | .error _ => isTrue fun _ ok => by cases ok
  | .ok found => decidable_of_iff (holds found)
      ⟨fun held _ same => Except.ok.inj same ▸ held, fun all => all found rfl⟩

instance (state : GenesisState) : (event : GenesisEvent) → Decidable (Orderly state event)
  | .write _ => isTrue trivial
  | .review _ _ _ _ => isTrue trivial
  | .accept _ _ => decidableOfRead _ _
  | .reject _ _ => decidableOfRead _ _

inductive Turn : Option EmergentAspect → EmergentAspect → Bool → Prop where
  | written (new : EmergentAspect) (status : new.status = .proposed) : Turn none new false
  | reviewed (old new : EmergentAspect) (name : new.proposedName = old.proposedName)
      (status : new.status = old.status) : Turn (some old) new false
  | rejected (old new : EmergentAspect) (name : new.proposedName = old.proposedName)
      (undecided : old.status ≠ .accepted) (status : new.status = .rejected) : Turn (some old) new false
  | again (old new : EmergentAspect) (name : new.proposedName = old.proposedName)
      (already : old.status = .accepted) (status : new.status = .accepted) : Turn (some old) new false
  | accepted (old new : EmergentAspect) (name : new.proposedName = old.proposedName)
      (undecided : old.status = .proposed) (status : new.status = .accepted) : Turn (some old) new true

structure Revision (state after : GenesisState) (aspect : EmergentAspect) (derived : Bool) : Prop where
  turn : Turn (proposal? state aspect.genesisId) aspect derived
  writable : Writable aspect state.grimoire
  proposals : after.grimoire.emergentAspects = state.grimoire.emergentAspects.upsert aspect
  registered : after.registry.registered = state.registry.registered ++ if derived then [aspect.derived] else []
  derivedFrom : after.derivedFrom = state.derivedFrom ++ if derived then [aspect.genesisId] else []

structure Kept (state : GenesisState) : Prop where
  derived : ∀ genesisId row, proposal? state genesisId = some row →
    (genesisId ∈ state.derivedFrom ↔ row.status = .accepted)
  registered : ∀ genesisId ∈ state.derivedFrom, ∃ row, proposal? state genesisId = some row ∧
    state.registry.isRegistered row.proposedName = true
  decidable : ∀ genesisId row, proposal? state genesisId = some row → row.status ≠ .integrated
  writable : ∀ genesisId row, proposal? state genesisId = some row → Writable row state.grimoire

theorem writable_congr (a b : EmergentAspect) (grimoire : Grimoire) (genesisId : b.genesisId = a.genesisId)
    (name : b.proposedName = a.proposedName) (supportCount : b.supportCount = a.supportCount)
    (basis : b.centroidVector.normalizedBasisVersion = a.centroidVector.normalizedBasisVersion)
    (writable : Writable a grimoire) : Writable b grimoire := by
  refine ⟨by rw [supportCount]; exact writable.supportCount, by rw [basis]; exact writable.basisVersion, ?_⟩
  rw [genesisId, name]
  exact writable.nameFree

theorem proposal_key (state : GenesisState) (genesisId : String) (row : EmergentAspect)
    (found : proposal? state genesisId = some row) : row.genesisId = genesisId :=
  state.grimoire.emergentAspects.find_key genesisId row found

theorem proposal_upsert (state after : GenesisState) (aspect : EmergentAspect)
    (proposals : after.grimoire.emergentAspects = state.grimoire.emergentAspects.upsert aspect)
    (genesisId : String) : proposal? after genesisId =
      if aspect.genesisId = genesisId then some aspect else proposal? state genesisId := by
  rw [proposal?, proposals, Table.find_upsert]
  rfl

theorem store_version (state : GenesisState) (kept : Kept state) (genesisId : String) (row version : EmergentAspect)
    (found : proposal? state genesisId = some row) (sameId : version.genesisId = row.genesisId)
    (name : version.proposedName = row.proposedName) (supportCount : version.supportCount = row.supportCount)
    (basis : version.centroidVector.normalizedBasisVersion = row.centroidVector.normalizedBasisVersion)
    (turn : Turn (some row) version false) :
    Revision state (storeEmergent version state).2 version false := by
  have writable := writable_congr row version state.grimoire sameId name supportCount basis
    (kept.writable genesisId row found)
  obtain ⟨_, refused, -⟩ | ⟨-, stored⟩ := store_emergent_cases version state
  · exact absurd writable refused
  · rw [stored]
    have key : version.genesisId = genesisId := sameId.trans (proposal_key state genesisId row found)
    exact ⟨by rw [key, found]; exact turn, writable, rfl, (List.append_nil _).symm, (List.append_nil _).symm⟩

theorem accept_revision (state : GenesisState) (kept : Kept state) (genesisId : String) (now : Datetime)
    (orderly : Orderly state (.accept genesisId now)) :
    (acceptEmergentAspect genesisId now state).2 = state ∨
      ∃ aspect derived, Revision state (acceptEmergentAspect genesisId now state).2 aspect derived := by
  cases read : readEmergentAspect genesisId state.grimoire with
  | error raised =>
      simp only [acceptEmergentAspect, read]
      exact Or.inl trivial
  | ok aspect =>
      by_cases unreviewed : aspect.reviewedAt = none
      · simp only [acceptEmergentAspect, read, if_pos unreviewed]
        exact Or.inl trivial
      obtain ⟨known, unknown⟩ := orderly aspect read unreviewed
      obtain ⟨row, found, rfl⟩ := read_emergent_ok genesisId state.grimoire aspect read
      simp only [restored_emergent_name, restored_emergent_status] at known unknown
      have found : proposal? state genesisId = some row := found
      have key := proposal_key state genesisId row found
      simp only [acceptEmergentAspect, read, if_neg unreviewed]
      by_cases registered : state.registry.isRegistered row.proposedName = true
      · have skipped : registerDerived (decided .accepted now (restoredEmergent row)) state = (.ok (), state) :=
          if_pos registered
        simp only [skipped]
        exact Or.inr ⟨_, false, store_version state kept genesisId row _ found rfl rfl rfl rfl
          (.again _ _ rfl (known registered) rfl)⟩
      have free : state.registry.isRegistered row.proposedName = false := Bool.eq_false_iff.mpr registered
      by_cases canonical : AspectRegistry.isCanonical row.proposedName = true
      · have refused : ∃ raised, registerDerived (decided .accepted now (restoredEmergent row)) state =
            (.error raised, state) := by
          have conflict : AspectRegistry.isCanonical row.derived.name = true := canonical
          have free : state.registry.isRegistered row.derived.name = false := free
          simp only [registerDerived, decided, restoredEmergent, EmergentAspect.proposedName, free,
            AspectRegistry.register, conflict, Bool.false_eq_true, if_false, if_true]
          exact ⟨_, rfl⟩
        obtain ⟨raised, refused⟩ := refused
        simp only [refused]
        exact Or.inl trivial
      · obtain ⟨notRejected, unwritten⟩ := unknown free (Bool.eq_false_iff.mpr canonical)
        have undecided : row.status = .proposed := by
          cases status : row.status with
          | proposed => rfl
          | accepted =>
              obtain ⟨own, held, named⟩ := kept.registered genesisId ((kept.derived genesisId row found).mpr status)
              obtain rfl := Option.some.inj (found.symm.trans held)
              exact absurd named registered
          | rejected => exact absurd status notRejected
          | integrated => exact absurd status (kept.decidable genesisId row found)
        obtain ⟨registry, registeredAspects, basisVersions, grown, done⟩ :=
          register_derived_fresh (decided .accepted now (restoredEmergent row)) state free
            (Bool.eq_false_iff.mpr canonical) unwritten
        have writable := writable_congr row (decided .accepted now (restoredEmergent row)) state.grimoire rfl rfl rfl
          rfl (kept.writable genesisId row found)
        have stored := (write_emergent_ok (decided .accepted now (restoredEmergent row))
          { state.grimoire with registeredAspects := registeredAspects, basisVersions := basisVersions } _).mpr
            ⟨⟨writable.supportCount, writable.basisVersion, writable.nameFree⟩, rfl⟩
        simp only [done, storeEmergent, stored]
        refine Or.inr ⟨decided .accepted now (restoredEmergent row), true, ?_, writable, rfl, grown, rfl⟩
        have sameKey : (decided .accepted now (restoredEmergent row)).genesisId = genesisId := key
        rw [sameKey, found]
        exact .accepted _ _ rfl undecided rfl

theorem genesis_step_revision (state : GenesisState) (kept : Kept state) (event : GenesisEvent)
    (fresh : Fresh state event) (orderly : Orderly state event) :
    genesisStep state event = state ∨ ∃ aspect derived, Revision state (genesisStep state event) aspect derived := by
  cases event with
  | write aspect =>
      obtain ⟨status, absent⟩ := fresh
      obtain ⟨_, -, refused⟩ | ⟨writable, stored⟩ := store_emergent_cases aspect state
      · exact Or.inl (congrArg Prod.snd refused)
      · refine Or.inr ⟨aspect, false, ?_⟩
        rw [genesisStep, genesisCall, stored]
        exact ⟨by rw [absent]; exact .written _ status, writable, rfl, (List.append_nil _).symm,
          (List.append_nil _).symm⟩
  | review genesisId reviewer note now =>
      simp only [genesisStep, genesisCall, reviewEmergentAspect]
      cases read : readEmergentAspect genesisId state.grimoire with
      | error raised => exact Or.inl rfl
      | ok aspect =>
          obtain ⟨row, found, rfl⟩ := read_emergent_ok genesisId state.grimoire aspect read
          exact Or.inr ⟨_, false, store_version state kept genesisId row _ found rfl rfl rfl rfl
            (.reviewed _ _ rfl rfl)⟩
  | accept genesisId now => exact accept_revision state kept genesisId now orderly
  | reject genesisId now =>
      simp only [genesisStep, genesisCall, rejectEmergentAspect]
      cases read : readEmergentAspect genesisId state.grimoire with
      | error raised => exact Or.inl rfl
      | ok aspect =>
          have undecided := orderly aspect read
          obtain ⟨row, found, rfl⟩ := read_emergent_ok genesisId state.grimoire aspect read
          exact Or.inr ⟨_, false, store_version state kept genesisId row _ found rfl rfl rfl rfl
            (.rejected _ _ rfl undecided rfl)⟩

theorem revision_registered (state after : GenesisState) (aspect : EmergentAspect) (derived : Bool)
    (revision : Revision state after aspect derived) (name : String)
    (registered : state.registry.isRegistered name = true) : after.registry.isRegistered name = true := by
  simp only [AspectRegistry.isRegistered, revision.registered, List.any_append, Bool.or_eq_true] at registered ⊢
  exact Or.inl registered

theorem revision_row (state after : GenesisState) (aspect : EmergentAspect) (derived : Bool)
    (revision : Revision state after aspect derived) (genesisId : String) (row : EmergentAspect)
    (found : proposal? after genesisId = some row) :
    (genesisId = aspect.genesisId ∧ row = aspect) ∨
      (genesisId ≠ aspect.genesisId ∧ proposal? state genesisId = some row) := by
  rw [proposal_upsert state after aspect revision.proposals] at found
  split_ifs at found with same
  · exact Or.inl ⟨same.symm, (Option.some.inj found).symm⟩
  · exact Or.inr ⟨Ne.symm same, found⟩

theorem revision_derived (state after : GenesisState) (kept : Kept state) (aspect : EmergentAspect) (derived : Bool)
    (revision : Revision state after aspect derived) :
    aspect.genesisId ∈ after.derivedFrom ↔ aspect.status = .accepted := by
  rw [revision.derivedFrom]
  have turn := revision.turn
  generalize held : proposal? state aspect.genesisId = stored at turn
  cases turn with
  | written _ status =>
      have absent : aspect.genesisId ∉ state.derivedFrom := by
        intro listed
        obtain ⟨row, found, -⟩ := kept.registered _ listed
        rw [held] at found
        cases found
      simp [absent, status]
  | reviewed old _ _ status => simp [status, kept.derived _ old held]
  | rejected old _ _ undecided status => simp [status, kept.derived _ old held, undecided]
  | again old _ _ already status => simp [status, kept.derived _ old held, already]
  | accepted old _ _ _ status => simp [status]

theorem revision_decidable (state after : GenesisState) (kept : Kept state) (aspect : EmergentAspect) (derived : Bool)
    (revision : Revision state after aspect derived) : aspect.status ≠ .integrated := by
  have turn := revision.turn
  generalize held : proposal? state aspect.genesisId = stored at turn
  cases turn with
  | written _ status => simp [status]
  | reviewed old _ _ status => simpa [status] using kept.decidable _ old held
  | rejected _ _ _ _ status => simp [status]
  | again _ _ _ _ status => simp [status]
  | accepted _ _ _ _ status => simp [status]

theorem revision_named (state after : GenesisState) (kept : Kept state) (aspect : EmergentAspect) (derived : Bool)
    (revision : Revision state after aspect derived) (listed : aspect.genesisId ∈ after.derivedFrom) :
    after.registry.isRegistered aspect.proposedName = true := by
  have accepted := (revision_derived state after kept aspect derived revision).mp listed
  have turn := revision.turn
  generalize held : proposal? state aspect.genesisId = stored at turn
  have known : ∀ old, stored = some old → old.status = .accepted → aspect.proposedName = old.proposedName →
      after.registry.isRegistered aspect.proposedName = true := by
    intro old same already name
    rw [same] at held
    obtain ⟨own, found, registered⟩ := kept.registered _ ((kept.derived _ old held).mpr already)
    obtain rfl := Option.some.inj (held.symm.trans found)
    rw [name]
    exact revision_registered state after aspect derived revision _ registered
  cases turn with
  | written _ status => simp [status] at accepted
  | reviewed old _ name status => exact known old rfl (status ▸ accepted) name
  | rejected _ _ _ _ status => simp [status] at accepted
  | again old _ name already _ => exact known old rfl already name
  | accepted _ _ _ _ _ =>
      simp [AspectRegistry.isRegistered, revision.registered, EmergentAspect.proposedName]

theorem revision_writable (state after : GenesisState) (kept : Kept state) (aspect : EmergentAspect) (derived : Bool)
    (revision : Revision state after aspect derived) (genesisId : String) (row : EmergentAspect)
    (found : proposal? after genesisId = some row) : Writable row after.grimoire := by
  have others : ∀ old ∈ after.grimoire.emergentAspects.rows, old.genesisId ≠ aspect.genesisId →
      old ∈ state.grimoire.emergentAspects.rows := by
    intro old member differs
    have kept := revision_row state after aspect derived revision old.genesisId old (Table.find_row _ old member)
    obtain ⟨same, -⟩ | ⟨-, was⟩ := kept
    · exact absurd same differs
    · exact Table.find_mem _ _ old was
  obtain ⟨rfl, rfl⟩ | ⟨differs, was⟩ := revision_row state after aspect derived revision genesisId row found
  · exact ⟨revision.writable.supportCount, revision.writable.basisVersion,
      fun old member other => revision.writable.nameFree old (others old member other) other⟩
  · have writable := kept.writable genesisId row was
    have key := proposal_key state genesisId row was
    refine ⟨writable.supportCount, writable.basisVersion, fun old member other => ?_⟩
    by_cases here : old.genesisId = aspect.genesisId
    · have same : old = aspect := Table.row_unique _ old aspect member
        (Table.find_mem _ aspect.genesisId aspect
          ((proposal_upsert state after aspect revision.proposals _).trans (if_pos rfl))) here
      have inStore : row ∈ state.grimoire.emergentAspects.rows := Table.find_mem _ _ row was
      rw [same]
      exact Ne.symm (revision.writable.nameFree row inStore (key ▸ differs))
    · exact writable.nameFree old (others old member here) other

theorem kept_revision (state after : GenesisState) (kept : Kept state) (aspect : EmergentAspect) (derived : Bool)
    (revision : Revision state after aspect derived) : Kept after where
  derived := by
    intro genesisId row found
    obtain ⟨rfl, rfl⟩ | ⟨differs, was⟩ := revision_row state after aspect derived revision genesisId row found
    · exact revision_derived state after kept row derived revision
    · rw [revision.derivedFrom, ← kept.derived genesisId row was]
      cases derived <;> simp [differs]
  registered := by
    intro genesisId listed
    by_cases same : genesisId = aspect.genesisId
    · subst same
      exact ⟨aspect, (proposal_upsert state after aspect revision.proposals _).trans (if_pos rfl),
        revision_named state after kept aspect derived revision listed⟩
    · have before : genesisId ∈ state.derivedFrom := by
        rw [revision.derivedFrom] at listed
        cases derived <;> simpa [same] using listed
      obtain ⟨row, found, registered⟩ := kept.registered genesisId before
      exact ⟨row, (proposal_upsert state after aspect revision.proposals _).trans
        ((if_neg (Ne.symm same)).trans found), revision_registered state after aspect derived revision _ registered⟩
  decidable := by
    intro genesisId row found
    obtain ⟨rfl, rfl⟩ | ⟨-, was⟩ := revision_row state after aspect derived revision genesisId row found
    · exact revision_decidable state after kept row derived revision
    · exact kept.decidable genesisId row was
  writable := revision_writable state after kept aspect derived revision

theorem kept_step (state : GenesisState) (kept : Kept state) (event : GenesisEvent) (fresh : Fresh state event)
    (orderly : Orderly state event) : Kept (genesisStep state event) := by
  obtain same | ⟨aspect, derived, revision⟩ := genesis_step_revision state kept event fresh orderly
  · rw [same]
    exact kept
  · exact kept_revision state _ kept aspect derived revision

theorem decision_kept (state : GenesisState) (kept : Kept state) (event : GenesisEvent) (fresh : Fresh state event)
    (orderly : Orderly state event) (genesisId : String) (status : GenesisStatus)
    (decision : status = .accepted ∨ status = .rejected) (held : statusOf state genesisId = some status) :
    statusOf (genesisStep state event) genesisId = some status := by
  obtain same | ⟨aspect, derived, revision⟩ := genesis_step_revision state kept event fresh orderly
  · rw [same]
    exact held
  · obtain ⟨row, found, had⟩ := Option.map_eq_some_iff.mp held
    rw [statusOf, proposal_upsert state _ aspect revision.proposals]
    by_cases same : aspect.genesisId = genesisId
    · rw [if_pos same, Option.map_some]
      have turn := revision.turn
      rw [same, found] at turn
      cases turn with
      | reviewed _ _ _ kept => rw [kept, had]
      | rejected _ _ _ undecided now =>
          obtain rfl | rfl := decision
          · exact absurd had undecided
          · rw [now]
      | again _ _ _ already now => rw [now, ← had, already]
      | accepted _ _ _ undecided now =>
          obtain rfl | rfl := decision
          · rw [now]
          · exact absurd (had.symm.trans undecided) (by decide)
    · rw [if_neg same, found, Option.map_some, had]

section Run

variable (start : GenesisState) (events : List GenesisEvent)

theorem kept_start (empty : start.grimoire.emergentAspects.rows = []) (underived : start.derivedFrom = []) :
    Kept start := by
  have nothing : ∀ genesisId row, proposal? start genesisId ≠ some row := by
    intro genesisId row found
    have member := Table.find_mem _ _ row found
    rw [empty] at member
    cases member
  refine ⟨fun genesisId row found => absurd found (nothing genesisId row), ?_,
    fun genesisId row found => absurd found (nothing genesisId row),
    fun genesisId row found => absurd found (nothing genesisId row)⟩
  rw [underived]
  intro genesisId listed
  cases listed

theorem kept_run (kept : Kept start)
    (fresh : ∀ before event, Taken genesisStep start events before event → Fresh before event)
    (orderly : ∀ before event, Taken genesisStep start events before event → Orderly before event) :
    Kept (run genesisStep start events) :=
  run_invariant Kept start events kept fun before event taken kept =>
    kept_step before kept event (fresh before event taken) (orderly before event taken)

theorem decision_run (kept : Kept start)
    (fresh : ∀ before event, Taken genesisStep start events before event → Fresh before event)
    (orderly : ∀ before event, Taken genesisStep start events before event → Orderly before event)
    (pre post : List GenesisEvent) (split : events = pre ++ post) (genesisId : String) (status : GenesisStatus)
    (decision : status = .accepted ∨ status = .rejected)
    (held : statusOf (run genesisStep start pre) genesisId = some status) :
    statusOf (run genesisStep start events) genesisId = some status := by
  subst split
  have keptPre := kept_run start pre kept (fun before event taken => fresh before event (taken_front _ _ _ _ _ taken))
    (fun before event taken => orderly before event (taken_front _ _ _ _ _ taken))
  rw [run_append]
  refine (run_invariant (fun state => Kept state ∧ statusOf state genesisId = some status) _ post
    ⟨keptPre, held⟩ ?_).2
  rintro before event taken ⟨kept, held⟩
  have inRun := taken_back start pre post before event taken
  exact ⟨kept_step before kept event (fresh before event inRun) (orderly before event inRun),
    decision_kept before kept event (fresh before event inRun) (orderly before event inRun) genesisId status
      decision held⟩

end Run

inductive Rewrites (state : GenesisState) (genesisId : String) : GenesisEvent → EmergentAspect → Prop where
  | write (aspect : EmergentAspect) (sameId : aspect.genesisId = genesisId) :
      Rewrites state genesisId (.write aspect) aspect
  | review (old : EmergentAspect) (reviewer : String) (note : Option String) (now : Datetime)
      (found : proposal? state genesisId = some old) :
      Rewrites state genesisId (.review genesisId reviewer note now)
        { restoredEmergent old with reviewedBy := some reviewer, reviewedAt := some now, reviewNote := note }
  | accept (old : EmergentAspect) (now : Datetime) (found : proposal? state genesisId = some old)
      (reviewed : old.reviewedAt ≠ none) :
      Rewrites state genesisId (.accept genesisId now) (decided .accepted now (restoredEmergent old))
  | reject (old : EmergentAspect) (now : Datetime) (found : proposal? state genesisId = some old) :
      Rewrites state genesisId (.reject genesisId now) (decided .rejected now (restoredEmergent old))

theorem store_emergent_row (aspect : EmergentAspect) (state : GenesisState) (genesisId : String)
    (row : EmergentAspect) (found : proposal? (storeEmergent aspect state).2 genesisId = some row) :
    proposal? state genesisId = some row ∨ (aspect.genesisId = genesisId ∧ row = aspect) := by
  obtain ⟨_, -, stored⟩ | ⟨-, stored⟩ := store_emergent_cases aspect state
  · rw [stored] at found
    exact Or.inl found
  · rw [stored, proposal_upsert state _ aspect rfl] at found
    split_ifs at found with same
    · exact Or.inr ⟨same, (Option.some.inj found).symm⟩
    · exact Or.inl found

theorem register_derived_proposals (accepted : EmergentAspect) (state : GenesisState) :
    (registerDerived accepted state).2.grimoire.emergentAspects = state.grimoire.emergentAspects := by
  rw [registerDerived]
  split_ifs
  · rfl
  · cases state.registry.register accepted.derived with
    | error raised => rfl
    | ok registry =>
        by_cases taken : state.grimoire.registeredAspects.Has accepted.derived.name
        · simp only [write_registered_aspect_taken _ _ _ _ taken]
        · simp only [write_registered_aspect_fresh _ _ _ _ taken]

theorem genesis_step_row (state : GenesisState) (event : GenesisEvent) (genesisId : String) (row : EmergentAspect)
    (found : proposal? (genesisStep state event) genesisId = some row) :
    proposal? state genesisId = some row ∨ Rewrites state genesisId event row := by
  cases event with
  | write aspect =>
      obtain kept | ⟨sameId, rfl⟩ := store_emergent_row aspect state genesisId row found
      · exact Or.inl kept
      · exact Or.inr (.write row sameId)
  | review asked reviewer note now =>
      simp only [genesisStep, genesisCall, reviewEmergentAspect] at found
      cases read : readEmergentAspect asked state.grimoire with
      | error raised =>
          simp only [read] at found
          exact Or.inl found
      | ok aspect =>
          obtain ⟨old, held, rfl⟩ := read_emergent_ok asked state.grimoire aspect read
          simp only [read] at found
          obtain kept | ⟨sameId, rfl⟩ := store_emergent_row _ state genesisId row found
          · exact Or.inl kept
          · obtain rfl : asked = genesisId := (proposal_key state asked old held).symm.trans sameId
            exact Or.inr (.review old reviewer note now held)
  | accept asked now =>
      simp only [genesisStep, genesisCall, acceptEmergentAspect] at found
      cases read : readEmergentAspect asked state.grimoire with
      | error raised =>
          simp only [read] at found
          exact Or.inl found
      | ok aspect =>
          obtain ⟨old, held, rfl⟩ := read_emergent_ok asked state.grimoire aspect read
          simp only [read] at found
          split_ifs at found with unreviewed
          · exact Or.inl found
          have proposals := register_derived_proposals (decided .accepted now (restoredEmergent old)) state
          cases done : registerDerived (decided .accepted now (restoredEmergent old)) state with
          | mk outcome middle =>
              have same : proposal? middle = proposal? state := by
                rw [done] at proposals
                funext k
                rw [proposal?, proposals, proposal?]
              cases outcome with
              | error raised =>
                  simp only [done] at found
                  exact Or.inl (same ▸ found)
              | ok registered =>
                  simp only [done] at found
                  obtain kept | ⟨sameId, rfl⟩ := store_emergent_row _ middle genesisId row found
                  · exact Or.inl (same ▸ kept)
                  · obtain rfl : asked = genesisId := (proposal_key state asked old held).symm.trans sameId
                    exact Or.inr (.accept old now held unreviewed)
  | reject asked now =>
      simp only [genesisStep, genesisCall, rejectEmergentAspect] at found
      cases read : readEmergentAspect asked state.grimoire with
      | error raised =>
          simp only [read] at found
          exact Or.inl found
      | ok aspect =>
          obtain ⟨old, held, rfl⟩ := read_emergent_ok asked state.grimoire aspect read
          simp only [read] at found
          obtain kept | ⟨sameId, rfl⟩ := store_emergent_row _ state genesisId row found
          · exact Or.inl kept
          · obtain rfl : asked = genesisId := (proposal_key state asked old held).symm.trans sameId
            exact Or.inr (.reject old now held)

def Reviews (genesisId : String) : GenesisEvent → Prop
  | .review asked _ _ _ => asked = genesisId
  | .write aspect => aspect.genesisId = genesisId ∧ aspect.reviewedAt ≠ none
  | _ => False

section History

variable (start : GenesisState) (empty : start.grimoire.emergentAspects.rows = []) (events : List GenesisEvent)

include empty

theorem no_proposal (genesisId : String) : proposal? start genesisId = none := by
  rw [proposal?, Table.find?, empty]
  rfl

theorem reviewed_history (genesisId : String) (row : EmergentAspect)
    (found : proposal? (run genesisStep start events) genesisId = some row) (reviewed : row.reviewedAt ≠ none) :
    ∃ event ∈ events, Reviews genesisId event := by
  induction events using List.reverseRecOn generalizing row with
  | nil =>
      have absent := no_proposal start empty genesisId
      exact absurd (absent.symm.trans found) (by simp)
  | append_singleton events last ih =>
      have earlier : ∀ row, proposal? (run genesisStep start events) genesisId = some row → row.reviewedAt ≠ none →
          ∃ event ∈ events ++ [last], Reviews genesisId event := by
        intro row found reviewed
        obtain ⟨event, member, reviews⟩ := ih row found reviewed
        exact ⟨event, List.mem_append_left _ member, reviews⟩
      have isLast : last ∈ events ++ [last] := List.mem_append_right _ List.mem_cons_self
      rw [run_concat] at found
      obtain was | rewrites := genesis_step_row _ last genesisId row found
      · exact earlier row was reviewed
      · cases rewrites with
        | write aspect sameId => exact ⟨_, isLast, sameId, reviewed⟩
        | review old reviewer note now held => exact ⟨_, isLast, rfl⟩
        | accept old now held was => exact earlier old held was
        | reject old now held => exact earlier old held reviewed

theorem accepted_history
    (fresh : ∀ before event, Taken genesisStep start events before event → Fresh before event) (genesisId : String)
    (accepted : statusOf (run genesisStep start events) genesisId = some .accepted) :
    ∃ pre now post, events = pre ++ .accept genesisId now :: post ∧ ∃ event ∈ pre, Reviews genesisId event := by
  induction events using List.reverseRecOn with
  | nil =>
      rw [statusOf, run, List.foldl_nil, no_proposal start empty genesisId] at accepted
      cases accepted
  | append_singleton events last ih =>
      have earlier : statusOf (run genesisStep start events) genesisId = some .accepted →
          ∃ pre now post, events ++ [last] = pre ++ .accept genesisId now :: post ∧
            ∃ event ∈ pre, Reviews genesisId event := by
        intro accepted
        obtain ⟨pre, now, post, split, reviewed⟩ :=
          ih (fun before event taken => fresh before event (taken_front _ _ _ _ _ taken)) accepted
        exact ⟨pre, now, post ++ [last], by rw [split]; simp, reviewed⟩
      rw [run_concat] at accepted
      obtain ⟨row, found, status⟩ := Option.map_eq_some_iff.mp accepted
      obtain was | rewrites := genesis_step_row _ last genesisId row found
      · exact earlier (by rw [statusOf, was, Option.map_some, status])
      · cases rewrites with
        | write aspect sameId =>
            have proposed := (fresh _ _ ((taken_concat _ _ _ _ _).mpr (Or.inr ⟨rfl, rfl⟩))).1
            exact absurd (proposed.symm.trans status) (by decide)
        | review old reviewer note now held =>
            exact earlier (by rw [statusOf, held, Option.map_some]; exact congrArg some status)
        | accept old now held reviewed =>
            exact ⟨events, now, [], rfl, reviewed_history start empty events genesisId old held reviewed⟩
        | reject old now held => exact absurd status (by simp [decided])

end History

structure Lifecycle (start : GenesisState) (events : List GenesisEvent) : Prop where
  staysAccepted : ∀ pre post genesisId, events = pre ++ post →
    statusOf (run genesisStep start pre) genesisId = some .accepted →
      statusOf (run genesisStep start events) genesisId ≠ some .rejected
  staysRejected : ∀ pre post genesisId, events = pre ++ post →
    statusOf (run genesisStep start pre) genesisId = some .rejected →
      statusOf (run genesisStep start events) genesisId ≠ some .accepted
  reviewedFirst : ∀ genesisId, statusOf (run genesisStep start events) genesisId = some .accepted →
    ∃ pre now post, events = pre ++ .accept genesisId now :: post ∧ ∃ event ∈ pre, Reviews genesisId event
  derivedIff : ∀ genesisId row, proposal? (run genesisStep start events) genesisId = some row →
    ((genesisId ∈ (run genesisStep start events).derivedFrom ∧
      (run genesisStep start events).registry.isRegistered row.proposedName = true) ↔ row.status = .accepted)
  takenRefused : ∀ before genesisId now row, Taken genesisStep start events before (.accept genesisId now) →
    proposal? before genesisId = some row → before.registry.isRegistered row.proposedName = true →
      genesisId ∉ before.derivedFrom →
        ∃ raised, genesisCall before (.accept genesisId now) = (.error raised, before)

theorem taken_name_refused (state : GenesisState) (kept : Kept state) (genesisId : String) (now : Datetime)
    (orderly : Orderly state (.accept genesisId now)) (row : EmergentAspect)
    (found : proposal? state genesisId = some row)
    (registered : state.registry.isRegistered row.proposedName = true) (underived : genesisId ∉ state.derivedFrom) :
    ∃ raised, genesisCall state (.accept genesisId now) = (.error raised, state) := by
  rw [genesisCall, acceptEmergentAspect]
  cases read : readEmergentAspect genesisId state.grimoire with
  | error raised => exact ⟨raised, rfl⟩
  | ok aspect =>
      by_cases unreviewed : aspect.reviewedAt = none
      · simp only [if_pos unreviewed]
        exact ⟨_, rfl⟩
      · have known := (orderly aspect read unreviewed).1
        obtain ⟨own, held, rfl⟩ := read_emergent_ok genesisId state.grimoire aspect read
        obtain rfl := Option.some.inj (found.symm.trans held)
        exact absurd ((kept.derived genesisId row found).mpr (known registered)) underived

theorem genesis_lifecycle (start : GenesisState) (events : List GenesisEvent)
    (empty : start.grimoire.emergentAspects.rows = []) (underived : start.derivedFrom = [])
    (fresh : ∀ before event, Taken genesisStep start events before event → Fresh before event)
    (orderly : ∀ before event, Taken genesisStep start events before event → Orderly before event) :
    Lifecycle start events := by
  have keptStart := kept_start start empty underived
  have kept := kept_run start events keptStart fresh orderly
  refine ⟨?_, ?_, ?_, ?_, ?_⟩
  · intro pre post genesisId split accepted
    rw [decision_run start events keptStart fresh orderly pre post split genesisId .accepted (Or.inl rfl) accepted]
    simp
  · intro pre post genesisId split rejected
    rw [decision_run start events keptStart fresh orderly pre post split genesisId .rejected (Or.inr rfl) rejected]
    simp
  · exact fun genesisId accepted => accepted_history start empty events fresh genesisId accepted
  · intro genesisId row found
    rw [← kept.derived genesisId row found, and_iff_left_iff_imp]
    intro listed
    obtain ⟨own, held, registered⟩ := kept.registered genesisId listed
    obtain rfl := Option.some.inj (found.symm.trans held)
    exact registered
  · intro before genesisId now row taken found registered absent
    obtain ⟨pre, post, split, rfl⟩ := taken
    have early : ∀ before event, Taken genesisStep start pre before event →
        Taken genesisStep start events before event := by
      intro before event taken
      rw [split]
      exact taken_front start pre _ before event taken
    have keptPre := kept_run start pre keptStart (fun before event taken => fresh before event (early _ _ taken))
      (fun before event taken => orderly before event (early _ _ taken))
    exact taken_name_refused _ keptPre genesisId now (orderly _ _ ⟨pre, post, split, rfl⟩) row found registered absent

def sampleTime : Datetime := .newYear 2026 (Eq.refl true)

def harmony : RegisteredAspect where
  name := "HARMONY"
  polarity := 1
  entropyCoefficient := 1
  symbol := "H"
  nameValid := by decide
  polarityValid := Or.inr rfl
  entropyRange := full_entropy
  symbolLength := rfl

def harmonyProposal : EmergentAspect where
  genesisId := "G"
  derived := harmony
  centroidVector := fromAspects {} { names := ["MIND"], distinct := List.nodup_singleton _ }
  supportCount := 3
  meanResonance := 9 / 10
  coherenceRate := 9 / 10
  proposedAt := sampleTime

def newGenesis : GenesisState where
  registry := {}
  grimoire := {}

def harmonyAccepted : List GenesisEvent :=
  [.write harmonyProposal, .accept "G" sampleTime, .review "G" "reviewer" none sampleTime, .accept "G" sampleTime]

theorem genesis_lifecycle_orderly : Lifecycle newGenesis (harmonyAccepted ++ [.accept "G" sampleTime]) :=
  genesis_lifecycle newGenesis _ rfl rfl
    (along_taken Fresh newGenesis _ (by decide +kernel))
    (along_taken Orderly newGenesis _ (by decide +kernel))

theorem accepted_then_rejected :
    (∀ before event, Taken genesisStep newGenesis (harmonyAccepted ++ [.reject "G" sampleTime]) before event →
      Fresh before event) ∧
    ¬ Lifecycle newGenesis (harmonyAccepted ++ [.reject "G" sampleTime]) := by
  refine ⟨along_taken Fresh newGenesis _ (by decide +kernel), fun lifecycle => ?_⟩
  have accepted : statusOf (run genesisStep newGenesis harmonyAccepted) "G" = some .accepted := by
    decide +kernel
  have rejected : statusOf (run genesisStep newGenesis (harmonyAccepted ++ [.reject "G" sampleTime])) "G" =
      some .rejected := by
    decide +kernel
  exact lifecycle.staysAccepted _ [.reject "G" sampleTime] "G" rfl accepted rejected

end Vermyth
