import Mathlib.Data.List.Basic
import Mathlib.Logic.Relation

set_option autoImplicit false

namespace Foundation.BreadthFirst

variable {α β σ : Type}

inductive Within (next : α → α → Prop) (root : α) : Nat → α → Prop where
  | root (depth : Nat) : Within next root depth root
  | step (depth : Nat) (node other : α) (within : Within next root depth node) (edge : next node other) :
      Within next root (depth + 1) other

theorem within_succ (next : α → α → Prop) (root node : α) (depth : Nat) (within : Within next root depth node) :
    Within next root (depth + 1) node := by
  induction within with
  | root depth => exact .root (depth + 1)
  | step depth node other _ edge ih => exact .step (depth + 1) node other ih edge

theorem within_mono (next : α → α → Prop) (root node : α) (depth more : Nat) (le : depth ≤ more)
    (within : Within next root depth node) : Within next root more node := by
  induction le with
  | refl => exact within
  | step _ ih => exact within_succ next root node _ ih

theorem within_of_steps (next other : α → α → Prop) (root node : α) (depth : Nat)
    (steps : ∀ a b, next a b → other a b) (within : Within next root depth node) : Within other root depth node := by
  induction within with
  | root depth => exact .root depth
  | step depth node further _ edge ih => exact .step depth node further ih (steps node further edge)

theorem within_isolated (next : α → α → Prop) (root node : α) (depth : Nat) (isolated : ∀ other, ¬ next root other)
    (within : Within next root depth node) : node = root := by
  induction within with
  | root => rfl
  | step depth node other _ edge ih => exact absurd (ih ▸ edge) (isolated other)

section Search

-- A visit to a node leaves a state and gives the nodes that are found from it.
variable (visit : σ → α → σ × List α)

def visitLevel : List α → σ → σ × List α
  | [], state => (state, [])
  | node :: rest, state =>
      let visited := visit state node
      let later := visitLevel rest visited.1
      (later.1, visited.2 ++ later.2)

def levels : Nat → List α → σ → σ
  | 0, _, state => state
  | depths + 1, level, state =>
      levels depths (visitLevel visit level state).2 (visitLevel visit level state).1

-- The same as a loop that takes a node and its depth from the front of a queue.
def queueStep (limit : Nat) : σ × List (α × Nat) → Option (σ × List (α × Nat))
  | (_, []) => none
  | (state, (node, depth) :: rest) =>
      if limit ≤ depth then some (state, rest)
      else some ((visit state node).1, rest ++ (visit state node).2.map fun other => (other, depth + 1))

def QueueRuns (limit : Nat) : σ × List (α × Nat) → σ × List (α × Nat) → Prop :=
  Relation.ReflTransGen fun before after => queueStep visit limit before = some after

theorem queue_level (limit depth : Nat) (below : depth < limit) (level next : List α) (state : σ) :
    QueueRuns visit limit
      (state, level.map (fun node => (node, depth)) ++ next.map fun node => (node, depth + 1))
      ((visitLevel visit level state).1,
        (next ++ (visitLevel visit level state).2).map fun node => (node, depth + 1)) := by
  induction level generalizing state next with
  | nil =>
      rw [visitLevel, List.append_nil]
      exact .refl
  | cons node rest ih =>
      have taken : queueStep visit limit
          (state, (node :: rest).map (fun node => (node, depth)) ++ next.map fun node => (node, depth + 1)) =
          some ((visit state node).1, rest.map (fun node => (node, depth)) ++
            (next ++ (visit state node).2).map fun node => (node, depth + 1)) := by
        rw [List.map_cons, List.cons_append, queueStep, if_neg (Nat.not_le.mpr below), List.append_assoc,
          List.map_append]
      refine .head taken ?_
      have later := ih (next ++ (visit state node).2) (visit state node).1
      rw [List.append_assoc] at later
      exact later

theorem queue_ends (limit depth : Nat) (reached : limit ≤ depth) (level : List α) (state : σ) :
    QueueRuns visit limit (state, level.map fun node => (node, depth)) (state, []) := by
  induction level with
  | nil => exact .refl
  | cons node rest ih =>
      refine .head ?_ ih
      rw [List.map_cons, queueStep, if_pos reached]

theorem queue_levels (limit depths depth : Nat) (total : depth + depths = limit) (level : List α) (state : σ) :
    QueueRuns visit limit (state, level.map fun node => (node, depth)) (levels visit depths level state, []) := by
  induction depths generalizing depth level state with
  | zero => exact queue_ends visit limit depth (by omega) level state
  | succ depths ih =>
      have first := queue_level visit limit depth (by omega) level [] state
      rw [List.map_nil, List.append_nil, List.nil_append] at first
      exact first.trans (ih (depth + 1) (by omega) _ _)

variable {visit}

structure Marks (visit : σ → α → σ × List α) (sound : σ → Prop) (seen : σ → α → Prop) (held : σ → β → Prop)
    (next : α → α → Prop) (out : α → β → Prop) : Prop where
  keeps : ∀ (state : σ) (node : α), sound state → seen state node → sound (visit state node).1
  sees : ∀ (state : σ) (node : α), sound state → seen state node →
    ∀ other, seen (visit state node).1 other ↔ seen state other ∨ next node other
  finds : ∀ (state : σ) (node : α), sound state → seen state node →
    ∀ other, other ∈ (visit state node).2 ↔ next node other ∧ ¬ seen state other
  collects : ∀ (state : σ) (node : α), sound state → seen state node →
    ∀ item, held (visit state node).1 item ↔ held state item ∨ out node item

structure AtDepth (sound : σ → Prop) (seen : σ → α → Prop) (held : σ → β → Prop) (next : α → α → Prop)
    (out : α → β → Prop) (root : α) (depth : Nat) (level : List α) (state : σ) : Prop where
  sound : sound state
  seen : ∀ node, seen state node ↔ Within next root depth node
  level : ∀ node, node ∈ level ↔ Within next root depth node ∧ ∀ less < depth, ¬ Within next root less node
  held : ∀ item, held state item ↔ ∃ node less, less < depth ∧ Within next root less node ∧ out node item

variable {sound : σ → Prop} {seen : σ → α → Prop} {held : σ → β → Prop} {next : α → α → Prop} {out : α → β → Prop}

theorem visit_level (marks : Marks visit sound seen held next out) (level : List α) (state : σ)
    (isSound : sound state) (marked : ∀ node ∈ level, seen state node) :
    sound (visitLevel visit level state).1 ∧
      (∀ other, seen (visitLevel visit level state).1 other ↔
        seen state other ∨ ∃ node ∈ level, next node other) ∧
      (∀ other, other ∈ (visitLevel visit level state).2 ↔
        (∃ node ∈ level, next node other) ∧ ¬ seen state other) ∧
      ∀ item, held (visitLevel visit level state).1 item ↔ held state item ∨ ∃ node ∈ level, out node item := by
  induction level generalizing state with
  | nil => simp [visitLevel, isSound]
  | cons node rest ih =>
      have mark := marked node List.mem_cons_self
      have keeps := marks.sees state node isSound mark
      obtain ⟨soundAfter, seenAfter, foundAfter, heldAfter⟩ := ih (visit state node).1
        (marks.keeps state node isSound mark)
        fun later member => (keeps later).mpr (Or.inl (marked later (List.mem_cons_of_mem _ member)))
      refine ⟨soundAfter, ?_, ?_, ?_⟩
      · intro other
        simp only [visitLevel, seenAfter, keeps, List.exists_mem_cons_iff, or_assoc]
      · intro other
        simp only [visitLevel, List.mem_append, foundAfter, marks.finds state node isSound mark, keeps,
          List.exists_mem_cons_iff]
        tauto
      · intro item
        simp only [visitLevel, heldAfter, marks.collects state node isSound mark, List.exists_mem_cons_iff, or_assoc]

theorem level_or_less (root node : α) (depth : Nat) (level : List α) (state : σ)
    (stands : AtDepth sound seen held next out root depth level state) (within : Within next root depth node) :
    node ∈ level ∨ ∃ less < depth, Within next root less node := by
  by_cases shallow : ∃ less < depth, Within next root less node
  · exact Or.inr shallow
  · exact Or.inl ((stands.level node).mpr ⟨within, fun less below inside => shallow ⟨less, below, inside⟩⟩)

theorem within_next (root other : α) (depth : Nat) (level : List α) (state : σ)
    (stands : AtDepth sound seen held next out root depth level state) :
    Within next root (depth + 1) other ↔ Within next root depth other ∨ ∃ node ∈ level, next node other := by
  constructor
  · intro within
    cases within with
    | root => exact Or.inl (.root depth)
    | step _ node _ inside edge =>
        rcases level_or_less root node depth level state stands inside with onLevel | ⟨less, below, shallow⟩
        · exact Or.inr ⟨node, onLevel, edge⟩
        · exact Or.inl (within_mono next root other (less + 1) depth below (.step less node other shallow edge))
  · rintro (within | ⟨node, onLevel, edge⟩)
    · exact within_succ next root other depth within
    · exact .step depth node other ((stands.level node).mp onLevel).1 edge

theorem next_depth (marks : Marks visit sound seen held next out) (root : α) (depth : Nat) (level : List α) (state : σ)
    (stands : AtDepth sound seen held next out root depth level state) :
    AtDepth sound seen held next out root (depth + 1) (visitLevel visit level state).2
      (visitLevel visit level state).1 := by
  obtain ⟨soundAfter, seenAfter, foundAfter, heldAfter⟩ := visit_level marks level state stands.sound
    fun node onLevel => (stands.seen node).mpr ((stands.level node).mp onLevel).1
  have further := fun other => within_next root other depth level state stands
  refine ⟨soundAfter, ?_, ?_, ?_⟩
  · intro other
    rw [seenAfter, stands.seen, further]
  · intro other
    rw [foundAfter, stands.seen, further]
    constructor
    · rintro ⟨edge, unseen⟩
      refine ⟨Or.inr edge, fun less below within => unseen ?_⟩
      exact within_mono next root other less depth (by omega) within
    · rintro ⟨within, deep⟩
      have unseen : ¬ Within next root depth other := deep depth (Nat.lt_succ_self depth)
      exact ⟨within.resolve_left unseen, unseen⟩
  · intro item
    rw [heldAfter, stands.held]
    constructor
    · rintro (⟨node, less, below, within, collected⟩ | ⟨node, onLevel, collected⟩)
      · exact ⟨node, less, by omega, within, collected⟩
      · exact ⟨node, depth, Nat.lt_succ_self depth, ((stands.level node).mp onLevel).1, collected⟩
    · rintro ⟨node, less, below, within, collected⟩
      have inside := within_mono next root node less depth (by omega) within
      rcases level_or_less root node depth level state stands inside with onLevel | ⟨least, shallow, reached⟩
      · exact Or.inr ⟨node, onLevel, collected⟩
      · exact Or.inl ⟨node, least, shallow, reached, collected⟩

theorem levels_at_depth (marks : Marks visit sound seen held next out) (root : α) (depths depth : Nat)
    (level : List α) (state : σ) (stands : AtDepth sound seen held next out root depth level state) :
    ∃ last, AtDepth sound seen held next out root (depth + depths) last (levels visit depths level state) := by
  induction depths generalizing depth level state with
  | zero => exact ⟨level, stands⟩
  | succ depths ih =>
      obtain ⟨last, ends⟩ := ih (depth + 1) _ _ (next_depth marks root depth level state stands)
      refine ⟨last, ?_⟩
      rw [show depth + (depths + 1) = depth + 1 + depths by omega]
      exact ends

theorem levels_exact (marks : Marks visit sound seen held next out) (root : α) (limit : Nat) (start : σ)
    (starts : sound start) (seesRoot : ∀ node, seen start node ↔ node = root) (holdsNone : ∀ item, ¬ held start item) :
    sound (levels visit limit [root] start) ∧
      (∀ node, seen (levels visit limit [root] start) node ↔ Within next root limit node) ∧
      ∀ item, held (levels visit limit [root] start) item ↔
        ∃ node less, less < limit ∧ Within next root less node ∧ out node item := by
  have atRoot : ∀ node, node = root ↔ Within next root 0 node := by
    intro node
    constructor
    · rintro rfl
      exact .root 0
    · intro within
      cases within
      rfl
  have stands : AtDepth sound seen held next out root 0 [root] start := by
    refine ⟨starts, ?_, ?_, ?_⟩
    · intro node
      rw [seesRoot, atRoot]
    · intro node
      rw [List.mem_singleton, atRoot]
      exact ⟨fun within => ⟨within, fun less below => absurd below (Nat.not_lt_zero less)⟩, And.left⟩
    · intro item
      refine iff_of_false (holdsNone item) ?_
      rintro ⟨_, less, below, -⟩
      exact Nat.not_lt_zero less below
  obtain ⟨last, ends⟩ := levels_at_depth marks root limit 0 [root] start stands
  rw [Nat.zero_add] at ends
  exact ⟨ends.sound, ends.seen, ends.held⟩

end Search

end Foundation.BreadthFirst
