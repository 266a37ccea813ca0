import Mathlib.Data.List.Dedup
import Mathlib.Data.List.Induction

set_option autoImplicit false

-- A bounded memory of answers, where the key that was used longest ago makes
-- room: functools.lru_cache.
namespace Foundation

variable {κ ν ε : Type} [DecidableEq κ]

def moveToFront (entries : List (κ × ν)) (entry : κ × ν) : List (κ × ν) :=
  entry :: entries.filter fun other => other.1 ≠ entry.1

def recent (served : List (κ × ν)) : List (κ × ν) := served.foldl moveToFront []

def Within (capacity : Nat) (served : List (κ × ν)) (key : κ) (value : ν) : Prop :=
  ∃ before after, served = before ++ (key, value) :: after ∧ key ∉ after.map Prod.fst ∧
    (after.map Prod.fst).dedup.length < capacity

theorem keys_filter (entries : List (κ × ν)) (key : κ) :
    (entries.filter fun other => other.1 ≠ key).map Prod.fst = (entries.map Prod.fst).filter (· ≠ key) := by
  rw [List.filter_map]
  rfl

theorem front_keys (entries : List (κ × ν)) (entry : κ × ν) (key : κ) :
    key ∈ (moveToFront entries entry).map Prod.fst ↔ key = entry.1 ∨ key ∈ entries.map Prod.fst := by
  rw [moveToFront, List.map_cons, List.mem_cons, keys_filter, List.mem_filter, decide_eq_true_eq]
  by_cases same : key = entry.1
  · simp [same]
  · simp [same]

theorem front_distinct (entries : List (κ × ν)) (entry : κ × ν) (distinct : (entries.map Prod.fst).Nodup) :
    ((moveToFront entries entry).map Prod.fst).Nodup := by
  rw [moveToFront, List.map_cons, List.nodup_cons, keys_filter]
  refine ⟨fun member => ?_, distinct.filter _⟩
  exact of_decide_eq_true (List.mem_filter.mp member).2 rfl

theorem recent_snoc (served : List (κ × ν)) (entry : κ × ν) :
    recent (served ++ [entry]) = moveToFront (recent served) entry := by
  rw [recent, recent, List.foldl_append, List.foldl_cons, List.foldl_nil]

theorem recent_distinct (served : List (κ × ν)) : ((recent served).map Prod.fst).Nodup := by
  induction served using List.reverseRecOn with
  | nil => exact List.nodup_nil
  | append_singleton rest entry ih =>
      rw [recent_snoc]
      exact front_distinct _ entry ih

theorem recent_keys (served : List (κ × ν)) (key : κ) :
    key ∈ (recent served).map Prod.fst ↔ key ∈ served.map Prod.fst := by
  induction served using List.reverseRecOn with
  | nil => rfl
  | append_singleton rest entry ih =>
      rw [recent_snoc, front_keys, ih, List.map_append, List.mem_append, List.map_singleton, List.mem_singleton,
        or_comm]

-- A key is dropped at most once, so one place more is enough to know the rest.
theorem take_filter_take (key : κ) (entries : List (κ × ν)) (count : Nat) (distinct : (entries.map Prod.fst).Nodup) :
    ((entries.take (count + 1)).filter fun other => other.1 ≠ key).take count =
      (entries.filter fun other => other.1 ≠ key).take count := by
  induction entries generalizing count with
  | nil => rfl
  | cons first rest ih =>
      obtain ⟨fresh, restDistinct⟩ := List.nodup_cons.mp distinct
      rw [List.take_succ_cons]
      by_cases same : first.1 = key
      · have others : ∀ other ∈ rest, decide (other.1 ≠ key) = true := by
          intro other member
          refine decide_eq_true fun isKey => fresh ?_
          rw [same, ← isKey]
          exact List.mem_map_of_mem member
        have taken : ∀ other ∈ rest.take count, decide (other.1 ≠ key) = true :=
          fun other member => others other (List.mem_of_mem_take member)
        rw [List.filter_cons_of_neg (by simpa using same), List.filter_cons_of_neg (by simpa using same),
          List.filter_eq_self.mpr others, List.filter_eq_self.mpr taken, List.take_take, Nat.min_self]
      · rw [List.filter_cons_of_pos (by simpa using same), List.filter_cons_of_pos (by simpa using same)]
        cases count with
        | zero => rfl
        | succ count => rw [List.take_succ_cons, List.take_succ_cons, ih count restDistinct]

theorem take_front (capacity : Nat) (entries : List (κ × ν)) (entry : κ × ν)
    (distinct : (entries.map Prod.fst).Nodup) :
    (moveToFront (entries.take capacity) entry).take capacity = (moveToFront entries entry).take capacity := by
  cases capacity with
  | zero => rfl
  | succ count =>
      rw [moveToFront, moveToFront, List.take_succ_cons, List.take_succ_cons, take_filter_take _ _ _ distinct]

theorem recent_split (before after : List (κ × ν)) (key : κ) (value : ν) (last : key ∉ after.map Prod.fst) :
    ∃ front back, recent (before ++ (key, value) :: after) = front ++ (key, value) :: back ∧
      (front.map Prod.fst).Perm (after.map Prod.fst).dedup := by
  induction after using List.reverseRecOn with
  | nil =>
      refine ⟨[], (recent before).filter fun other => other.1 ≠ key, ?_, List.Perm.refl _⟩
      rw [recent_snoc, List.nil_append, moveToFront]
  | append_singleton rest entry ih =>
      rw [List.map_append, List.mem_append, not_or, List.map_singleton, List.mem_singleton] at last
      obtain ⟨front, back, split, perm⟩ := ih last.1
      have other : decide ((key, value).1 ≠ entry.1) = true := decide_eq_true last.2
      have grown : recent (before ++ (key, value) :: (rest ++ [entry])) =
          moveToFront front entry ++ (key, value) :: back.filter fun other => other.1 ≠ entry.1 := by
        rw [← List.cons_append, ← List.append_assoc, recent_snoc, split, moveToFront, List.filter_append,
          List.filter_cons, if_pos other, moveToFront, List.cons_append]
      refine ⟨_, _, grown, ?_⟩
      have distinct : (front.map Prod.fst).Nodup := perm.nodup_iff.mpr (List.nodup_dedup _)
      refine (List.perm_ext_iff_of_nodup (front_distinct front entry distinct) (List.nodup_dedup _)).mpr fun own => ?_
      rw [front_keys, perm.mem_iff, List.mem_dedup, List.mem_dedup, List.map_append, List.mem_append,
        List.map_singleton, List.mem_singleton, or_comm]

theorem last_served (served : List (κ × ν)) (key : κ) (member : key ∈ served.map Prod.fst) :
    ∃ before value after, served = before ++ (key, value) :: after ∧ key ∉ after.map Prod.fst := by
  induction served using List.reverseRecOn with
  | nil => exact absurd member List.not_mem_nil
  | append_singleton rest entry ih =>
      by_cases own : entry.1 = key
      · exact ⟨rest, entry.2, [], by rw [← own], List.not_mem_nil⟩
      · have earlier : key ∈ rest.map Prod.fst := by
          rw [List.map_append, List.mem_append, List.map_singleton, List.mem_singleton] at member
          exact member.resolve_right (Ne.symm own)
        obtain ⟨before, value, after, rfl, last⟩ := ih earlier
        refine ⟨before, value, after ++ [entry], by rw [List.append_assoc, List.cons_append], ?_⟩
        rw [List.map_append, List.mem_append, List.map_singleton, List.mem_singleton]
        exact not_or.mpr ⟨last, Ne.symm own⟩

theorem lookup_take (front back : List (κ × ν)) (key : κ) (value : ν) (count : Nat)
    (fresh : key ∉ front.map Prod.fst) :
    ((front ++ (key, value) :: back).take count).lookup key = if front.length < count then some value else none := by
  have unseen : ∀ entries : List (κ × ν), key ∉ entries.map Prod.fst → entries.lookup key = none := by
    intro entries absent
    refine List.lookup_eq_none_iff.mpr fun entry member => ?_
    refine bne_iff_ne.mpr fun same => absent ?_
    rw [same]
    exact List.mem_map_of_mem member
  by_cases room : front.length < count
  · obtain ⟨more, rfl⟩ : ∃ more, count = front.length + (more + 1) := ⟨count - front.length - 1, by omega⟩
    rw [if_pos room, List.take_length_add_append, List.take_succ_cons, List.lookup_append, unseen front fresh,
      List.lookup_cons_self]
    rfl
  · rw [if_neg room, List.take_append_of_le_length (Nat.le_of_not_lt room)]
    refine unseen _ fun member => fresh ?_
    rw [List.map_take] at member
    exact List.mem_of_mem_take member

theorem kept_iff (capacity : Nat) (served : List (κ × ν)) (key : κ) (value : ν) :
    ((recent served).take capacity).lookup key = some value ↔ Within capacity served key value := by
  have at_last : ∀ (before after : List (κ × ν)) (own : ν), key ∉ after.map Prod.fst →
      ((recent (before ++ (key, own) :: after)).take capacity).lookup key =
        if (after.map Prod.fst).dedup.length < capacity then some own else none := by
    intro before after own last
    obtain ⟨front, back, split, perm⟩ := recent_split before after key own last
    have fresh : key ∉ front.map Prod.fst := by
      rw [perm.mem_iff, List.mem_dedup]
      exact last
    rw [split, lookup_take front back key own capacity fresh, ← perm.length_eq, List.length_map]
  constructor
  · intro found
    have member : key ∈ served.map Prod.fst := by
      obtain ⟨pre, post, split, -⟩ := List.lookup_eq_some_iff.mp found
      refine (recent_keys served key).mp (List.mem_map_of_mem (f := Prod.fst) (a := (key, value)) ?_)
      refine List.mem_of_mem_take (i := capacity) ?_
      rw [split]
      exact List.mem_append_right _ List.mem_cons_self
    obtain ⟨before, own, after, rfl, last⟩ := last_served served key member
    rw [at_last before after own last] at found
    by_cases room : (after.map Prod.fst).dedup.length < capacity
    · rw [if_pos room] at found
      cases found
      exact ⟨before, after, rfl, last, room⟩
    · rw [if_neg room] at found
      cases found
  · intro within
    obtain ⟨before, after, rfl, last, room⟩ := within
    rw [at_last before after value last, if_pos room]

structure Lru (κ ν : Type) (capacity : Nat) where
  entries : List (κ × ν)
  distinct : (entries.map Prod.fst).Nodup
  bounded : entries.length ≤ capacity

namespace Lru

variable {capacity : Nat}

omit [DecidableEq κ] in
theorem empty_distinct : (([] : List (κ × ν)).map Prod.fst).Nodup := List.nodup_nil

def empty : Lru κ ν capacity where
  entries := []
  distinct := empty_distinct
  bounded := Nat.zero_le _

theorem used_distinct (memory : Lru κ ν capacity) (entry : κ × ν) :
    (((moveToFront memory.entries entry).take capacity).map Prod.fst).Nodup := by
  rw [List.map_take]
  exact (front_distinct _ entry memory.distinct).sublist (List.take_sublist _ _)

def used (memory : Lru κ ν capacity) (entry : κ × ν) : Lru κ ν capacity where
  entries := (moveToFront memory.entries entry).take capacity
  distinct := used_distinct memory entry
  bounded := List.length_take_le _ _

-- A key that is kept is answered from memory. An answer that is raised is not
-- kept.
def call (memory : Lru κ ν capacity) (key : κ) (answer : Except ε ν) : Except ε ν × Lru κ ν capacity :=
  match memory.entries.lookup key, answer with
  | some held, _ => (.ok held, memory.used (key, held))
  | none, .ok fresh => (.ok fresh, memory.used (key, fresh))
  | none, .error raised => (.error raised, memory)

def Tracks (memory : Lru κ ν capacity) (served : List (κ × ν)) : Prop :=
  memory.entries = (recent served).take capacity

def logged (key : κ) : Except ε ν → List (κ × ν)
  | .ok value => [(key, value)]
  | .error _ => []

theorem empty_tracks : (empty : Lru κ ν capacity).Tracks [] := List.take_nil.symm

theorem used_tracks (memory : Lru κ ν capacity) (served : List (κ × ν)) (entry : κ × ν)
    (tracks : memory.Tracks served) : (memory.used entry).Tracks (served ++ [entry]) := by
  change (moveToFront memory.entries entry).take capacity = _
  rw [recent_snoc, tracks, take_front capacity _ entry (recent_distinct served)]

theorem call_hit (memory : Lru κ ν capacity) (key : κ) (answer : Except ε ν) (held : ν)
    (found : memory.entries.lookup key = some held) :
    memory.call key answer = (.ok held, memory.used (key, held)) := by
  unfold call
  rw [found]

theorem call_miss (memory : Lru κ ν capacity) (key : κ) (answer : Except ε ν)
    (missing : memory.entries.lookup key = none) : (memory.call key answer).1 = answer := by
  unfold call
  rw [missing]
  cases answer <;> rfl

theorem call_tracks (memory : Lru κ ν capacity) (served : List (κ × ν)) (key : κ) (answer : Except ε ν)
    (tracks : memory.Tracks served) :
    (memory.call key answer).2.Tracks (served ++ logged key (memory.call key answer).1) := by
  cases found : memory.entries.lookup key with
  | some held =>
      rw [call_hit memory key answer held found]
      exact used_tracks memory served (key, held) tracks
  | none =>
      unfold call
      rw [found]
      cases answer with
      | ok fresh => exact used_tracks memory served (key, fresh) tracks
      | error raised =>
          change memory.Tracks (served ++ [])
          rw [List.append_nil]
          exact tracks

theorem call_kept (memory : Lru κ ν capacity) (served : List (κ × ν)) (key : κ) (answer : Except ε ν) (value : ν)
    (tracks : memory.Tracks served) (within : Within capacity served key value) :
    (memory.call key answer).1 = .ok value := by
  have found : memory.entries.lookup key = some value := by
    rw [tracks]
    exact (kept_iff capacity served key value).mpr within
  rw [call_hit memory key answer value found]

theorem call_fresh (memory : Lru κ ν capacity) (served : List (κ × ν)) (key : κ) (answer : Except ε ν)
    (tracks : memory.Tracks served) (gone : ∀ value, ¬ Within capacity served key value) :
    (memory.call key answer).1 = answer := by
  refine call_miss memory key answer (Option.eq_none_iff_forall_ne_some.mpr fun value found => gone value ?_)
  rw [tracks] at found
  exact (kept_iff capacity served key value).mp found

end Lru

end Foundation
