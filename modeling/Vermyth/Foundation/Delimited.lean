import Mathlib.Data.List.Basic
import Mathlib.Data.List.Infix

set_option autoImplicit false

-- Items that are written one after another and read back one at a time.
namespace Foundation

variable {α β ε : Type}

inductive Ending (ε : Type) where
  | finished
  | raised (error : ε)
  | unread
deriving DecidableEq

def decodeRounds (decode : List β → Except ε (Option (α × List β))) : Nat → List β → List α × Ending ε
  | 0, _ => ([], .unread)
  | rounds + 1, stream =>
      match decode stream with
      | .error error => ([], .raised error)
      | .ok none => ([], .finished)
      | .ok (some (item, rest)) => (item :: (decodeRounds decode rounds rest).1, (decodeRounds decode rounds rest).2)

def decodeAll (decode : List β → Except ε (Option (α × List β))) (stream : List β) : List α × Ending ε :=
  decodeRounds decode (stream.length + 1) stream

-- Every item that is valid is read off its own wire form and off nothing else,
-- and a wire form that is cut short raises an error of a kind.
structure Delimited (decode : List β → Except ε (Option (α × List β))) (wire : α → List β) (valid : α → Prop)
    (kind : ε → Prop) : Prop where
  atEnd : decode [] = .ok none
  onlyAtEnd : ∀ stream, decode stream = .ok none → stream = []
  reads : ∀ item rest, valid item → decode (wire item ++ rest) = .ok (some (item, rest))
  wrote : ∀ stream item rest, decode stream = .ok (some (item, rest)) → valid item ∧ stream = wire item ++ rest
  cut : ∀ item pre, valid item → pre <+: wire item → pre ≠ [] → pre ≠ wire item →
    ∃ error, decode pre = .error error ∧ kind error
  nonempty : ∀ item, wire item ≠ []

section Delimited

variable {decode : List β → Except ε (Option (α × List β))} {wire : α → List β} {valid : α → Prop} {kind : ε → Prop}
  (delimited : Delimited decode wire valid kind)

include delimited

theorem rounds_read (item : α) (rest : List β) (own : valid item) (rounds : Nat) :
    decodeRounds decode (rounds + 1) (wire item ++ rest) =
      (item :: (decodeRounds decode rounds rest).1, (decodeRounds decode rounds rest).2) := by
  rw [decodeRounds, delimited.reads item rest own]

theorem rounds_prefix (items : List α) (valids : ∀ item ∈ items, valid item) (pre : List β)
    (front : pre <+: items.flatMap wire) (rounds : Nat) (enough : pre.length < rounds) :
    ∃ whole tail, items = whole ++ tail ∧ whole.flatMap wire <+: pre ∧
      (∀ next ∈ tail.head?, ¬ (whole ++ [next]).flatMap wire <+: pre) ∧
      (decodeRounds decode rounds pre).1 = whole ∧
      (pre = whole.flatMap wire → (decodeRounds decode rounds pre).2 = .finished) ∧
      (pre ≠ whole.flatMap wire → ∃ error, kind error ∧ (decodeRounds decode rounds pre).2 = .raised error) := by
  induction items generalizing pre rounds with
  | nil =>
      obtain rfl : pre = [] := List.prefix_nil.mp front
      obtain ⟨rounds, rfl⟩ : ∃ more, rounds = more + 1 := Nat.exists_eq_succ_of_ne_zero (Nat.ne_of_gt enough)
      refine ⟨[], [], rfl, List.prefix_rfl, by simp, ?_, ?_, by simp⟩
      · rw [decodeRounds, delimited.atEnd]
      · intro _
        rw [decodeRounds, delimited.atEnd]
  | cons item items ih =>
      obtain ⟨rounds, rfl⟩ : ∃ more, rounds = more + 1 := Nat.exists_eq_succ_of_ne_zero (by omega)
      have own := valids item List.mem_cons_self
      rw [List.flatMap_cons] at front
      by_cases holds : wire item <+: pre
      · obtain ⟨rest, rfl⟩ := holds
        have shorter : rest.length < rounds := by
          have some := List.length_pos_of_ne_nil (delimited.nonempty item)
          rw [List.length_append] at enough
          omega
        obtain ⟨whole, tail, split, within, most, read, finished, raised⟩ := ih
          (fun other member => valids other (List.mem_cons_of_mem item member)) rest
          ((List.prefix_append_right_inj (wire item)).mp front) rounds shorter
        refine ⟨item :: whole, tail, by rw [split, List.cons_append], ?_, ?_, ?_, ?_, ?_⟩
        · rw [List.flatMap_cons]
          exact (List.prefix_append_right_inj (wire item)).mpr within
        · intro next isNext longer
          rw [List.cons_append, List.flatMap_cons] at longer
          exact most next isNext ((List.prefix_append_right_inj (wire item)).mp longer)
        · rw [rounds_read delimited item rest own, read]
        · intro boundary
          rw [List.flatMap_cons] at boundary
          rw [rounds_read delimited item rest own]
          exact finished (List.append_cancel_left boundary)
        · intro inside
          rw [List.flatMap_cons] at inside
          rw [rounds_read delimited item rest own]
          exact raised fun same => inside (by rw [same])
      · have shorter : pre <+: wire item :=
          (List.prefix_or_prefix_of_prefix front (List.prefix_append _ _)).resolve_right holds
        refine ⟨[], item :: items, rfl, List.nil_prefix, ?_, ?_⟩
        · intro next isNext longer
          obtain rfl := Option.some.inj isNext
          rw [List.nil_append, List.flatMap_singleton] at longer
          exact holds longer
        · by_cases empty : pre = []
          · subst empty
            refine ⟨?_, ?_, fun nonempty => absurd rfl nonempty⟩
            · rw [decodeRounds, delimited.atEnd]
            · intro _
              rw [decodeRounds, delimited.atEnd]
          · have strict : pre ≠ wire item := fun same => holds (same ▸ List.prefix_rfl)
            obtain ⟨error, refused, isKind⟩ := delimited.cut item pre own shorter empty strict
            refine ⟨?_, fun same => absurd same empty, fun _ => ⟨error, isKind, ?_⟩⟩
            · rw [decodeRounds, refused]
            · rw [decodeRounds, refused]

theorem decode_all_wires (items : List α) (valids : ∀ item ∈ items, valid item) :
    decodeAll decode (items.flatMap wire) = (items, .finished) := by
  obtain ⟨whole, tail, split, within, most, read, finished, -⟩ :=
    rounds_prefix delimited items valids _ List.prefix_rfl _ (Nat.lt_succ_self _)
  obtain rfl : tail = [] := by
    cases tail with
    | nil => rfl
    | cons next tail =>
        refine absurd ?_ (most next rfl)
        rw [split, List.flatMap_append, List.flatMap_append, List.flatMap_singleton, List.flatMap_cons]
        exact (List.prefix_append_right_inj _).mpr (List.prefix_append _ _)
  rw [List.append_nil] at split
  subst split
  exact Prod.ext read (finished rfl)

theorem rounds_wrote (rounds : Nat) (stream : List β) (items : List α)
    (read : decodeRounds decode rounds stream = (items, .finished)) :
    (∀ item ∈ items, valid item) ∧ stream = items.flatMap wire := by
  induction rounds generalizing stream items with
  | zero =>
      rw [decodeRounds] at read
      exact absurd (congrArg Prod.snd read) (by simp)
  | succ rounds ih =>
      rw [decodeRounds] at read
      cases decoded : decode stream with
      | error error =>
          rw [decoded] at read
          exact absurd (congrArg Prod.snd read) (by simp)
      | ok taken =>
          cases taken with
          | none =>
              rw [decoded] at read
              obtain rfl : [] = items := congrArg Prod.fst read
              exact ⟨by simp, delimited.onlyAtEnd stream decoded⟩
          | some taken =>
              rw [decoded] at read
              obtain ⟨own, split⟩ := delimited.wrote stream taken.1 taken.2 decoded
              obtain rfl : taken.1 :: (decodeRounds decode rounds taken.2).1 = items := congrArg Prod.fst read
              have ended : (decodeRounds decode rounds taken.2).2 = .finished := congrArg Prod.snd read
              obtain ⟨valids, rest⟩ := ih taken.2 _ (Prod.ext rfl ended)
              refine ⟨List.forall_mem_cons.mpr ⟨own, valids⟩, ?_⟩
              rw [List.flatMap_cons, ← rest]
              exact split

end Delimited

end Foundation
