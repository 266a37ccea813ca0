import Vermyth.Foundation.Table

set_option autoImplicit false

namespace Foundation

section Ancestry

variable {κ ρ : Type} {key : ρ → κ} (link : ρ → Option (κ × Nat))

def depthOf (row : ρ) : Nat := ((link row).map Prod.snd).getD 0

def Under (rows : List ρ) (key : ρ → κ) (row : ρ) : Prop :=
  ∀ above ∈ link row, ∃ parent ∈ rows, key parent = above.1 ∧ above.2 = depthOf link parent + 1

def Grounded (table : Table key) : Prop := ∀ row ∈ table.rows, Under link table.rows key row

theorem under_more (rows more : List ρ) (row : ρ) (under : Under link rows key row) :
    Under link (rows ++ more) key row := by
  intro above named
  obtain ⟨parent, member, own⟩ := under above named
  exact ⟨parent, List.mem_append_left more member, own⟩

theorem under_root (rows : List ρ) (row : ρ) (root : link row = none) : Under link rows key row := by
  intro above named
  rw [root] at named
  contradiction

theorem grounded_insert [DecidableEq κ] (table after : Table key) (row : ρ) (grounded : Grounded link table)
    (under : Under link table.rows key row) (inserted : table.insert? row = some after) : Grounded link after := by
  by_cases taken : table.Has (key row)
  · rw [Table.insert_taken table row taken] at inserted
    contradiction
  · rw [Table.insert_fresh table row taken] at inserted
    cases inserted
    intro other member
    rcases List.mem_append.mp member with old | last
    · exact under_more link table.rows [row] other (grounded other old)
    · rw [List.mem_singleton.mp last]
      exact under_more link table.rows [row] row under

def climb {ε : Type} (read : κ → Except ε ρ) : Nat → κ → Except ε (List ρ)
  | 0, _ => .ok []
  | steps + 1, start => do
      let row ← read start
      match link row with
      | none => return [row]
      | some above =>
          let rest ← climb read steps above.1
          return row :: rest

theorem climb_grounded {ε : Type} (table : Table key) (grounded : Grounded link table) (read : κ → Except ε ρ)
    (reads : ∀ row ∈ table.rows, ∃ own, read (key row) = .ok own ∧ link own = link row) (steps : Nat) (row : ρ)
    (member : row ∈ table.rows) (enough : depthOf link row < steps) :
    ∃ below root, climb link read steps (key row) = .ok (below ++ [root]) ∧ link root = none := by
  induction steps generalizing row with
  | zero => omega
  | succ steps ih =>
      obtain ⟨own, readOwn, same⟩ := reads row member
      cases named : link row with
      | none =>
          refine ⟨[], own, ?_, same.trans named⟩
          simp only [climb, readOwn, bind, Except.bind, same.trans named]
          rfl
      | some above =>
          obtain ⟨parent, isParent, isKey, depth⟩ := grounded row member above named
          have higher : depthOf link parent < steps := by
            have own : depthOf link row = above.2 := by rw [depthOf, named]; rfl
            omega
          obtain ⟨below, root, climbed, isRoot⟩ := ih parent isParent higher
          refine ⟨own :: below, root, ?_, isRoot⟩
          rw [isKey] at climbed
          simp only [climb, readOwn, bind, Except.bind, same.trans named, climbed]
          rfl

inductive Ascends (rows : List ρ) (key : ρ → κ) : Nat → ρ → List (ρ × ρ) → Prop
  | stop (row : ρ) : Ascends rows key 0 row []
  | root (steps : Nat) (row : ρ) (isRoot : link row = none) : Ascends rows key (steps + 1) row []
  | up (steps depth : Nat) (row parent : ρ) (rest : List (ρ × ρ)) (stored : parent ∈ rows)
      (named : link row = some (key parent, depth)) (above : Ascends rows key steps parent rest) :
      Ascends rows key (steps + 1) row ((row, parent) :: rest)

theorem ascends_stored (rows : List ρ) (steps : Nat) (row : ρ) (pairs : List (ρ × ρ)) (member : row ∈ rows)
    (ascends : Ascends link rows key steps row pairs) :
    ∀ pair ∈ pairs, pair.1 ∈ rows ∧ pair.2 ∈ rows ∧ ∃ depth, link pair.1 = some (key pair.2, depth) := by
  induction ascends with
  | stop row => exact fun pair inPairs => absurd inPairs List.not_mem_nil
  | root steps row isRoot => exact fun pair inPairs => absurd inPairs List.not_mem_nil
  | up steps depth row parent rest stored named above ih =>
      intro pair inPairs
      rcases List.mem_cons.mp inPairs with rfl | inRest
      · exact ⟨member, stored, depth, named⟩
      · exact ih stored pair inRest

theorem ascends_length (table : Table key) (grounded : Grounded link table) (steps : Nat) (row : ρ)
    (pairs : List (ρ × ρ)) (member : row ∈ table.rows) (ascends : Ascends link table.rows key steps row pairs) :
    pairs.length = min steps (depthOf link row) := by
  induction ascends with
  | stop row => exact (Nat.zero_min _).symm
  | root steps row isRoot =>
      rw [depthOf, isRoot]
      exact (Nat.min_zero _).symm
  | up steps depth row parent rest stored named above ih =>
      obtain ⟨own, isOwn, isKey, higher⟩ := grounded row member _ named
      obtain rfl := table.row_unique own parent isOwn stored isKey
      have depthRow : depthOf link row = depthOf link own + 1 := by
        rw [← higher, depthOf, named]
        rfl
      rw [List.length_cons, ih stored, depthRow, Nat.succ_min_succ]

theorem climb_ascends {ε : Type} (table : Table key) (grounded : Grounded link table) (read : κ → Except ε ρ)
    (reads : ∀ row ∈ table.rows, ∃ own, read (key row) = .ok own ∧ link own = link row) (steps : Nat) (row : ρ)
    (member : row ∈ table.rows) :
    ∃ below roots pairs, climb link read steps (key row) = .ok (below ++ roots) ∧
      (∀ root ∈ roots, link root = none) ∧ Ascends link table.rows key steps row pairs ∧
        List.Forall₂ (fun pair own => read (key pair.1) = .ok own) pairs below ∧
          (below ++ roots).length = min steps (depthOf link row + 1) := by
  induction steps generalizing row with
  | zero =>
      refine ⟨[], [], [], rfl, ?_, .stop row, .nil, (Nat.zero_min _).symm⟩
      exact fun root isRoot => absurd isRoot List.not_mem_nil
  | succ steps ih =>
      obtain ⟨own, readOwn, same⟩ := reads row member
      cases named : link row with
      | none =>
          refine ⟨[], [own], [], ?_, ?_, .root steps row named, .nil, ?_⟩
          · simp only [climb, readOwn, bind, Except.bind, same.trans named]
            rfl
          · intro root isRoot
            rw [List.mem_singleton.mp isRoot]
            exact same.trans named
          · rw [depthOf, named]
            exact (Nat.min_eq_right (Nat.succ_le_succ (Nat.zero_le steps))).symm
      | some above =>
          obtain ⟨parent, isParent, isKey, depth⟩ := grounded row member above named
          obtain ⟨below, roots, pairs, climbed, areRoots, ascends, each, length⟩ := ih parent isParent
          have linked : link row = some (key parent, above.2) := by rw [named, isKey]
          have depthRow : depthOf link row = depthOf link parent + 1 := by
            rw [← depth, depthOf, named]
            rfl
          refine ⟨own :: below, roots, (row, parent) :: pairs, ?_, areRoots,
            .up steps above.2 row parent pairs isParent linked ascends, .cons readOwn each, ?_⟩
          · rw [isKey] at climbed
            simp only [climb, readOwn, bind, Except.bind, same.trans named, climbed]
            rfl
          · rw [List.cons_append, List.length_cons, length, depthRow, Nat.succ_min_succ]

end Ancestry

end Foundation
