import Mathlib.Data.List.Basic
import Mathlib.Order.Lattice

set_option autoImplicit false

-- A list kept as a binary heap: each item is no smaller than the one above it.
namespace Foundation.Heapq

variable {α : Type}

theorem set_elsewhere (heap : List α) (hole pos : Nat) (item found : α) (other : pos ≠ hole)
    (read : (heap.set hole item)[pos]? = some found) : heap[pos]? = some found := by
  rwa [List.getElem?_set_ne (Ne.symm other)] at read

theorem set_there (heap : List α) (hole : Nat) (item found : α) (read : (heap.set hole item)[hole]? = some found) :
    found = item := by
  obtain ⟨inside, same⟩ := List.getElem?_eq_some_iff.mp read
  rw [← same, List.getElem_set_self]

theorem moved_perm (heap : List α) (pos other : Nat) (found item : α) (inside : pos < heap.length) (apart : pos ≠ other)
    (read : heap[other]? = some found) : ((heap.set pos found).set other item).Perm (heap.set pos item) := by
  obtain ⟨bound, same⟩ := List.getElem?_eq_some_iff.mp read
  have swapped := @List.set_set_perm _ (heap.set pos item) pos other
    (by rwa [List.length_set]) (by rwa [List.length_set])
  rw [List.getElem_set_ne apart, List.getElem_set_self, List.set_set, same] at swapped
  exact swapped

variable [LinearOrder α]

def parent (pos : Nat) : Nat := (pos - 1) / 2

theorem parent_lt (pos : Nat) (inner : 0 < pos) : parent pos < pos := by
  unfold parent
  omega

def siftdown (heap : List α) (pos : Nat) (item : α) : List α :=
  if _ : 0 < pos then
    match heap[parent pos]? with
    | some above => if item < above then siftdown (heap.set pos above) (parent pos) item else heap.set pos item
    | none => heap.set pos item
  else heap.set pos item
termination_by pos
decreasing_by exact parent_lt pos (by assumption)

def smallerChild (heap : List α) (pos : Nat) : Option (Nat × α) :=
  match heap[2 * pos + 1]?, heap[2 * pos + 2]? with
  | some left, some right => if left < right then some (2 * pos + 1, left) else some (2 * pos + 2, right)
  | some left, none => some (2 * pos + 1, left)
  | none, _ => none

theorem smaller_child (heap : List α) (pos child : Nat) (least : α)
    (chosen : smallerChild heap pos = some (child, least)) :
    0 < child ∧ parent child = pos ∧ heap[child]? = some least ∧
      ∀ other below, 0 < other → parent other = pos → heap[other]? = some below → least ≤ below := by
  have two (other : Nat) (inner : 0 < other) (under : parent other = pos) : other = 2 * pos + 1 ∨ other = 2 * pos + 2 := by
    unfold parent at under
    omega
  have left : parent (2 * pos + 1) = pos := by unfold parent; omega
  have right : parent (2 * pos + 2) = pos := by unfold parent; omega
  unfold smallerChild at chosen
  split at chosen
  · rename_i first second foundFirst foundSecond
    by_cases less : first < second
    · rw [if_pos less] at chosen
      cases chosen
      refine ⟨by omega, left, foundFirst, ?_⟩
      intro other below inner under found
      obtain rfl | rfl := two other inner under
      · exact le_of_eq (Option.some.inj (foundFirst.symm.trans found))
      · exact less.le.trans (le_of_eq (Option.some.inj (foundSecond.symm.trans found)))
    · rw [if_neg less] at chosen
      cases chosen
      refine ⟨by omega, right, foundSecond, ?_⟩
      intro other below inner under found
      obtain rfl | rfl := two other inner under
      · exact (not_lt.mp less).trans (le_of_eq (Option.some.inj (foundFirst.symm.trans found)))
      · exact le_of_eq (Option.some.inj (foundSecond.symm.trans found))
  · rename_i first foundFirst missing
    cases chosen
    refine ⟨by omega, left, foundFirst, ?_⟩
    intro other below inner under found
    obtain rfl | rfl := two other inner under
    · exact le_of_eq (Option.some.inj (foundFirst.symm.trans found))
    · rw [missing] at found
      cases found
  · cases chosen

theorem no_smaller_child (heap : List α) (pos other : Nat) (none : smallerChild heap pos = none) (inner : 0 < other)
    (under : parent other = pos) : heap[other]? = .none := by
  have missing : heap[2 * pos + 1]? = .none := by
    unfold smallerChild at none
    split at none
    · split at none <;> cases none
    · cases none
    · assumption
  rw [List.getElem?_eq_none_iff] at missing ⊢
  unfold parent at under
  omega

def siftup (heap : List α) (pos : Nat) (item : α) : List α :=
  match _ : smallerChild heap pos with
  | some (child, least) => siftup (heap.set pos least) child item
  | none => siftdown heap pos item
termination_by heap.length - pos
decreasing_by
  obtain ⟨inner, below, found, -⟩ := smaller_child heap pos child least (by assumption)
  have bound := (List.getElem?_eq_some_iff.mp found).1
  have under := parent_lt child inner
  rw [List.length_set]
  omega

def heappush (heap : List α) (item : α) : List α := siftdown (heap ++ [item]) heap.length item

def heapreplace (heap : List α) (item : α) : List α := siftup heap 0 item

def Ordered (heap : List α) : Prop :=
  ∀ pos above below, 0 < pos → heap[parent pos]? = some above → heap[pos]? = some below → above ≤ below

structure OrderedAround (heap : List α) (hole : Nat) : Prop where
  off : ∀ pos above below, 0 < pos → pos ≠ hole → parent pos ≠ hole →
    heap[parent pos]? = some above → heap[pos]? = some below → above ≤ below
  across : ∀ pos above below, 0 < hole → 0 < pos → parent pos = hole →
    heap[parent hole]? = some above → heap[pos]? = some below → above ≤ below

namespace OrderedAround

theorem filled {heap : List α} {hole : Nat} (around : OrderedAround heap hole) (item : α)
    (notBelow : ∀ above, 0 < hole → heap[parent hole]? = some above → above ≤ item)
    (notAbove : ∀ pos below, 0 < pos → parent pos = hole → heap[pos]? = some below → item ≤ below) :
    Ordered (heap.set hole item) := by
  intro pos above below inner readAbove readBelow
  by_cases atHole : pos = hole
  · subst atHole
    rw [set_there heap pos item below readBelow]
    exact notBelow above inner (set_elsewhere heap pos _ item above (parent_lt pos inner).ne readAbove)
  · have foundBelow := set_elsewhere heap hole pos item below atHole readBelow
    by_cases underHole : parent pos = hole
    · rw [underHole] at readAbove
      rw [set_there heap hole item above readAbove]
      exact notAbove pos below inner underHole foundBelow
    · exact around.off pos above below inner atHole underHole
        (set_elsewhere heap hole _ item above underHole readAbove) foundBelow

theorem lowered {heap : List α} {hole : Nat} (around : OrderedAround heap hole) (above : α) (inner : 0 < hole)
    (read : heap[parent hole]? = some above) : OrderedAround (heap.set hole above) (parent hole) := by
  have higher := parent_lt hole inner
  constructor
  · intro pos upper lower low notParent notUnder readUpper readLower
    have notHole : pos ≠ hole := fun same => notUnder (by rw [same])
    have foundLower := set_elsewhere heap hole pos above lower notHole readLower
    by_cases underHole : parent pos = hole
    · rw [underHole] at readUpper
      rw [set_there heap hole above upper readUpper]
      exact around.across pos above lower inner low underHole read foundLower
    · exact around.off pos upper lower low notHole underHole
        (set_elsewhere heap hole _ above upper underHole readUpper) foundLower
  · intro pos upper lower notRoot low under readUpper readLower
    have grand := parent_lt (parent hole) notRoot
    have foundUpper := set_elsewhere heap hole _ above upper (by omega) readUpper
    have ordered := around.off (parent hole) upper above notRoot (by omega) (by omega) foundUpper read
    by_cases atHole : pos = hole
    · rw [atHole] at readLower
      rw [set_there heap hole above lower readLower]
      exact ordered
    · have foundLower := set_elsewhere heap hole pos above lower atHole readLower
      exact ordered.trans (around.off pos above lower low atHole (by omega) (under ▸ read) foundLower)

theorem raised {heap : List α} {hole child : Nat} (around : OrderedAround heap hole) (least : α)
    (chosen : smallerChild heap hole = some (child, least)) : OrderedAround (heap.set hole least) child := by
  obtain ⟨inner, under, found, smallest⟩ := smaller_child heap hole child least chosen
  have lower := parent_lt child inner
  constructor
  · intro pos above below low notChild notUnder readAbove readBelow
    by_cases atHole : pos = hole
    · subst atHole
      rw [set_there heap pos least below readBelow]
      exact around.across child above least low inner under
        (set_elsewhere heap pos _ least above (parent_lt pos low).ne readAbove) found
    · have foundBelow := set_elsewhere heap hole pos least below atHole readBelow
      by_cases underHole : parent pos = hole
      · rw [underHole] at readAbove
        rw [set_there heap hole least above readAbove]
        exact smallest pos below low underHole foundBelow
      · exact around.off pos above below low atHole underHole
          (set_elsewhere heap hole _ least above underHole readAbove) foundBelow
  · intro pos above below _ low underChild readAbove readBelow
    have higher := parent_lt pos low
    rw [under] at readAbove
    rw [set_there heap hole least above readAbove]
    exact around.off pos least below low (by omega) (by omega) (underChild ▸ found)
      (set_elsewhere heap hole pos least below (by omega) readBelow)

end OrderedAround

theorem siftdown_ordered (heap : List α) (pos : Nat) (item : α) (around : OrderedAround heap pos)
    (notAbove : ∀ child below, 0 < child → parent child = pos → heap[child]? = some below → item ≤ below) :
    Ordered (siftdown heap pos item) := by
  induction heap, pos using siftdown.induct item with
  | case1 heap pos inner above read less ih =>
      rw [siftdown, dif_pos inner]
      simp only [read, if_pos less]
      refine ih (around.lowered above inner read) ?_
      intro child below low under found
      by_cases atPos : child = pos
      · rw [atPos] at found
        exact set_there heap pos above below found ▸ less.le
      · have foundBelow := set_elsewhere heap pos child above below atPos found
        have higher := parent_lt pos inner
        exact less.le.trans (around.off child above below low atPos (by omega) (under ▸ read) foundBelow)
  | case2 heap pos inner above read notLess =>
      rw [siftdown, dif_pos inner]
      simp only [read, if_neg notLess]
      refine around.filled item ?_ notAbove
      intro found _ foundAbove
      exact Option.some.inj (read.symm.trans foundAbove) ▸ not_lt.mp notLess
  | case3 heap pos inner missing =>
      rw [siftdown, dif_pos inner]
      simp only [missing]
      exact around.filled item (fun found _ foundAbove => nomatch missing.symm.trans foundAbove) notAbove
  | case4 heap pos root =>
      rw [siftdown, dif_neg root]
      exact around.filled item (fun _ inner => absurd inner root) notAbove

theorem siftup_ordered (heap : List α) (pos : Nat) (item : α) (around : OrderedAround heap pos) :
    Ordered (siftup heap pos item) := by
  induction heap, pos using siftup.induct with
  | case1 heap pos child least chosen ih =>
      rw [siftup]
      split
      · rename_i other less again
        cases chosen.symm.trans again
        exact ih (around.raised least chosen)
      · rename_i again
        cases chosen.symm.trans again
  | case2 heap pos leaf =>
      rw [siftup]
      split
      · rename_i child least chosen
        cases leaf.symm.trans chosen
      · refine siftdown_ordered heap pos item around ?_
        intro child below inner under found
        cases (no_smaller_child heap pos child leaf inner under).symm.trans found

theorem siftdown_perm (heap : List α) (pos : Nat) (item : α) (inside : pos < heap.length) :
    (siftdown heap pos item).Perm (heap.set pos item) := by
  induction heap, pos using siftdown.induct item with
  | case1 heap pos inner above read less ih =>
      have higher := parent_lt pos inner
      rw [siftdown, dif_pos inner]
      simp only [read, if_pos less]
      exact (ih (by rw [List.length_set]; omega)).trans (moved_perm heap pos _ above item inside (by omega) read)
  | case2 heap pos inner above read notLess =>
      rw [siftdown, dif_pos inner]
      simp only [read, if_neg notLess]
      rfl
  | case3 heap pos inner missing =>
      rw [siftdown, dif_pos inner]
      simp only [missing]
      rfl
  | case4 heap pos root => rw [siftdown, dif_neg root]

theorem siftup_perm (heap : List α) (pos : Nat) (item : α) (inside : pos < heap.length) :
    (siftup heap pos item).Perm (heap.set pos item) := by
  induction heap, pos using siftup.induct with
  | case1 heap pos child least chosen ih =>
      obtain ⟨inner, under, found, -⟩ := smaller_child heap pos child least chosen
      have lower := parent_lt child inner
      have bound := (List.getElem?_eq_some_iff.mp found).1
      rw [siftup]
      split
      · rename_i other less again
        cases chosen.symm.trans again
        exact (ih (by rwa [List.length_set])).trans (moved_perm heap pos child least item inside (by omega) found)
      · rename_i again
        cases chosen.symm.trans again
  | case2 heap pos leaf =>
      rw [siftup]
      split
      · rename_i child least chosen
        cases leaf.symm.trans chosen
      · exact siftdown_perm heap pos item inside

theorem heappush_perm (heap : List α) (item : α) : (heappush heap item).Perm (item :: heap) := by
  have pushed := siftdown_perm (heap ++ [item]) heap.length item (by simp)
  rw [List.set_append_right _ _ le_rfl, Nat.sub_self, List.set_cons_zero] at pushed
  exact pushed.trans (List.perm_append_singleton item heap)

theorem heappush_ordered (heap : List α) (item : α) (ordered : Ordered heap) : Ordered (heappush heap item) := by
  have old (pos : Nat) (found : α) (read : (heap ++ [item])[pos]? = some found) (other : pos ≠ heap.length) :
      heap[pos]? = some found := by
    have bound := (List.getElem?_eq_some_iff.mp read).1
    rw [List.length_append, List.length_singleton] at bound
    rwa [List.getElem?_append_left (by omega)] at read
  have last (pos : Nat) (found : α) (inner : 0 < pos) (under : parent pos = heap.length)
      (read : (heap ++ [item])[pos]? = some found) : False := by
    have bound := (List.getElem?_eq_some_iff.mp read).1
    rw [List.length_append, List.length_singleton] at bound
    have higher := parent_lt pos inner
    omega
  refine siftdown_ordered _ _ _ ⟨?_, ?_⟩ ?_
  · intro pos above below inner notLast notUnder readAbove readBelow
    exact ordered pos above below inner (old _ _ readAbove notUnder) (old _ _ readBelow notLast)
  · intro pos above below _ inner under _ readBelow
    exact (last pos below inner under readBelow).elim
  · intro child below inner under read
    exact (last child below inner under read).elim

theorem heapreplace_perm (root item : α) (rest : List α) : (heapreplace (root :: rest) item).Perm (item :: rest) :=
  siftup_perm (root :: rest) 0 item (Nat.zero_lt_succ _)

theorem heapreplace_ordered (heap : List α) (item : α) (ordered : Ordered heap) : Ordered (heapreplace heap item) := by
  refine siftup_ordered heap 0 item ⟨?_, ?_⟩
  · intro pos above below inner _ _ readAbove readBelow
    exact ordered pos above below inner readAbove readBelow
  · intro pos above below notRoot
    exact absurd notRoot (lt_irrefl 0)

theorem root_least (root : α) (rest : List α) (ordered : Ordered (root :: rest)) :
    ∀ item ∈ root :: rest, root ≤ item := by
  have along : ∀ (pos : Nat) (item : α), (root :: rest)[pos]? = some item → root ≤ item := by
    intro pos
    induction pos using Nat.strongRecOn with
    | _ pos ih =>
        intro item read
        by_cases inner : 0 < pos
        · have higher := parent_lt pos inner
          have bound := (List.getElem?_eq_some_iff.mp read).1
          obtain ⟨above, readAbove⟩ : ∃ above, (root :: rest)[parent pos]? = some above :=
            ⟨_, List.getElem?_eq_getElem (higher.trans bound)⟩
          exact (ih _ higher above readAbove).trans (ordered pos above item inner readAbove read)
        · obtain rfl : pos = 0 := by omega
          exact le_of_eq (Option.some.inj read)
  intro item member
  obtain ⟨pos, read⟩ := List.mem_iff_getElem?.mp member
  exact along pos item read

end Foundation.Heapq
