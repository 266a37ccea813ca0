import Vermyth.Engine.BasisMismatch

set_option autoImplicit false

namespace Vermyth

open Foundation

-- An entry of the data files. Its ceiling is given in hundredths.
def canonicalSlot (key name : String) (effectClass : EffectClass) (hundredths : Nat)
    (severity : ContradictionSeverity) : SigilSlot where
  key := key
  entry :=
    { name := name, effectClass := effectClass, resonanceCeiling := hundredths / 100,
      contradictionSeverity := some severity }

-- data/sigils, in the order the files are read.
def canonicalSlots : List SigilSlot :=
  [canonicalSlot "VOID+FORM" "Hollow Vessel" .containment 74 .soft,
   canonicalSlot "VOID+MOTION" "Stillwind" .negation 61 .soft,
   canonicalSlot "VOID+MIND" "Amnesis" .erasure 55 .hard,
   canonicalSlot "VOID+DECAY" "The Unmaking" .dissolution 42 .hard,
   canonicalSlot "VOID+LIGHT" "Occultation" .negation 38 .hard,
   canonicalSlot "FORM+MOTION" "Kineshape" .force 85 .none,
   canonicalSlot "FORM+MIND" "Mindcarve" .binding 79 .none,
   canonicalSlot "FORM+DECAY" "Ruinform" .dissolution 67 .soft,
   canonicalSlot "FORM+LIGHT" "Lucid Edifice" .revelation 91 .none,
   canonicalSlot "MOTION+MIND" "Thoughtstorm" .cognition 83 .none,
   canonicalSlot "MOTION+DECAY" "Entropy Flux" .acceleration 72 .soft,
   canonicalSlot "MOTION+LIGHT" "Scintillance" .revelation 77 .none,
   canonicalSlot "MIND+DECAY" "Mnemonic Rot" .corruption 51 .hard,
   canonicalSlot "MIND+LIGHT" "Veritas Bind" .binding 94 .none,
   canonicalSlot "DECAY+LIGHT" "Senescent Dawn" .emergence 64 .soft,
   canonicalSlot "VOID" "Nullform" .erasure 71 .none,
   canonicalSlot "FORM" "Solidus" .manifestation 78 .none,
   canonicalSlot "MOTION" "Kineval" .force 75 .none,
   canonicalSlot "MIND" "Ideoglyph" .cognition 82 .none,
   canonicalSlot "DECAY" "Solvite" .dissolution 69 .none,
   canonicalSlot "LIGHT" "Verite" .revelation 88 .none,
   canonicalSlot "VOID+FORM+MOTION" "Phantokinesis" .negation 48 .soft,
   canonicalSlot "VOID+FORM+MIND" "Ghost Praxis" .cognition 57 .soft,
   canonicalSlot "VOID+FORM+DECAY" "Ash Lattice" .dissolution 44 .hard,
   canonicalSlot "VOID+FORM+LIGHT" "Blind Mirror" .containment 52 .hard,
   canonicalSlot "VOID+MOTION+MIND" "Stillthought" .negation 46 .hard,
   canonicalSlot "VOID+MOTION+DECAY" "The Quieting" .erasure 33 .hard,
   canonicalSlot "VOID+MOTION+LIGHT" "Dark Passage" .negation 41 .hard,
   canonicalSlot "VOID+MIND+DECAY" "Oblivion" .erasure 29 .hard,
   canonicalSlot "VOID+MIND+LIGHT" "Occlusion" .corruption 45 .hard,
   canonicalSlot "VOID+DECAY+LIGHT" "Twilight Seal" .containment 39 .hard,
   canonicalSlot "FORM+MOTION+MIND" "Golemancer" .emergence 88 .none,
   canonicalSlot "FORM+MOTION+DECAY" "Living Ruin" .dissolution 71 .soft,
   canonicalSlot "FORM+MOTION+LIGHT" "Radiant Frame" .manifestation 86 .none,
   canonicalSlot "FORM+MIND+DECAY" "Hollow Crown" .corruption 62 .hard,
   canonicalSlot "FORM+MIND+LIGHT" "Apophenia" .revelation 93 .none,
   canonicalSlot "FORM+DECAY+LIGHT" "Fossilescence" .emergence 69 .soft,
   canonicalSlot "MOTION+MIND+DECAY" "Cascade Rot" .corruption 58 .hard,
   canonicalSlot "MOTION+MIND+LIGHT" "Quickening" .acceleration 96 .none,
   canonicalSlot "MOTION+DECAY+LIGHT" "Radiant Entropy" .dissolution 68 .soft,
   canonicalSlot "MIND+DECAY+LIGHT" "Dying Star" .emergence 74 .soft]

-- contradictions.json
def canonicalContradictions : List (String × ContradictionSeverity) :=
  [("VOID+FORM", .soft), ("VOID+MOTION", .soft), ("VOID+MIND", .hard), ("VOID+DECAY", .hard), ("VOID+LIGHT", .hard),
   ("FORM+DECAY", .soft), ("MOTION+DECAY", .soft), ("DECAY+LIGHT", .soft), ("VOID+FORM+DECAY", .hard),
   ("VOID+FORM+LIGHT", .hard), ("VOID+MOTION+MIND", .hard), ("VOID+MOTION+DECAY", .hard),
   ("VOID+MOTION+LIGHT", .hard), ("VOID+MIND+DECAY", .hard), ("VOID+MIND+LIGHT", .hard), ("VOID+DECAY+LIGHT", .hard),
   ("FORM+MIND+DECAY", .hard), ("MOTION+MIND+DECAY", .hard), ("VOID+FORM+MOTION", .soft), ("VOID+FORM+MIND", .soft)]

theorem canonical_keys_distinct : (canonicalSlots.map SigilSlot.key).Nodup := by decide +kernel

def canonicalComposition : CompositionEngine where
  table := { rows := canonicalSlots, distinct := canonical_keys_distinct }
  contradictions := canonicalContradictions

theorem canonical_ceilings : ∀ slot ∈ canonicalSlots, CeilingValid slot.entry.resonanceCeiling := by decide +kernel

theorem anchor_entry (order : SetOrder) (composition : CompositionEngine) (anchor : Anchor)
    (member : anchor ∈ anchors order composition) : ∃ slot ∈ composition.table.rows, anchor.raw = slot.entry := by
  obtain ⟨slot, isSlot, made⟩ := List.mem_filterMap.mp member
  obtain ⟨ids, -, rfl⟩ := Option.map_eq_some_iff.mp made
  exact ⟨slot, isSlot, rfl⟩

theorem canonical_anchored (engine : ResonanceEngine) (canonical : engine.composition = canonicalComposition) :
    Anchored engine := by
  constructor
  · rw [canonical]
    have first : (anchorAspects "VOID+FORM").isSome := by decide +kernel
    obtain ⟨ids, found⟩ := Option.isSome_iff_exists.mp first
    apply List.ne_nil_of_mem
    apply List.mem_filterMap.mpr
    exact ⟨canonicalSlot "VOID+FORM" "Hollow Vessel" .containment 74 .soft, List.mem_cons_self, by
      rw [anchorOf, canonicalSlot, found]
      rfl⟩
  · rw [canonical]
    intro anchor member
    obtain ⟨slot, isSlot, same⟩ := anchor_entry engine.order canonicalComposition anchor member
    rw [same]
    exact canonical_ceilings slot isSlot

end Vermyth
