import Tandem.Proofs.Dispatch.Climb
import Tandem.Proofs.Dispatch.Conformity
import Tandem.Proofs.Dispatch.Definition
import Tandem.Proofs.Dispatch.Placement

/-! # Slots are inherited

A class off every cycle has the slots of its superclass, with its own name wherever
it overrides, and new slots behind them
(`Tandem.Dispatch.ClassTable.methodTable_eq_append`). Without cycles this goes on
down every chain, so a class keeps the slot numbers of all classes it conforms to,
and what stands in a slot conforms to what stood there above
(`Tandem.Dispatch.ClassTable.Acyclic.keeps_of_conforms`).
-/

namespace Tandem.Dispatch.ClassTable

variable {table : ClassTable}

/-- Without cycles, what holds of the root, and of a class whenever it holds of its
superclass, holds of every class. -/
theorem Acyclic.induction (acyclic : table.Acyclic) {motive : String → Prop}
    (top : motive root)
    (below : ∀ name, name ≠ root → motive (table.superclass name) → motive name)
    (name : String) : motive name := by
  induction count : (table.ancestry name).length generalizing name with
  | zero =>
      have member := table.mem_ancestry_self name
      rw [List.length_eq_zero_iff.mp count] at member
      exact absurd member List.not_mem_nil
  | succ count ih =>
      by_cases atRoot : name = root
      · rw [atRoot]
        exact top
      · rw [ancestry_eq_cons (acyclic name atRoot), List.length_cons] at count
        exact below name atRoot (ih _ (Nat.succ.inj count))

/-- A class that is not above itself has the slots of its superclass, overridden where
it defines the method, and new slots for its other methods. -/
theorem methodTable_eq_append {name : String}
    (off : name ∉ table.ancestry (table.superclass name)) :
    table.methodTable name =
      (table.methodTable (table.superclass name)).map
          (Slot.overridden name (table.ownMethods name)) ++
        ((table.ownMethods name).filter fun method =>
          method ∉ (table.methodTable (table.superclass name)).map Slot.method).map
            fun method => ⟨method, name⟩ := by
  rw [methodTable_eq_fillSlots, methodTable_eq_fillSlots, ancestry_eq_cons off]
  exact table.fillSlots_cons_eq_append name _

/-- Every slot of the upper ones is kept: the lower ones have the same method at its
number, with an owner that conforms to the owner there. -/
def Keeps (table : ClassTable) (lower upper : List Slot) : Prop :=
  ∀ (number : Nat) (slot : Slot), upper[number]? = some slot →
    ∃ kept : Slot, lower[number]? = some kept ∧ kept.method = slot.method ∧
      table.conforms kept.owner slot.owner

theorem Keeps.refl (slots : List Slot) : table.Keeps slots slots := by
  intro number slot found
  exact ⟨slot, found, rfl, table.conforms_refl slot.owner⟩

theorem Keeps.trans {lower middle upper : List Slot} (below : table.Keeps lower middle)
    (above : table.Keeps middle upper) : table.Keeps lower upper := by
  intro number slot found
  obtain ⟨between, foundBetween, sameAbove, conformsAbove⟩ := above number slot found
  obtain ⟨kept, foundKept, sameBelow, conformsBelow⟩ := below number between foundBetween
  exact ⟨kept, foundKept, sameBelow.trans sameAbove, conforms_trans conformsBelow conformsAbove⟩

/-- Kept slots keep their numbers. -/
theorem Keeps.methods_prefix {lower upper : List Slot} (keeps : table.Keeps lower upper) :
    upper.map Slot.method <+: lower.map Slot.method := by
  rw [List.prefix_iff_getElem?]
  intro number bound
  rw [List.length_map] at bound
  obtain ⟨kept, found, same, -⟩ := keeps number upper[number] (List.getElem?_eq_getElem bound)
  rw [List.getElem?_map, found, Option.map_some, same, List.getElem_map]

/-- A class that is not above itself keeps the slots of its superclass. -/
theorem keeps_superclass {name : String} (off : name ∉ table.ancestry (table.superclass name)) :
    table.Keeps (table.methodTable name) (table.methodTable (table.superclass name)) := by
  intro number slot found
  obtain ⟨bound, -⟩ := List.getElem?_eq_some_iff.mp found
  refine ⟨slot.overridden name (table.ownMethods name), ?_, slot.overridden_method _ _, ?_⟩
  · rw [methodTable_eq_append off, List.getElem?_append_left (by simpa only [List.length_map]),
      List.getElem?_map, found, Option.map_some]
  · by_cases defined : slot.method ∈ table.ownMethods name
    · have above : slot.owner ∈ table.ancestry (table.superclass name) := by
        apply owner_mem_of_mem_fillSlots
        rw [← methodTable_eq_fillSlots]
        exact List.mem_of_getElem? found
      rw [Slot.overridden_of_mem defined, conforms_iff_mem_ancestry, ancestry_eq_cons off]
      exact List.mem_cons_of_mem name above
    · rw [Slot.overridden_of_not_mem defined]
      exact table.conforms_refl slot.owner

/-- Without cycles a class keeps the slots of every class that it conforms to. -/
theorem Acyclic.keeps_of_conforms (acyclic : table.Acyclic) {sub sup : String}
    (conforms : table.conforms sub sup) :
    table.Keeps (table.methodTable sub) (table.methodTable sup) := by
  induction sub using acyclic.induction with
  | top =>
      rw [eq_root_of_conforms conforms]
      exact .refl _
  | below sub belowRoot ih =>
      -- Either the class itself, or one that its superclass conforms to already.
      rw [conforms_iff_mem_ancestry, ancestry_eq_cons (acyclic sub belowRoot)] at conforms
      rcases List.mem_cons.mp conforms with rfl | further
      · exact .refl _
      · have inherited := ih (conforms_iff_mem_ancestry.mpr further)
        exact (keeps_superclass (acyclic sub belowRoot)).trans inherited

/-- **Slots are inherited.** In a table made by declarations, a class below the root
that is not above itself has the slots of its superclass, with itself as the owner
just where it defines the method, and behind them slots for its other methods in the
order of their first definitions. So without cycles the methods of a class stand at
the front of those of every class that conforms to it, and in each slot of both the
owner in the lower class conforms to the owner in the upper one. -/
theorem methodTable_inherits_slots {declarations : List Declaration} {table : ClassTable}
    (made : ({} : ClassTable).declareAll declarations = table) :
    (∀ name, name ≠ root → name ∉ table.ancestry (table.superclass name) →
      table.methodTable name =
        (table.methodTable (table.superclass name)).map
            (fun slot => if slot.method ∈ firstDefinitions declarations name
              then { slot with owner := name } else slot) ++
          ((firstDefinitions declarations name).filter fun method =>
            method ∉ (table.methodTable (table.superclass name)).map Slot.method).map
              fun method => ⟨method, name⟩) ∧
      (table.Acyclic → ∀ sub sup, table.conforms sub sup →
        (table.methodTable sup).map Slot.method <+: (table.methodTable sub).map Slot.method ∧
          ∀ (number : Nat) (lower upper : Slot),
            (table.methodTable sub)[number]? = some lower →
            (table.methodTable sup)[number]? = some upper →
            lower.method = upper.method ∧ table.conforms lower.owner upper.owner) := by
  subst made
  constructor
  · intro name _ off
    rw [methodTable_eq_append off, ownMethods_declareAll]
    rfl
  · intro acyclic sub sup conforms
    have keeps := acyclic.keeps_of_conforms conforms
    refine ⟨keeps.methods_prefix, ?_⟩
    intro number lower upper foundLower foundUpper
    obtain ⟨kept, foundKept, same, ownerConforms⟩ := keeps number upper foundUpper
    obtain rfl : kept = lower := Option.some.inj (foundKept.symm.trans foundLower)
    exact ⟨same, ownerConforms⟩

/-- Overrides on three levels, some of them given twice. -/
def drawings : List Declaration :=
  [.extend "Shape" root, .extend "Square" "Shape", .extend "Unit" "Square",
    .define "Shape" "area", .define "Shape" "name", .define "Unit" "label",
    .define "Square" "side", .define "Square" "area", .define "Unit" "name",
    .define "Unit" "label", .define "Unit" "area"]

/-- A unit square overrides two methods in the slots they have in a square, and adds
one behind the others. -/
theorem methodTable_inherits_slots_drawings :
    (({} : ClassTable).declareAll drawings).Acyclic ∧
      (({} : ClassTable).declareAll drawings).methodTable "Unit" =
        [⟨"area", "Unit"⟩, ⟨"name", "Unit"⟩, ⟨"side", "Square"⟩, ⟨"label", "Unit"⟩] ∧
      (({} : ClassTable).declareAll drawings).conforms "Unit" "Square" ∧
      ["area", "name", "side"] <+:
        ((({} : ClassTable).declareAll drawings).methodTable "Unit").map Slot.method ∧
      (({} : ClassTable).declareAll drawings).conforms "Unit" "Shape" := by
  have made : ({} : ClassTable).declareAll drawings = ({} : ClassTable).declareAll drawings := rfl
  obtain ⟨layout, inherits⟩ := methodTable_inherits_slots made
  have acyclic : (({} : ClassTable).declareAll drawings).Acyclic := by
    apply Acyclic.of_forall_mem
    intro name known
    simp only [drawings, declareAll, declare, extend, define, root, List.foldl_cons,
      List.foldl_nil, String.reduceEq, ↓reduceDIte, Std.HashMap.mem_insert, beq_iff_eq] at known
    rcases known with rfl | rfl | rfl | none
    · cbv
    · cbv
    · cbv
    · exact absurd none Std.HashMap.not_mem_empty
  have superclass : (({} : ClassTable).declareAll drawings).superclass "Unit" = "Square" := by cbv
  have square : (({} : ClassTable).declareAll drawings).methodTable "Square" =
      [⟨"area", "Square"⟩, ⟨"name", "Shape"⟩, ⟨"side", "Square"⟩] := by cbv
  have own : firstDefinitions drawings "Unit" = ["label", "name", "area"] := by cbv
  have conforms : (({} : ClassTable).declareAll drawings).conforms "Unit" "Square" := by cbv
  have belowRoot : "Unit" ≠ root := by decide
  have unit : (({} : ClassTable).declareAll drawings).methodTable "Unit" =
      [⟨"area", "Unit"⟩, ⟨"name", "Unit"⟩, ⟨"side", "Square"⟩, ⟨"label", "Unit"⟩] := by
    rw [layout "Unit" belowRoot (acyclic "Unit" belowRoot), superclass, square, own]
    simp
  obtain ⟨front, owners⟩ := inherits acyclic "Unit" "Square" conforms
  rw [square] at front owners
  rw [unit] at owners
  exact ⟨acyclic, unit, conforms, front, (owners 1 ⟨"name", "Unit"⟩ ⟨"name", "Shape"⟩ rfl rfl).2⟩

end Tandem.Dispatch.ClassTable
