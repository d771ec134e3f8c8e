import Mathlib.Data.List.Rotate
import Mathlib.Dynamics.PeriodicPts.Defs
import Mathlib.Order.Defs.Unbundled
import Tandem.Proofs.Dispatch.Conformity

/-! # Conformity up to cycles

Conformity is a preorder below the root, and the classes that one class conforms to
lie on a line. What it lacks to be a partial order are the cycles of two or more
classes (`Tandem.Dispatch.ClassTable.IsCycle`): two different classes conform to
each other just if one cycle holds both
(`Tandem.Dispatch.ClassTable.conforms_preorder_up_to_cycles`). One step along a
cycle turns it by one place, so several steps turn it by as many places
(`Tandem.Dispatch.ClassTable.IsCycle.map_iterate`), and each of its classes reaches
all of them.
-/

namespace Tandem.Dispatch.ClassTable

variable {table : ClassTable}

/-- Two or more different classes, each with the next one as its superclass and the
last one with the first. -/
structure IsCycle (table : ClassTable) (classes : List String) : Prop where
  several : 2 ≤ classes.length
  nodup : classes.Nodup
  closes : classes.map table.superclass = classes.rotate 1

namespace IsCycle

variable {classes : List String}

/-- Some superclass steps from every class of a cycle turn it by as many places. -/
theorem map_iterate (cycle : table.IsCycle classes) (steps : Nat) :
    classes.map table.superclass^[steps] = classes.rotate steps := by
  induction steps with
  | zero => rw [Function.iterate_zero, List.map_id, List.rotate_zero]
  | succ steps ih =>
      rw [Function.iterate_succ, ← List.map_map, cycle.closes, List.map_rotate, ih,
        List.rotate_rotate]

/-- Each class of a cycle reaches all of them. -/
theorem reaches (cycle : table.IsCycle classes) {first second : String}
    (firstMember : first ∈ classes) (secondMember : second ∈ classes) :
    table.Reaches first second := by
  obtain ⟨i, iBound, rfl⟩ := List.getElem_of_mem firstMember
  obtain ⟨j, jBound, rfl⟩ := List.getElem_of_mem secondMember
  -- From place `i` to the end of the cycle, and on to place `j`.
  refine ⟨classes.length - i + j, ?_⟩
  have place : (i + (classes.length - i + j)) % classes.length = j := by
    rw [← Nat.add_assoc, Nat.add_sub_cancel' (Nat.le_of_lt iBound), Nat.add_mod_left,
      Nat.mod_eq_of_lt jBound]
  have turned := congrArg (fun turnedClasses : List String => turnedClasses[i]?)
    (cycle.map_iterate (classes.length - i + j))
  simpa only [List.getElem?_map, List.getElem?_rotate iBound, place,
    List.getElem?_eq_getElem iBound, List.getElem?_eq_getElem jBound, Option.map_some,
    Option.some.injEq] using turned

/-- Every cycle holds two different classes. -/
theorem exists_different (cycle : table.IsCycle classes) :
    ∃ first ∈ classes, ∃ second ∈ classes, first ≠ second := by
  have several := cycle.several
  refine ⟨classes[0], List.getElem_mem _, classes[1], List.getElem_mem _, ?_⟩
  intro same
  have places := (cycle.nodup.getElem_inj_iff).mp same
  exact absurd places Nat.zero_ne_one

/-- The root is on no cycle. -/
theorem ne_root (cycle : table.IsCycle classes) {name : String} (member : name ∈ classes) :
    name ≠ root := by
  rintro rfl
  have onlyRoot : ∀ other ∈ classes, other = root := by
    intro other otherMember
    exact (cycle.reaches member otherMember).eq_root
  obtain ⟨first, firstMember, second, secondMember, different⟩ := cycle.exists_different
  exact different ((onlyRoot first firstMember).trans (onlyRoot second secondMember).symm)

end IsCycle

/-- The classes met on the way from a class back to itself, each once. -/
theorem isCycle_iterates {name : String} (moves : table.superclass name ≠ name) {steps : Nat}
    (some_steps : 0 < steps) (returns : table.superclass^[steps] name = name) :
    table.IsCycle ((List.range (Function.minimalPeriod table.superclass name)).map
      fun step => table.superclass^[step] name) := by
  have periodic : 0 < Function.minimalPeriod table.superclass name :=
    Function.IsPeriodicPt.minimalPeriod_pos some_steps returns
  have notFixed : Function.minimalPeriod table.superclass name ≠ 1 := by
    intro fixed
    exact moves (Function.minimalPeriod_eq_one_iff_isFixedPt.mp fixed)
  constructor
  · rw [List.length_map, List.length_range]
    omega
  · refine List.Nodup.map_on ?_ List.nodup_range
    intro i iMember j jMember same
    exact Function.iterate_injOn_Iio_minimalPeriod (List.mem_range.mp iMember)
      (List.mem_range.mp jMember) same
  · have around := Function.iterate_minimalPeriod (f := table.superclass) (x := name)
    obtain ⟨last, period⟩ := Nat.exists_eq_succ_of_ne_zero (Nat.ne_of_gt periodic)
    rw [period] at around ⊢
    have stepped : ∀ step, table.superclass (table.superclass^[step] name) =
        table.superclass^[step + 1] name := fun step => (Function.iterate_succ_apply' ..).symm
    calc ((List.range (last + 1)).map fun step => table.superclass^[step] name).map
            table.superclass
        = (List.range (last + 1)).map fun step => table.superclass^[step + 1] name := by
          rw [List.map_map]
          exact List.map_congr_left fun step _ => stepped step
      _ = ((List.range last).map fun step => table.superclass^[step + 1] name) ++ [name] := by
          rw [List.range_succ, List.map_append, List.map_singleton, around]
      _ = ((List.range (last + 1)).map fun step => table.superclass^[step] name).rotate 1 := by
          rw [List.range_succ_eq_map, List.map_cons, List.rotate_cons_succ, List.rotate_zero,
            List.map_map]
          rfl

/-- Different classes that reach each other lie on one cycle. -/
theorem exists_isCycle {first second : String} (different : first ≠ second)
    (upward : table.Reaches first second) (downward : table.Reaches second first) :
    ∃ classes, table.IsCycle classes ∧ first ∈ classes ∧ second ∈ classes := by
  obtain ⟨steps, rfl⟩ := upward
  obtain ⟨more, returns⟩ := downward
  rw [← Function.iterate_add_apply] at returns
  have some_steps : 0 < steps := by
    apply Nat.pos_of_ne_zero
    rintro rfl
    exact different rfl
  have moves : table.superclass first ≠ first := by
    intro fixed
    exact different (Function.iterate_fixed fixed steps).symm
  have around : 0 < more + steps := Nat.lt_of_lt_of_le some_steps (Nat.le_add_left ..)
  have period : 0 < Function.minimalPeriod table.superclass first :=
    Function.IsPeriodicPt.minimalPeriod_pos around returns
  refine ⟨_, isCycle_iterates moves around returns, ?_, ?_⟩
  · exact List.mem_map.mpr ⟨0, List.mem_range.mpr period, rfl⟩
  · refine List.mem_map.mpr ⟨steps % Function.minimalPeriod table.superclass first, ?_, ?_⟩
    · exact List.mem_range.mpr (Nat.mod_lt steps period)
    · exact Function.iterate_mod_minimalPeriod_eq

/-- Of two classes reached from one class, one reaches the other. -/
theorem Reaches.comparable {name first second : String} (toFirst : table.Reaches name first)
    (toSecond : table.Reaches name second) :
    table.Reaches first second ∨ table.Reaches second first := by
  obtain ⟨steps, rfl⟩ := toFirst
  obtain ⟨more, rfl⟩ := toSecond
  rcases Nat.le_total steps more with fewer | fewer
  · exact .inl ⟨more - steps, by rw [← Function.iterate_add_apply, Nat.sub_add_cancel fewer]⟩
  · exact .inr ⟨steps - more, by rw [← Function.iterate_add_apply, Nat.sub_add_cancel fewer]⟩

/-- The classes that a class conforms to lie on a line. -/
theorem conforms_comparable {name first second : String} (toFirst : table.conforms name first)
    (toSecond : table.conforms name second) :
    table.conforms first second ∨ table.conforms second first := by
  rcases conforms_iff.mp toFirst with rfl | firstReached
  · exact .inr (table.conforms_root second)
  rcases conforms_iff.mp toSecond with rfl | secondReached
  · exact .inl (table.conforms_root first)
  rcases firstReached.comparable secondReached with upward | downward
  · exact .inl (conforms_iff.mpr (.inr upward))
  · exact .inr (conforms_iff.mpr (.inr downward))

/-- Different classes conform to each other if they are below the root and reach each
other. -/
theorem conforms_each_other_iff {first second : String} (different : first ≠ second) :
    table.conforms first second ∧ table.conforms second first ↔
      first ≠ root ∧ second ≠ root ∧ table.Reaches first second ∧
        table.Reaches second first := by
  constructor
  · rintro ⟨upward, downward⟩
    have firstBelow : first ≠ root := by
      rintro rfl
      exact different (eq_root_of_conforms upward).symm
    have secondBelow : second ≠ root := by
      rintro rfl
      exact different (eq_root_of_conforms downward)
    exact ⟨firstBelow, secondBelow, (conforms_iff.mp upward).resolve_left secondBelow,
      (conforms_iff.mp downward).resolve_left firstBelow⟩
  · rintro ⟨-, -, upward, downward⟩
    exact ⟨conforms_iff.mpr (.inr upward), conforms_iff.mpr (.inr downward)⟩

/-- Different classes conform to each other if one cycle holds both. -/
theorem conforms_each_other_iff_cycle {first second : String} (different : first ≠ second) :
    table.conforms first second ∧ table.conforms second first ↔
      ∃ classes, table.IsCycle classes ∧ first ∈ classes ∧ second ∈ classes := by
  rw [conforms_each_other_iff different]
  constructor
  · rintro ⟨-, -, upward, downward⟩
    exact exists_isCycle different upward downward
  · rintro ⟨classes, cycle, firstMember, secondMember⟩
    exact ⟨cycle.ne_root firstMember, cycle.ne_root secondMember,
      cycle.reaches firstMember secondMember, cycle.reaches secondMember firstMember⟩

/-- Conformity is a preorder. -/
theorem conforms_isPreorder (table : ClassTable) :
    IsPreorder String fun sub sup => table.conforms sub sup where
  refl := table.conforms_refl
  trans _ _ _ := conforms_trans

/-- Conformity is a partial order if there is no cycle of two or more classes. -/
theorem conforms_isPartialOrder_iff (table : ClassTable) :
    IsPartialOrder String (fun sub sup => table.conforms sub sup) ↔
      ¬∃ classes, table.IsCycle classes := by
  constructor
  · rintro order ⟨classes, cycle⟩
    obtain ⟨first, firstMember, second, secondMember, different⟩ := cycle.exists_different
    obtain ⟨upward, downward⟩ := (conforms_each_other_iff_cycle different).mpr
      ⟨classes, cycle, firstMember, secondMember⟩
    exact different (order.antisymm first second upward downward)
  · intro without
    have preorder := table.conforms_isPreorder
    refine { preorder with antisymm := ?_ }
    intro first second upward downward
    by_contra different
    obtain ⟨classes, cycle, -⟩ :=
      (conforms_each_other_iff_cycle different).mp ⟨upward, downward⟩
    exact without ⟨classes, cycle⟩

/-- **Conformity is a preorder, and a partial order but for cycles.** In every table
each class conforms to itself and to the root, conformity carries over, and of two
classes that one class conforms to, one conforms to the other. Two different classes
conform to each other just if they are below the root and superclass steps lead from
each to the other, that is, if they lie on one cycle; so conformity is a partial
order just if no two or more classes form a cycle. -/
theorem conforms_preorder_up_to_cycles (table : ClassTable) :
    IsPreorder String (fun sub sup => table.conforms sub sup) ∧
      (∀ name, table.conforms name root) ∧
      (∀ name first second, table.conforms name first → table.conforms name second →
        table.conforms first second ∨ table.conforms second first) ∧
      (∀ first second, first ≠ second →
        (table.conforms first second ∧ table.conforms second first ↔
          first ≠ root ∧ second ≠ root ∧
            (∃ steps, table.superclass^[steps] first = second) ∧
            ∃ steps, table.superclass^[steps] second = first) ∧
        (table.conforms first second ∧ table.conforms second first ↔
          ∃ classes, table.IsCycle classes ∧ first ∈ classes ∧ second ∈ classes)) ∧
      (IsPartialOrder String (fun sub sup => table.conforms sub sup) ↔
        ¬∃ classes, table.IsCycle classes) := by
  refine ⟨table.conforms_isPreorder, table.conforms_root, ?_, ?_,
    table.conforms_isPartialOrder_iff⟩
  · intro name first second
    exact conforms_comparable
  · intro first second different
    exact ⟨conforms_each_other_iff different, conforms_each_other_iff_cycle different⟩

/-- A class below a cycle of two, a class that is its own superclass, and a class with
an unknown superclass. -/
def lasso : ClassTable :=
  ({} : ClassTable).declareAll
    [.extend "Tail" "Left", .extend "Left" "Right", .extend "Right" "Left",
      .extend "Self" "Self", .extend "Stray" "Ghost"]

/-- The class below the cycle conforms to both classes on it, which conform to each
other, so conformity is no partial order there. -/
theorem conforms_preorder_up_to_cycles_lasso :
    lasso.conforms "Tail" "Left" ∧ lasso.conforms "Tail" "Right" ∧
      (lasso.conforms "Left" "Right" ∨ lasso.conforms "Right" "Left") ∧
      ("Left" ≠ root ∧ "Right" ≠ root ∧ (∃ steps, lasso.superclass^[steps] "Left" = "Right") ∧
        ∃ steps, lasso.superclass^[steps] "Right" = "Left") ∧
      (∃ classes, lasso.IsCycle classes ∧ "Left" ∈ classes ∧ "Right" ∈ classes) ∧
      ¬IsPartialOrder String (fun sub sup => lasso.conforms sub sup) := by
  obtain ⟨-, -, comparable, eachOther, order⟩ := conforms_preorder_up_to_cycles lasso
  have toLeft : lasso.conforms "Tail" "Left" := by cbv
  have toRight : lasso.conforms "Tail" "Right" := by cbv
  have both : lasso.conforms "Left" "Right" ∧ lasso.conforms "Right" "Left" :=
    ⟨by cbv, by cbv⟩
  obtain ⟨reached, onCycle⟩ := eachOther "Left" "Right" (by decide)
  obtain ⟨classes, cycle, members⟩ := onCycle.mp both
  exact ⟨toLeft, toRight, comparable _ _ _ toLeft toRight, reached.mp both,
    ⟨classes, cycle, members⟩, fun partialOrder => order.mp partialOrder ⟨classes, cycle⟩⟩

end Tandem.Dispatch.ClassTable
