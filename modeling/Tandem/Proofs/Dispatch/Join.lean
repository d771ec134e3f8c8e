import Tandem.Proofs.Dispatch.Conformity

/-! # Joins are least upper bounds

The join of two classes is a class that both conform to, and it conforms to every
other such class (`Tandem.Dispatch.ClassTable.join_leastAbove`). The class that a
search along one ancestry for members of the other finds first is one as well
(`Tandem.Dispatch.ClassTable.exists_nearest`). Two least classes conform to each
other, so where no class is above itself the shortcuts of a join agree with the
search, and joins commute and associate by name
(`Tandem.Dispatch.ClassTable.join_least_upper_bound`).
-/

namespace Tandem.Dispatch.ClassTable

variable {table : ClassTable}

/-- A class that two classes conform to, and that conforms to all such classes. -/
structure LeastAbove (table : ClassTable) (first second least : String) : Prop where
  first_conforms : table.conforms first least
  second_conforms : table.conforms second least
  conforms_of_conforms : ∀ other, table.conforms first other → table.conforms second other →
    table.conforms least other

/-- Of two least classes each conforms to the other. -/
theorem LeastAbove.conforms {first second least other : String}
    (lower : table.LeastAbove first second least) (upper : table.LeastAbove first second other) :
    table.conforms least other :=
  lower.conforms_of_conforms other upper.first_conforms upper.second_conforms

/-- The first member of one ancestry that is in another is a least class above both. -/
theorem exists_nearest (table : ClassTable) (first second : String) :
    ∃ nearest, (table.ancestry second).find? (fun name => (table.ancestry first).contains name) =
        some nearest ∧ table.LeastAbove first second nearest := by
  have rootFirst : (table.ancestry first).contains root := by
    rw [List.contains_iff_mem]
    exact table.root_mem_climb [] first
  have common : ((table.ancestry second).find?
      fun name => (table.ancestry first).contains name).isSome :=
    List.find?_isSome.mpr ⟨root, table.root_mem_climb [] second, rootFirst⟩
  obtain ⟨nearest, found⟩ := Option.isSome_iff_exists.mp common
  refine ⟨nearest, found, ?_⟩
  obtain ⟨inFirst, before, behind, split, missed⟩ := List.find?_eq_some_iff_append.mp found
  have ordered := table.ancestry_pairwise second
  rw [split, List.pairwise_append, List.pairwise_cons] at ordered
  constructor
  · rw [List.contains_iff_mem] at inFirst
    exact conforms_iff_mem_ancestry.mpr inFirst
  · rw [conforms_iff_mem_ancestry, split]
    exact List.mem_append_right before List.mem_cons_self
  · intro other firstConforms secondConforms
    rw [conforms_iff_mem_ancestry] at firstConforms secondConforms
    rw [split, List.mem_append, List.mem_cons] at secondConforms
    rcases secondConforms with earlier | rfl | later
    · have outside := missed other earlier
      simp only [List.contains_iff_mem.mpr firstConforms, Bool.not_true, Bool.false_eq_true]
        at outside
    · exact table.conforms_refl other
    · exact ordered.2.1.1 other later

/-- A join is a least class above both classes. -/
theorem join_leastAbove (table : ClassTable) (first second : String) :
    table.LeastAbove first second (table.join first second) := by
  unfold join
  split
  case isTrue conforms => exact ⟨conforms, table.conforms_refl second, fun _ _ upper => upper⟩
  case isFalse =>
    split
    case isTrue conforms => exact ⟨table.conforms_refl first, conforms, fun _ upper _ => upper⟩
    case isFalse =>
      obtain ⟨nearest, found, least⟩ := table.exists_nearest first second
      simp only [found, Option.getD_some]
      exact least

/-- A join conforms to what both classes conform to. -/
theorem join_conforms_iff {first second other : String} :
    table.conforms (table.join first second) other ↔
      table.conforms first other ∧ table.conforms second other := by
  have least := table.join_leastAbove first second
  constructor
  · intro upper
    exact ⟨conforms_trans least.first_conforms upper, conforms_trans least.second_conforms upper⟩
  · rintro ⟨firstConforms, secondConforms⟩
    exact least.conforms_of_conforms other firstConforms secondConforms

/-- Joins in either order conform to each other. -/
theorem join_comm_conforms (table : ClassTable) (first second : String) :
    table.conforms (table.join first second) (table.join second first) :=
  join_conforms_iff.mpr (join_conforms_iff.mp (table.conforms_refl _)).symm

/-- Joins of three classes conform to each other, however they are grouped. -/
theorem join_assoc_conforms (table : ClassTable) (first second third : String) :
    table.conforms (table.join (table.join first second) third)
        (table.join first (table.join second third)) ∧
      table.conforms (table.join first (table.join second third))
        (table.join (table.join first second) third) := by
  have right := table.conforms_refl (table.join first (table.join second third))
  have left := table.conforms_refl (table.join (table.join first second) third)
  rw [join_conforms_iff, join_conforms_iff] at left right
  rw [join_conforms_iff, join_conforms_iff, join_conforms_iff, join_conforms_iff]
  exact ⟨and_assoc.mpr right, and_assoc.mp left⟩

/-- **Joins are least upper bounds.** In every table a join is a least class above
both classes, is the class itself for a class and itself, and depends on order and
grouping only up to classes that conform to each other. Where no class is above
itself order and grouping make no difference, and the join is the first member of
the second ancestry that is in the first. -/
theorem join_least_upper_bound (table : ClassTable) :
    (∀ first second, table.LeastAbove first second (table.join first second)) ∧
      (∀ name, table.join name name = name) ∧
      (∀ first second,
        table.conforms (table.join first second) (table.join second first) ∧
          table.conforms (table.join second first) (table.join first second)) ∧
      (∀ first second third,
        table.conforms (table.join (table.join first second) third)
            (table.join first (table.join second third)) ∧
          table.conforms (table.join first (table.join second third))
            (table.join (table.join first second) third)) ∧
      (table.Acyclic →
        (∀ first second, table.join first second = table.join second first) ∧
          (∀ first second third, table.join (table.join first second) third =
            table.join first (table.join second third)) ∧
          ∀ first second, (table.ancestry second).find?
            (fun name => (table.ancestry first).contains name) =
              some (table.join first second)) := by
  refine ⟨table.join_leastAbove, ?_, ?_, table.join_assoc_conforms, ?_⟩
  · intro name
    rw [join, if_pos (table.conforms_refl name)]
  · intro first second
    exact ⟨table.join_comm_conforms first second, table.join_comm_conforms second first⟩
  · intro acyclic
    refine ⟨?_, ?_, ?_⟩
    · intro first second
      exact acyclic.conforms_antisymm (table.join_comm_conforms first second)
        (table.join_comm_conforms second first)
    · intro first second third
      obtain ⟨upward, downward⟩ := table.join_assoc_conforms first second third
      exact acyclic.conforms_antisymm upward downward
    · intro first second
      obtain ⟨nearest, found, least⟩ := table.exists_nearest first second
      have joined := table.join_leastAbove first second
      rw [found, acyclic.conforms_antisymm (least.conforms joined) (joined.conforms least)]

/-- A table without cycles, in which two branches meet at a class below the root. -/
def shapes : ClassTable :=
  ({} : ClassTable).declareAll
    [.extend "Shape" root, .extend "Circle" "Shape", .extend "Square" "Shape",
      .extend "Unit" "Square"]

/-- A table with a cycle of two classes. -/
def twins : ClassTable :=
  ({} : ClassTable).declareAll [.extend "Left" "Right", .extend "Right" "Left"]

/-- The branches of the shapes meet in either order at the same class; the twins join
to either of them, depending on the order. -/
theorem join_least_upper_bound_shapes :
    shapes.Acyclic ∧ shapes.join "Unit" "Circle" = "Shape" ∧
      shapes.join "Unit" "Circle" = shapes.join "Circle" "Unit" ∧
      shapes.conforms (shapes.join "Unit" "Circle") "Shape" ∧
      twins.join "Left" "Right" = "Right" ∧ twins.join "Right" "Left" = "Left" ∧
      twins.conforms (twins.join "Left" "Right") (twins.join "Right" "Left") := by
  have acyclic : shapes.Acyclic := by
    apply Acyclic.of_forall_mem
    intro name known
    simp only [shapes, declareAll, declare, extend, root, List.foldl_cons, List.foldl_nil,
      String.reduceEq, ↓reduceDIte, Std.HashMap.mem_insert, beq_iff_eq] at known
    rcases known with rfl | rfl | rfl | rfl | none
    · cbv
    · cbv
    · cbv
    · cbv
    · exact absurd none Std.HashMap.not_mem_empty
  obtain ⟨least, -, -, -, byName⟩ := join_least_upper_bound shapes
  obtain ⟨-, -, comm, -, -⟩ := join_least_upper_bound twins
  refine ⟨acyclic, by cbv, (byName acyclic).1 _ _, ?_, by cbv, by cbv, (comm _ _).1⟩
  exact (least "Unit" "Circle").conforms_of_conforms "Shape" (by cbv) (by cbv)

end Tandem.Dispatch.ClassTable
