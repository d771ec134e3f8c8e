import Tandem.Proofs.Dispatch.Ancestry

/-! # Conformity

A class conforms to the root and to the classes that it reaches
(`Tandem.Dispatch.ClassTable.conforms_iff`). So conformity is reflexive and
carries over in every table, and two classes that conform to each other are the
same where no class is above itself (`Tandem.Dispatch.ClassTable.Acyclic`).
-/

namespace Tandem.Dispatch.ClassTable

variable {table : ClassTable}

/-- Conformity is membership in the ancestry: the shortcuts find nothing else. -/
theorem conforms_iff_mem_ancestry {sub sup : String} :
    table.conforms sub sup ↔ sup ∈ table.ancestry sub := by
  simp only [conforms, Bool.or_eq_true, beq_iff_eq, List.contains_iff_mem]
  constructor
  · rintro ((rfl | rfl) | member)
    · exact table.mem_ancestry_self sub
    · exact table.root_mem_climb [] sub
    · exact member
  · exact .inr

/-- A class conforms to the root and to the classes that it reaches. -/
theorem conforms_iff {sub sup : String} :
    table.conforms sub sup ↔ sup = root ∨ table.Reaches sub sup :=
  conforms_iff_mem_ancestry.trans mem_ancestry_iff

/-- Every class conforms to itself. -/
theorem conforms_refl (table : ClassTable) (name : String) : table.conforms name name :=
  conforms_iff.mpr (.inr (.refl name))

/-- Every class conforms to the root. -/
theorem conforms_root (table : ClassTable) (name : String) : table.conforms name root :=
  conforms_iff.mpr (.inl rfl)

/-- The root conforms to itself only. -/
theorem eq_root_of_conforms {name : String} (conforms : table.conforms root name) :
    name = root := by
  rcases conforms_iff.mp conforms with atRoot | reached
  · exact atRoot
  · exact reached.eq_root

/-- Conformity carries over. -/
theorem conforms_trans {first second third : String} (lower : table.conforms first second)
    (upper : table.conforms second third) : table.conforms first third := by
  rw [conforms_iff] at *
  rcases upper with rfl | upper
  · exact .inl rfl
  · rcases lower with rfl | lower
    · exact .inl upper.eq_root
    · exact .inr (lower.trans upper)

/-- Each member of an ancestry conforms to those behind it. -/
theorem ancestry_pairwise (table : ClassTable) (name : String) :
    (table.ancestry name).Pairwise fun lower upper => table.conforms lower upper :=
  (table.climb_pairwise [] name).imp conforms_iff.mpr

/-- No class but the root is above itself. -/
def Acyclic (table : ClassTable) : Prop :=
  ∀ name, name ≠ root → name ∉ table.ancestry (table.superclass name)

/-- Only a class that was given a superclass can be above itself. -/
theorem Acyclic.of_forall_mem
    (below : ∀ name ∈ table.superclasses, table.conforms (table.superclass name) name = false) :
    table.Acyclic := by
  intro name belowRoot above
  rw [← conforms_iff_mem_ancestry] at above
  by_cases known : name ∈ table.superclasses
  · rw [below name known] at above
    exact Bool.false_ne_true above
  · rw [superclass_of_not_mem known, conforms_iff] at above
    exact belowRoot (above.elim id Reaches.eq_root)

/-- Without cycles, a class that its superclass reaches is the root. -/
theorem Acyclic.eq_root (acyclic : table.Acyclic) {name : String}
    (returns : table.Reaches (table.superclass name) name) : name = root := by
  by_contra belowRoot
  exact acyclic name belowRoot (mem_ancestry_iff.mpr (.inr returns))

/-- Without cycles, classes that conform to each other are the same. -/
theorem Acyclic.conforms_antisymm (acyclic : table.Acyclic) {first second : String}
    (upward : table.conforms first second) (downward : table.conforms second first) :
    first = second := by
  rw [conforms_iff] at upward downward
  rcases upward with rfl | upward
  · rcases downward with rfl | downward
    · rfl
    · exact downward.eq_root
  · rcases downward with rfl | downward
    · exact upward.eq_root.symm
    · obtain ⟨steps, arrives⟩ := upward
      cases steps with
      | zero => exact arrives
      | succ steps =>
          have returns : table.Reaches (table.superclass first) first :=
            Reaches.trans ⟨steps, arrives⟩ downward
          obtain rfl := acyclic.eq_root returns
          exact (Reaches.eq_root ⟨_, arrives⟩).symm

end Tandem.Dispatch.ClassTable
