import Mathlib.Logic.Function.Iterate
import Tandem.Dispatch.ClassTable

/-! # Ancestries

The ancestry of a class is compared with the classes reached from it by superclass
steps (`Tandem.Dispatch.ClassTable.Reaches`). Climbing stops at the first
repetition, but a climb together with what was seen before it is closed under
superclass steps (`Tandem.Dispatch.ClassTable.superclass_mem_climb`), so nothing
that can be reached is cut off: the members of an ancestry are the reached classes
and the root (`Tandem.Dispatch.ClassTable.mem_ancestry_iff`), cycles or not.
-/

namespace Tandem.Dispatch.ClassTable

variable {table : ClassTable}

/-- Some number of superclass steps leads from one class to the other. -/
def Reaches (table : ClassTable) (sub sup : String) : Prop :=
  ∃ steps, table.superclass^[steps] sub = sup

/-- Every class reaches itself. -/
theorem Reaches.refl (name : String) : table.Reaches name name :=
  ⟨0, rfl⟩

/-- Every class reaches its superclass. -/
theorem Reaches.superclass (name : String) : table.Reaches name (table.superclass name) :=
  ⟨1, rfl⟩

/-- What is reached from a reached class is reached. -/
theorem Reaches.trans {first second third : String} (lower : table.Reaches first second)
    (upper : table.Reaches second third) : table.Reaches first third := by
  obtain ⟨steps, rfl⟩ := lower
  obtain ⟨more, rfl⟩ := upper
  exact ⟨more + steps, Function.iterate_add_apply ..⟩

/-- The root reaches itself only. -/
theorem Reaches.eq_root {sup : String} (reached : table.Reaches root sup) : sup = root := by
  obtain ⟨steps, rfl⟩ := reached
  exact Function.iterate_fixed table.superclass_root steps

/-- A climb meets only classes that can be reached, and the root. -/
theorem reaches_of_mem_climb {seen : List String} {name other : String}
    (member : other ∈ table.climb seen name) : other = root ∨ table.Reaches name other := by
  fun_induction climb table seen name with
  | case1 seen name stopped => exact .inl (List.mem_singleton.mp member)
  | case2 seen name climbing ih =>
      rcases List.mem_cons.mp member with rfl | further
      · exact .inr (.refl other)
      · exact (ih further).imp_right (Reaches.superclass name).trans

/-- A climb and what was seen before it lose no superclass, if climbing has got so
far by superclass steps. -/
theorem superclass_mem_climb {seen : List String} {name : String}
    (climbed : ∀ other ∈ seen, table.superclass other ∈ seen ∨ table.superclass other = name)
    {other : String} (member : other ∈ seen ∨ other ∈ table.climb seen name) :
    table.superclass other ∈ seen ∨ table.superclass other ∈ table.climb seen name := by
  fun_induction climb table seen name with
  | case1 seen name stopped =>
      rcases member with member | member
      · rcases climbed other member with known | rfl
        · exact .inl known
        · exact stopped.symm.imp_right List.mem_singleton.mpr
      · rw [List.mem_singleton.mp member, superclass_root]
        exact .inr (List.mem_singleton_self root)
  | case2 seen name climbing ih =>
      -- The class that is left now counts as seen, and its superclass comes next.
      have climbedOn : ∀ other ∈ name :: seen, table.superclass other ∈ name :: seen ∨
          table.superclass other = table.superclass name := by
        intro other member
        rcases List.mem_cons.mp member with rfl | member
        · exact .inr rfl
        · rcases climbed other member with known | next
          · exact .inl (List.mem_cons_of_mem name known)
          · exact .inl (next ▸ List.mem_cons_self)
      have moved : ∀ {other : String}, (other ∈ name :: seen ∨
            other ∈ table.climb (name :: seen) (table.superclass name)) ↔
          (other ∈ seen ∨ other ∈ name :: table.climb (name :: seen) (table.superclass name)) := by
        intro other
        simp only [List.mem_cons, or_left_comm, or_assoc]
      exact moved.mp (ih climbedOn (moved.mpr member))

/-- The ancestry of a class begins with the class. -/
theorem exists_ancestry_eq_cons (table : ClassTable) (name : String) :
    ∃ above, table.ancestry name = name :: above := by
  rw [ancestry, climb]
  split
  case isTrue stopped =>
    rcases stopped with rfl | seen
    · exact ⟨[], rfl⟩
    · exact absurd seen List.not_mem_nil
  case isFalse => exact ⟨_, rfl⟩

/-- A class is in its own ancestry. -/
theorem mem_ancestry_self (table : ClassTable) (name : String) : name ∈ table.ancestry name := by
  obtain ⟨above, chain⟩ := table.exists_ancestry_eq_cons name
  exact chain ▸ List.mem_cons_self

/-- Every ancestry holds the root. -/
theorem root_mem_climb (table : ClassTable) (seen : List String) (name : String) :
    root ∈ table.climb seen name := by
  fun_induction climb table seen name with
  | case1 => exact List.mem_singleton_self root
  | case2 seen name climbing ih => exact List.mem_cons_of_mem name ih

/-- The members of an ancestry are the root and the classes that are reached. -/
theorem mem_ancestry_iff {name other : String} :
    other ∈ table.ancestry name ↔ other = root ∨ table.Reaches name other := by
  constructor
  · exact reaches_of_mem_climb
  · rintro (rfl | ⟨steps, rfl⟩)
    · exact table.root_mem_climb [] name
    · induction steps with
      | zero => exact table.mem_ancestry_self name
      | succ steps ih =>
          rw [Function.iterate_succ_apply']
          have closed := superclass_mem_climb (fun _ none => absurd none List.not_mem_nil) (.inr ih)
          exact closed.resolve_left List.not_mem_nil

/-- In a climb each class reaches those behind it, except perhaps the root. -/
theorem climb_pairwise (table : ClassTable) (seen : List String) (name : String) :
    (table.climb seen name).Pairwise fun lower upper =>
      upper = root ∨ table.Reaches lower upper := by
  fun_induction climb table seen name with
  | case1 => exact List.pairwise_singleton _ _
  | case2 seen name climbing ih =>
      refine List.pairwise_cons.mpr ⟨?_, ih⟩
      intro upper member
      exact (reaches_of_mem_climb member).imp_right (Reaches.superclass name).trans

end Tandem.Dispatch.ClassTable
