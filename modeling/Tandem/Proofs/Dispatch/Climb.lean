import Mathlib.Order.Bounds.Basic
import Tandem.Proofs.Dispatch.Ancestry

/-! # Climbs, turn by turn

A climb takes one superclass step a turn and stops at the root or at a class that
it has seen (`Tandem.Dispatch.ClassTable.Stops`). It makes as many turns as it
takes to get there for the first time, and passes one class at each of them
(`Tandem.Dispatch.ClassTable.climb_eq_iterates`). No class is passed twice and all
but the last one passed were given a superclass, so the number of turns is bounded
by the number of such classes, cycles or not
(`Tandem.Dispatch.ClassTable.ancestry_iterates_superclass`). A climb notices classes
seen before it only where it meets them, so a class that is not above itself is
followed by the ancestry of its superclass
(`Tandem.Dispatch.ClassTable.ancestry_eq_cons`).
-/

namespace Tandem.Dispatch.ClassTable

variable {table : ClassTable}

/-- A climb that has made some turns from a class stands at the root, at a class
seen before it, or at a class that it has passed itself. -/
def Stops (table : ClassTable) (seen : List String) (name : String) (turns : Nat) : Prop :=
  table.superclass^[turns] name = root ∨ table.superclass^[turns] name ∈ seen ∨
    ∃ earlier < turns, table.superclass^[earlier] name = table.superclass^[turns] name

/-- A climb stops where it starts at the root or at a class seen before. -/
theorem stops_zero_iff {seen : List String} {name : String} :
    table.Stops seen name 0 ↔ name = root ∨ name ∈ seen := by
  simp only [Stops, Function.iterate_zero, id_eq, Nat.not_lt_zero, false_and, exists_false,
    or_false]

/-- Stopping one turn later is stopping on from the superclass, the class seen. -/
theorem stops_succ_iff {seen : List String} {name : String} {turns : Nat} :
    table.Stops seen name (turns + 1) ↔
      table.Stops (name :: seen) (table.superclass name) turns := by
  simp only [Stops, Function.iterate_succ_apply, List.mem_cons]
  constructor
  · rintro (atRoot | known | ⟨earlier, before, same⟩)
    · exact .inl atRoot
    · exact .inr (.inl (.inr known))
    · cases earlier with
      | zero => exact .inr (.inl (.inl same.symm))
      | succ earlier => exact .inr (.inr ⟨earlier, Nat.lt_of_succ_lt_succ before, same⟩)
  · rintro (atRoot | (first | known) | ⟨earlier, before, same⟩)
    · exact .inl atRoot
    · exact .inr (.inr ⟨0, Nat.succ_pos turns, first.symm⟩)
    · exact .inr (.inl known)
    · exact .inr (.inr ⟨earlier + 1, Nat.succ_lt_succ before, same⟩)

/-- A climb stops first one turn later than the climb from the superclass, unless it
stops at once. -/
theorem first_stop_succ_iff {seen : List String} {name : String} {turns : Nat} :
    IsLeast {turns | table.Stops seen name turns} (turns + 1) ↔
      ¬(name = root ∨ name ∈ seen) ∧
        IsLeast {turns | table.Stops (name :: seen) (table.superclass name) turns} turns := by
  constructor
  · rintro ⟨stops, least⟩
    refine ⟨?_, stops_succ_iff.mp stops, ?_⟩
    · intro stopped
      have immediate := least (stops_zero_iff.mpr stopped)
      exact absurd immediate (Nat.not_succ_le_zero turns)
    · intro other later
      exact Nat.le_of_succ_le_succ (least (stops_succ_iff.mpr later))
  · rintro ⟨climbing, stops, least⟩
    refine ⟨stops_succ_iff.mpr stops, ?_⟩
    intro other later
    cases other with
    | zero => exact absurd (stops_zero_iff.mp later) climbing
    | succ other => exact Nat.succ_le_succ (least (stops_succ_iff.mp later))

/-- Every climb stops, and so stops for a first time. -/
theorem exists_first_stop (table : ClassTable) (seen : List String) (name : String) :
    ∃ turns, IsLeast {turns | table.Stops seen name turns} turns := by
  fun_induction climb table seen name with
  | case1 seen name stopped => exact ⟨0, stops_zero_iff.mpr stopped, fun _ _ => Nat.zero_le _⟩
  | case2 seen name climbing ih =>
      obtain ⟨turns, first⟩ := ih
      exact ⟨turns + 1, first_stop_succ_iff.mpr ⟨climbing, first⟩⟩

/-- A climb passes one class a turn until it stops first, and ends at the root. -/
theorem climb_eq_iterates {seen : List String} {name : String} {turns : Nat}
    (first : IsLeast {turns | table.Stops seen name turns} turns) :
    table.climb seen name =
      (List.range turns).map (fun turn => table.superclass^[turn] name) ++ [root] := by
  induction turns generalizing seen name with
  | zero =>
      rw [climb, dif_pos (stops_zero_iff.mp first.1)]
      rfl
  | succ turns ih =>
      obtain ⟨climbing, further⟩ := first_stop_succ_iff.mp first
      rw [climb, dif_neg climbing, ih further, List.range_succ_eq_map, List.map_cons,
        List.map_map, List.cons_append]
      rfl

/-- Climb for at most some number of turns. There is no result if they are not
enough. -/
def climbWithin? (table : ClassTable) : Nat → List String → String → Option (List String)
  | 0, seen, name => if name = root ∨ name ∈ seen then some [root] else none
  | allowed + 1, seen, name =>
    if name = root ∨ name ∈ seen then some [root]
    else (table.climbWithin? allowed (name :: seen) (table.superclass name)).map (name :: ·)

/-- A climb that stops first after some turns is done within as many, and not within
fewer. -/
theorem climbWithin?_eq {seen : List String} {name : String} {turns : Nat}
    (first : IsLeast {turns | table.Stops seen name turns} turns) (allowed : Nat) :
    table.climbWithin? allowed seen name =
      if turns ≤ allowed then some (table.climb seen name) else none := by
  induction turns generalizing seen name allowed with
  | zero =>
      have stopped := stops_zero_iff.mp first.1
      rw [if_pos (Nat.zero_le allowed), climb, dif_pos stopped]
      cases allowed with
      | zero => rw [climbWithin?, if_pos stopped]
      | succ allowed => rw [climbWithin?, if_pos stopped]
  | succ turns ih =>
      obtain ⟨climbing, further⟩ := first_stop_succ_iff.mp first
      cases allowed with
      | zero => rw [climbWithin?, if_neg climbing, if_neg (Nat.not_succ_le_zero turns)]
      | succ allowed =>
          have climbed : table.climb seen name =
              name :: table.climb (name :: seen) (table.superclass name) := by
            rw [climb, dif_neg climbing]
          rw [climbWithin?, if_neg climbing, ih further, climbed]
          by_cases enough : turns ≤ allowed
          · rw [if_pos enough, if_pos (Nat.succ_le_succ enough), Option.map_some]
          · rw [if_neg enough, if_neg (fun more => enough (Nat.le_of_succ_le_succ more)),
              Option.map_none]

/-- A climb passes only classes that were not seen before it. -/
theorem not_mem_seen_of_mem_climb {seen : List String} {name other : String}
    (member : other ∈ table.climb seen name) (belowRoot : other ≠ root) : other ∉ seen := by
  fun_induction climb table seen name with
  | case1 seen name stopped => exact absurd (List.mem_singleton.mp member) belowRoot
  | case2 seen name climbing ih =>
      rcases List.mem_cons.mp member with rfl | further
      · exact fun known => climbing (.inr known)
      · exact fun known => ih further (List.mem_cons_of_mem name known)

/-- A climb passes no class twice. -/
theorem nodup_climb (table : ClassTable) (seen : List String) (name : String) :
    (table.climb seen name).Nodup := by
  fun_induction climb table seen name with
  | case1 => exact List.pairwise_singleton _ root
  | case2 seen name climbing ih =>
      refine List.nodup_cons.mpr ⟨?_, ih⟩
      intro again
      have belowRoot : name ≠ root := fun atRoot => climbing (.inl atRoot)
      exact not_mem_seen_of_mem_climb again belowRoot List.mem_cons_self

/-- No class occurs twice in an ancestry. -/
theorem nodup_ancestry (table : ClassTable) (name : String) : (table.ancestry name).Nodup :=
  table.nodup_climb [] name

/-- A class of an ancestry does not occur before itself. -/
theorem not_mem_of_ancestry_eq_append {nearer further : List String} {name middle : String}
    (split : table.ancestry name = nearer ++ middle :: further) : middle ∉ nearer := by
  have nodup := table.nodup_ancestry name
  rw [split, List.nodup_append] at nodup
  exact fun member => nodup.2.2 middle member middle List.mem_cons_self rfl

/-- A climb passes classes with a superclass that it has not seen, at most one other
class, and the root. -/
theorem length_climb_le (table : ClassTable) (seen : List String) (name : String) :
    (table.climb seen name).length ≤
      (table.unseen seen).length + (if name = root then 0 else 1) + 1 := by
  fun_induction climb table seen name with
  | case1 seen name stopped =>
      rw [List.length_singleton]
      exact Nat.le_add_left 1 _
  | case2 seen name climbing ih =>
      rw [List.length_cons, if_neg fun atRoot => climbing (.inl atRoot)]
      by_cases known : name ∈ table.superclasses
      · have fewer := length_unseen_cons_lt known fun before => climbing (.inr before)
        split at ih <;> omega
      · have noMore := table.length_unseen_cons_le name seen
        rw [if_pos (superclass_of_not_mem known)] at ih
        omega

/-- An ancestry holds at most its start, the classes with a superclass, and the root. -/
theorem length_ancestry_le (table : ClassTable) (name : String) :
    (table.ancestry name).length ≤ table.superclasses.size + 2 := by
  have climbed := table.length_climb_le [] name
  have all : table.unseen [] = table.superclasses.keys := List.filter_eq_self.mpr fun _ _ => rfl
  rw [all, Std.HashMap.length_keys] at climbed
  rw [ancestry]
  split at climbed <;> omega

/-- A climb does not notice further seen classes that it does not meet. -/
theorem climb_append_of_disjoint {seen apart : List String} {name : String}
    (disjoint : ∀ other ∈ table.climb seen name, other ∉ apart) :
    table.climb (seen ++ apart) name = table.climb seen name := by
  fun_induction climb table seen name with
  | case1 seen name stopped =>
      rw [climb, dif_pos (stopped.imp_right (List.mem_append_left apart))]
  | case2 seen name climbing ih =>
      have fresh : ¬(name = root ∨ name ∈ seen ++ apart) := by
        rintro (atRoot | known)
        · exact climbing (.inl atRoot)
        · rcases List.mem_append.mp known with before | apartFrom
          · exact climbing (.inr before)
          · exact disjoint name List.mem_cons_self apartFrom
      rw [climb, dif_neg fresh]
      congr 1
      exact ih fun other member => disjoint other (List.mem_cons_of_mem name member)

/-- A class that is not above itself comes before the ancestry of its superclass. -/
theorem ancestry_eq_cons {name : String} (off : name ∉ table.ancestry (table.superclass name)) :
    table.ancestry name = name :: table.ancestry (table.superclass name) := by
  have belowRoot : name ≠ root := by
    rintro rfl
    exact off (table.root_mem_climb [] _)
  have climbing : ¬(name = root ∨ name ∈ []) := by
    rintro (atRoot | seen)
    · exact belowRoot atRoot
    · exact List.not_mem_nil seen
  rw [ancestry, climb, dif_neg climbing]
  have apart : ∀ other ∈ table.climb [] (table.superclass name), other ∉ [name] := by
    intro other member same
    exact off (List.mem_singleton.mp same ▸ member)
  exact congrArg (name :: ·) (climb_append_of_disjoint apart)

/-- **An ancestry follows the superclasses to the root or to the first repetition.**
It lists the classes at each turn before the first one that arrives at the root or
at an earlier class, and then the root; the climb makes just these turns. It repeats
no class, has the root nowhere but at its end, is at most two longer than the number
of classes with a superclass, and holds all classes that superclass steps lead to. -/
theorem ancestry_iterates_superclass (table : ClassTable) (name : String) :
    (∃ turns,
      IsLeast {turns | table.superclass^[turns] name = root ∨
        ∃ earlier < turns, table.superclass^[earlier] name = table.superclass^[turns] name} turns ∧
      table.ancestry name =
        (List.range turns).map (fun turn => table.superclass^[turn] name) ++ [root] ∧
      ∀ allowed, table.climbWithin? allowed [] name =
        if turns ≤ allowed then some (table.ancestry name) else none) ∧
      (table.ancestry name).Nodup ∧
      root ∉ (table.ancestry name).dropLast ∧
      (table.ancestry name).length ≤ table.superclasses.size + 2 ∧
      ∀ other, other ∈ table.ancestry name ↔
        other = root ∨ ∃ steps, table.superclass^[steps] name = other := by
  obtain ⟨turns, first⟩ := table.exists_first_stop [] name
  have listed : table.ancestry name = _ := climb_eq_iterates first
  have nodup : (table.ancestry name).Nodup := table.nodup_climb [] name
  refine ⟨⟨turns, ?_, listed, climbWithin?_eq first⟩, nodup, ?_, table.length_ancestry_le name, ?_⟩
  · simpa only [Stops, List.not_mem_nil, false_or] using first
  · rw [listed] at nodup ⊢
    rw [List.dropLast_concat]
    intro earlier
    exact (List.nodup_append.mp nodup).2.2 root earlier root (List.mem_singleton_self root) rfl
  · intro other
    exact mem_ancestry_iff

end Tandem.Dispatch.ClassTable
