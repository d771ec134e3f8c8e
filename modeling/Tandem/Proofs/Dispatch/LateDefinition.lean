import Mathlib.Data.List.Basic
import Mathlib.Data.List.Find
import Tandem.Proofs.Dispatch.Climb
import Tandem.Proofs.Dispatch.Determination
import Tandem.Proofs.Dispatch.Override
import Tandem.Proofs.Dispatch.Placement

/-! # Defining a method late

A definition changes the own methods of one class, by one method. Resolution of that method
changes for the classes below that class, and only where no nearer class defines it
(`Tandem.Dispatch.ClassTable.resolve_define`). Slots of other methods keep their order and
their owners, since placing a method moves no other one
(`Tandem.Dispatch.ClassTable.filter_fillSlots_define`). In the slots of the class itself the
method is placed last of all, in its old slot or behind the others
(`Tandem.Dispatch.ClassTable.methodTable_define_self`).
-/

namespace Tandem.Dispatch

theorem mem_appendNew {names : List String} {name other : String} :
    other ∈ appendNew names name ↔ other ∈ names ∨ other = name := by
  unfold appendNew
  split
  case isTrue known => exact ⟨.inl, fun member => member.elim id fun same => same ▸ known⟩
  case isFalse => rw [List.mem_append, List.mem_singleton]

/-- Adding a name changes nothing about the others. -/
theorem filter_appendNew (names : List String) (name : String) :
    (appendNew names name).filter (fun other => other ≠ name) =
      names.filter fun other => other ≠ name := by
  unfold appendNew
  split
  case isTrue => rfl
  case isFalse =>
    rw [List.filter_append, List.filter_cons_of_neg (by simp), List.filter_nil, List.append_nil]

section Slots

variable {method other owner : String} {slots : List Slot}

/-- Placing a method changes no slot of another one. -/
theorem filter_placeMethod_self (method owner : String) (slots : List Slot) :
    (placeMethod method owner slots).filter (fun slot => slot.method ≠ method) =
      slots.filter fun slot => slot.method ≠ method := by
  induction slots with
  | nil => simp [placeMethod]
  | cons slot rest ih =>
      rw [placeMethod]
      split
      case isTrue same => simp [same]
      case isFalse => rw [List.filter_cons, List.filter_cons, ih]

/-- Placing another method can be done without the slot of a method. -/
theorem filter_placeMethod_of_ne (different : other ≠ method) (owner : String)
    (slots : List Slot) :
    (placeMethod other owner slots).filter (fun slot => slot.method ≠ method) =
      placeMethod other owner (slots.filter fun slot => slot.method ≠ method) := by
  induction slots with
  | nil => simp [placeMethod, different]
  | cons slot rest ih =>
      by_cases dropped : slot.method = method
      · have kept : slot.method ≠ other := fun same => different (same.symm.trans dropped)
        rw [placeMethod, if_neg kept, List.filter_cons_of_neg (by simpa using dropped), ih,
          List.filter_cons_of_neg (by simpa using dropped)]
      · rw [List.filter_cons_of_pos (by simpa using dropped), placeMethod, placeMethod]
        split
        case isTrue => rw [List.filter_cons_of_pos (by simpa using different)]
        case isFalse => rw [List.filter_cons_of_pos (by simpa using dropped), ih]

/-- Leaving one method out before or after the placing makes no difference. -/
theorem filter_placeMethods (method owner : String) (methods : List String)
    (slots : List Slot) :
    (placeMethods owner methods slots).filter (fun slot => slot.method ≠ method) =
      placeMethods owner (methods.filter fun other => other ≠ method)
        (slots.filter fun slot => slot.method ≠ method) := by
  induction methods generalizing slots with
  | nil => rfl
  | cons first rest ih =>
      change (placeMethods owner rest (placeMethod first owner slots)).filter _ = _
      rw [ih]
      by_cases same : first = method
      · rw [same, filter_placeMethod_self, List.filter_cons_of_neg (by simp)]
      · rw [filter_placeMethod_of_ne same, List.filter_cons_of_pos (by simpa using same)]
        rfl

/-- Placing a method where it is already changes nothing. -/
theorem placeMethod_of_ownerOf (placed : ownerOf slots method = some owner) :
    placeMethod method owner slots = slots := by
  induction slots with
  | nil => exact absurd placed nofun
  | cons slot rest ih =>
      rw [ownerOf_cons] at placed
      rw [placeMethod]
      split
      case isTrue same =>
        rw [if_pos same] at placed
        subst same
        rw [← Option.some.inj placed]
      case isFalse different =>
        rw [if_neg different] at placed
        rw [ih placed]

end Slots

namespace ClassTable

variable {table : ClassTable} {owner method name other : String}

/-- A class that defines a method has it as its last own method, unless it had it before. -/
theorem ownMethods_define_self (table : ClassTable) (owner method : String) :
    (table.define owner method).ownMethods owner =
      appendNew (table.ownMethods owner) method := by
  have declared := table.ownMethods_declare (.define owner method) owner
  rwa [Declaration.definedBy?, if_pos rfl] at declared

/-- Defining a method changes no other class. -/
theorem ownMethods_define_of_ne (table : ClassTable) (method : String)
    (different : other ≠ owner) :
    (table.define owner method).ownMethods other = table.ownMethods other := by
  have declared := table.ownMethods_declare (.define owner method) other
  rwa [Declaration.definedBy?, if_neg (Ne.symm different)] at declared

theorem superclass_define (table : ClassTable) (owner method : String) :
    (table.define owner method).superclass = table.superclass :=
  rfl

/-- A class defines what it did before, and its new method. -/
theorem defines_define_iff {query : String} :
    (table.define owner method).defines other query ↔
      table.defines other query ∨ other = owner ∧ query = method := by
  simp only [defines, List.contains_iff_mem]
  by_cases same : other = owner
  · subst same
    rw [ownMethods_define_self, mem_appendNew]
    simp only [true_and]
  · rw [ownMethods_define_of_ne _ _ same]
    simp only [same, false_and, or_false]

/-- Defining a method changes neither other classes nor other methods. -/
theorem defines_define_of_ne {query : String} (different : other ≠ owner ∨ query ≠ method) :
    (table.define owner method).defines other query = table.defines other query := by
  rw [Bool.eq_iff_iff, defines_define_iff]
  refine or_iff_left ?_
  rintro ⟨sameClass, sameMethod⟩
  exact different.elim (· sameClass) (· sameMethod)

/-- Defining a method changes resolution neither for other methods nor for classes that are not
below. -/
theorem resolve_define_of_ne {query : String}
    (apart : query ≠ method ∨ owner ∉ table.ancestry name) :
    (table.define owner method).resolve name query = table.resolve name query := by
  rw [resolve, resolve, ancestry_congr (table.superclass_define owner method)]
  apply List.find?_congr
  intro other member
  apply defines_define_of_ne
  exact apart.symm.imp_left fun off same => off (same ▸ member)

/-- A class comes before another one in a list just if it is in the part before it. -/
theorem idxOf_lt_idxOf_iff {nearer further : List String} (fresh : owner ∉ nearer) :
    (nearer ++ owner :: further).idxOf other < (nearer ++ owner :: further).idxOf owner ↔
      other ∈ nearer := by
  rw [List.idxOf_append_of_notMem fresh, List.idxOf_cons_self, Nat.add_zero]
  by_cases member : other ∈ nearer
  · rw [List.idxOf_append_of_mem member]
    exact iff_of_true (List.idxOf_lt_length_of_mem member) member
  · rw [List.idxOf_append_of_notMem member]
    exact iff_of_false (Nat.not_lt.mpr (Nat.le_add_right ..)) member

/-- A class below the one that defines the method late uses that definition, unless it used
one of a nearer class. -/
theorem resolve_define (below : owner ∈ table.ancestry name) :
    (table.define owner method).resolve name method =
      some (((table.resolve name method).filter fun former =>
        (table.ancestry name).idxOf former < (table.ancestry name).idxOf owner).getD owner) := by
  obtain ⟨nearer, further, split⟩ := List.append_of_mem below
  have fresh := not_mem_of_ancestry_eq_append split
  have alike : nearer.find? (fun former => (table.define owner method).defines former method) =
      nearer.find? fun former => table.defines former method := by
    apply List.find?_congr
    intro former member
    exact defines_define_of_ne (.inl fun same => fresh (same ▸ member))
  have late : (owner :: further).find?
      (fun former => (table.define owner method).defines former method) = some owner :=
    List.find?_cons_of_pos (defines_define_iff.mpr (.inr ⟨rfl, rfl⟩))
  rw [resolve, resolve, ancestry_congr (table.superclass_define owner method), split,
    List.find?_append, List.find?_append, alike, late]
  simp only [idxOf_lt_idxOf_iff fresh]
  cases found : nearer.find? fun former => table.defines former method with
  | some former =>
      have nearby := List.mem_of_find?_eq_some found
      simp only [Option.some_or, Option.filter_some, nearby, decide_true, ↓reduceIte,
        Option.getD_some]
  | none =>
      -- The old definition, if there was one, is not that of a nearer class.
      have without : ((owner :: further).find? fun former => table.defines former method).filter
          (fun former => decide (former ∈ nearer)) = none := by
        rw [Option.filter_eq_none_iff]
        intro former defined nearby
        exact List.find?_eq_none.mp found former (of_decide_eq_true nearby)
          (List.find?_some (p := fun former => table.defines former method) defined)
      rw [Option.none_or, Option.none_or, without, Option.getD_none]

/-- Defining a method again changes no record. -/
theorem sameRecords_define (known : table.defines owner method) :
    SameRecords (table.define owner method) table where
  superclasses _ := rfl
  ownMethods name := by
    by_cases same : name = owner
    · rw [same, ownMethods_define_self, appendNew, if_pos (List.contains_iff_mem.mp known)]
    · exact ownMethods_define_of_ne _ _ same

/-- Defining a method changes no slot of another one. -/
theorem filter_fillSlots_define (table : ClassTable) (owner method : String)
    (classes : List String) :
    ((table.define owner method).fillSlots classes).filter (fun slot => slot.method ≠ method) =
      (table.fillSlots classes).filter fun slot => slot.method ≠ method := by
  induction classes with
  | nil => rfl
  | cons first above ih =>
      rw [fillSlots, fillSlots, filter_placeMethods, filter_placeMethods, ih]
      by_cases same : first = owner
      · rw [same, ownMethods_define_self, filter_appendNew]
      · rw [ownMethods_define_of_ne _ _ same]

/-- Defining a method changes no slots of classes that do not include its owner. -/
theorem fillSlots_define_of_not_mem {classes : List String} (off : owner ∉ classes) :
    (table.define owner method).fillSlots classes = table.fillSlots classes := by
  induction classes with
  | nil => rfl
  | cons first above ih =>
      rw [List.mem_cons, not_or] at off
      rw [fillSlots, fillSlots, ih off.2, ownMethods_define_of_ne _ _ (Ne.symm off.1)]

/-- In the slots of its own class a late definition is placed last. -/
theorem methodTable_define_self (table : ClassTable) (owner method : String) :
    (table.define owner method).methodTable owner =
      placeMethod method owner (table.methodTable owner) := by
  by_cases known : table.defines owner method
  · have placed : ownerOf (table.methodTable owner) method = some owner := by
      rw [methodTable_eq_fillSlots, ownerOf_fillSlots]
      exact resolve_eq_self (List.contains_iff_mem.mp known)
    have records := sameRecords_define known
    rw [placeMethod_of_ownerOf placed,
      methodTable_congr records.superclass_eq (funext records.ownMethods)]
  · obtain ⟨above, chain⟩ := table.exists_ancestry_eq_cons owner
    have once : owner ∉ above := by
      have nodup := table.nodup_ancestry owner
      rw [chain] at nodup
      exact (List.nodup_cons.mp nodup).1
    have added : (table.define owner method).ownMethods owner =
        table.ownMethods owner ++ [method] := by
      rw [ownMethods_define_self, appendNew, if_neg fun member =>
        known (List.contains_iff_mem.mpr member)]
    rw [methodTable_eq_fillSlots, methodTable_eq_fillSlots,
      ancestry_congr (table.superclass_define owner method), chain, fillSlots, fillSlots,
      fillSlots_define_of_not_mem once, added]
    exact List.foldl_append

/-- **A late definition changes one method.** Ancestries, conformity and joins stay what they
are. Other methods resolve as before, and so does the method itself for classes that are not
below the defining class; for the classes below, a definition of a class that comes before the
defining class stays in use, and otherwise the new one is used. In all slots the other methods
keep their order and their owners, and a method that the class had defined already changes no
slot. In the slots of the class itself the method keeps its slot if it had one, and is added
behind the others if it had none. -/
theorem define_changes_one_method (table : ClassTable) (owner method : String) :
    (∀ name, (table.define owner method).ancestry name = table.ancestry name) ∧
      (∀ sub sup, (table.define owner method).conforms sub sup = table.conforms sub sup) ∧
      (∀ first second, (table.define owner method).join first second =
        table.join first second) ∧
      (∀ name query, query ≠ method ∨ owner ∉ table.ancestry name →
        (table.define owner method).resolve name query = table.resolve name query) ∧
      (∀ name, owner ∈ table.ancestry name →
        (table.define owner method).resolve name method =
          some (((table.resolve name method).filter fun former =>
            (table.ancestry name).idxOf former < (table.ancestry name).idxOf owner).getD
              owner)) ∧
      (∀ name,
        ((table.define owner method).methodTable name).filter (fun slot => slot.method ≠ method) =
          (table.methodTable name).filter fun slot => slot.method ≠ method) ∧
      (table.defines owner method →
        ∀ name, (table.define owner method).methodTable name = table.methodTable name) ∧
      (method ∈ (table.methodTable owner).map Slot.method →
        (table.define owner method).methodTable owner =
          (table.methodTable owner).map fun slot =>
            if slot.method = method then { slot with owner := owner } else slot) ∧
      (method ∉ (table.methodTable owner).map Slot.method →
        (table.define owner method).methodTable owner =
          table.methodTable owner ++ [⟨method, owner⟩]) := by
  have superclass := table.superclass_define owner method
  refine ⟨ancestry_congr superclass, conforms_congr superclass, join_congr superclass,
    fun _ _ => resolve_define_of_ne, fun _ => resolve_define, ?_, ?_, ?_, ?_⟩
  · intro name
    rw [methodTable_eq_fillSlots, methodTable_eq_fillSlots, ancestry_congr superclass]
    exact table.filter_fillSlots_define owner method _
  · intro known
    exact methodTable_congr superclass (funext (sameRecords_define known).ownMethods)
  · intro slotted
    have nodup : ((table.methodTable owner).map Slot.method).Nodup := by
      rw [methodTable_eq_fillSlots]
      exact table.nodup_fillSlots _
    rw [methodTable_define_self, placeMethod_of_mem nodup slotted]
    apply List.map_congr_left
    intro slot _
    simp only [Slot.overridden, List.mem_singleton]
  · intro fresh
    rw [methodTable_define_self, placeMethod_of_not_mem fresh]

/-- On the ring, `Square` takes a method over from `Shape` behind it and keeps its slot, but
`Shape` cannot take one over from `Unit` before it. A method that is new to `Square` comes
last, and one that it has already changes nothing. -/
theorem define_changes_one_method_ring :
    ring.resolve "Unit" "name" = some "Shape" ∧
      (ring.define "Square" "name").resolve "Unit" "name" = some "Square" ∧
      (ring.define "Shape" "side").resolve "Unit" "side" = some "Unit" ∧
      (ring.define "Square" "name").resolve "Unit" "area" = some "Square" ∧
      (ring.define "Square" "area").methodTable "Unit" = ring.methodTable "Unit" ∧
      ring.methodTable "Square" = [⟨"side", "Unit"⟩, ⟨"area", "Square"⟩, ⟨"name", "Shape"⟩] ∧
      (ring.define "Square" "name").methodTable "Square" =
        [⟨"side", "Unit"⟩, ⟨"area", "Square"⟩, ⟨"name", "Square"⟩] ∧
      (ring.define "Square" "edge").methodTable "Square" =
        [⟨"side", "Unit"⟩, ⟨"area", "Square"⟩, ⟨"name", "Shape"⟩, ⟨"edge", "Square"⟩] := by
  have chain : ring.ancestry "Unit" = ["Unit", "Square", "Shape", root] := by cbv
  have resolved : ring.resolve "Unit" "name" = some "Shape" := by cbv
  have nearer : ring.resolve "Unit" "side" = some "Unit" := by cbv
  have area : ring.resolve "Unit" "area" = some "Square" := by cbv
  have slots : ring.methodTable "Square" =
      [⟨"side", "Unit"⟩, ⟨"area", "Square"⟩, ⟨"name", "Shape"⟩] := by cbv
  obtain ⟨-, -, -, others, taken, -, -, kept, -⟩ := define_changes_one_method ring "Square" "name"
  obtain ⟨-, -, -, -, missed, -, -, -, -⟩ := define_changes_one_method ring "Shape" "side"
  obtain ⟨-, -, -, -, -, -, again, -, -⟩ := define_changes_one_method ring "Square" "area"
  obtain ⟨-, -, -, -, -, -, -, -, added⟩ := define_changes_one_method ring "Square" "edge"
  refine ⟨resolved, ?_, ?_, ?_, again (by cbv) "Unit", slots, ?_, ?_⟩
  · rw [taken "Unit" (by simp [chain]), resolved, chain]
    rfl
  · rw [missed "Unit" (by simp [chain]), nearer, chain]
    rfl
  · rw [others "Unit" "area" (.inl (by decide)), area]
  · rw [kept (by simp [slots]), slots]
    rfl
  · rw [added (by simp [slots]), slots]
    rfl

end ClassTable

end Tandem.Dispatch
