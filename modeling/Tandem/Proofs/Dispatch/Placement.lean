import Tandem.Proofs.Dispatch.MethodTable

/-! # Placing methods in slots

A class that defines some methods overrides those that have a slot already, in that
slot, and puts the others into new slots behind them in their order
(`Tandem.Dispatch.placeMethods_eq_append`). So the slots that a chain of classes
fills are those of the chain above its first class, overridden and extended
(`Tandem.Dispatch.ClassTable.fillSlots_cons_eq_append`).
-/

namespace Tandem.Dispatch

/-- What a slot becomes when a class defines some methods. -/
def Slot.overridden (owner : String) (methods : List String) (slot : Slot) : Slot :=
  if slot.method ∈ methods then { slot with owner := owner } else slot

namespace Slot

/-- Overriding a slot keeps its method. -/
@[simp]
theorem overridden_method (owner : String) (methods : List String) (slot : Slot) :
    (slot.overridden owner methods).method = slot.method := by
  unfold overridden
  split
  · rfl
  · rfl

/-- The slot of an overridden method changes its owner. -/
theorem overridden_of_mem {owner : String} {methods : List String} {slot : Slot}
    (member : slot.method ∈ methods) :
    slot.overridden owner methods = { slot with owner := owner } :=
  if_pos member

/-- The slot of another method stays as it is. -/
theorem overridden_of_not_mem {owner : String} {methods : List String} {slot : Slot}
    (absent : slot.method ∉ methods) : slot.overridden owner methods = slot :=
  if_neg absent

/-- Overriding one method and then others is overriding them all. -/
theorem overridden_overridden (owner method : String) (methods : List String) (slot : Slot) :
    (slot.overridden owner [method]).overridden owner methods =
      slot.overridden owner (method :: methods) := by
  by_cases later : slot.method ∈ methods
  · rw [overridden_of_mem (by simpa only [overridden_method] using later),
      overridden_of_mem (List.mem_cons_of_mem method later), overridden_method]
  · rw [overridden_of_not_mem (by simpa only [overridden_method] using later)]
    simp only [overridden, List.mem_cons, List.not_mem_nil, later]

end Slot

/-- Overriding slots keeps their methods. -/
theorem map_method_overridden (owner : String) (methods : List String) (slots : List Slot) :
    (slots.map (Slot.overridden owner methods)).map Slot.method = slots.map Slot.method := by
  rw [List.map_map]
  exact List.map_congr_left fun slot _ => slot.overridden_method owner methods

theorem map_overridden_nil (owner : String) (slots : List Slot) :
    slots.map (Slot.overridden owner []) = slots :=
  List.map_id'' (fun _ => Slot.overridden_of_not_mem List.not_mem_nil) slots

/-- Overriding a method that has no slot changes nothing. -/
theorem map_overridden_of_not_mem {owner method : String} {methods : List String}
    {slots : List Slot} (fresh : method ∉ slots.map Slot.method) :
    slots.map (Slot.overridden owner (method :: methods)) =
      slots.map (Slot.overridden owner methods) := by
  apply List.map_congr_left
  intro slot member
  have different : slot.method ≠ method := by
    rintro rfl
    exact fresh (List.mem_map_of_mem member)
  simp only [Slot.overridden, List.mem_cons, different, false_or]

/-- A new method is placed in a new last slot. -/
theorem placeMethod_of_not_mem {method owner : String} {slots : List Slot}
    (fresh : method ∉ slots.map Slot.method) :
    placeMethod method owner slots = slots ++ [⟨method, owner⟩] := by
  induction slots with
  | nil => rfl
  | cons slot rest ih =>
      rw [List.map_cons, List.mem_cons, not_or] at fresh
      rw [placeMethod, if_neg (Ne.symm fresh.1), ih fresh.2, List.cons_append]

/-- A known method is placed in its old slot. -/
theorem placeMethod_of_mem {method owner : String} {slots : List Slot}
    (nodup : (slots.map Slot.method).Nodup) (known : method ∈ slots.map Slot.method) :
    placeMethod method owner slots = slots.map (Slot.overridden owner [method]) := by
  induction slots with
  | nil => exact absurd known List.not_mem_nil
  | cons slot rest ih =>
      rw [List.map_cons] at nodup known
      obtain ⟨once, nodup⟩ := List.nodup_cons.mp nodup
      rw [placeMethod, List.map_cons]
      by_cases same : slot.method = method
      · subst same
        rw [if_pos rfl, map_overridden_of_not_mem once, map_overridden_nil,
          Slot.overridden_of_mem (List.mem_singleton_self _)]
      · have further := (List.mem_cons.mp known).resolve_left (Ne.symm same)
        rw [if_neg same, ih nodup further,
          Slot.overridden_of_not_mem fun member => same (List.mem_singleton.mp member)]

/-- Placing the methods of a class overrides those that have a slot, and adds slots
for the others in their order. -/
theorem placeMethods_eq_append {owner : String} {methods : List String} {slots : List Slot}
    (methodsNodup : methods.Nodup) (slotsNodup : (slots.map Slot.method).Nodup) :
    placeMethods owner methods slots =
      slots.map (Slot.overridden owner methods) ++
        (methods.filter fun method => method ∉ slots.map Slot.method).map
          fun method => ⟨method, owner⟩ := by
  induction methods generalizing slots with
  | nil =>
      rw [map_overridden_nil, List.filter_nil, List.map_nil, List.append_nil]
      rfl
  | cons method rest ih =>
      -- The first method is placed at once, so the others find the slots it leaves.
      obtain ⟨once, restNodup⟩ := List.nodup_cons.mp methodsNodup
      have placed := ih restNodup (nodup_placeMethod slotsNodup method owner)
      change placeMethods owner rest (placeMethod method owner slots) = _
      rw [placed]
      by_cases known : method ∈ slots.map Slot.method
      · have skipped : ((method :: rest).filter fun other => other ∉ slots.map Slot.method) =
            rest.filter fun other => other ∉ slots.map Slot.method := by
          simp only [List.filter_cons, known, not_true_eq_false, decide_false, Bool.false_eq_true,
            ↓reduceIte]
        rw [placeMethod_of_mem slotsNodup known, map_method_overridden, List.map_map, skipped]
        congr 1
        exact List.map_congr_left fun slot _ => slot.overridden_overridden owner method rest
      · have first : ((method :: rest).filter fun other => other ∉ slots.map Slot.method) =
            method :: rest.filter fun other => other ∉ slots.map Slot.method := by
          simp only [List.filter_cons, known, not_false_eq_true, decide_true, ↓reduceIte]
        -- The new slot is in the way of no later method, since no method is given twice.
        have others : (rest.filter fun other =>
            other ∉ (slots ++ [Slot.mk method owner]).map Slot.method) =
              rest.filter fun other => other ∉ slots.map Slot.method := by
          apply List.filter_congr
          intro other member
          have different : other ≠ method := by
            rintro rfl
            exact once member
          simp only [List.map_append, List.map_cons, List.map_nil, List.mem_append,
            List.mem_singleton, different, or_false]
        have added : Slot.overridden owner rest ⟨method, owner⟩ = ⟨method, owner⟩ :=
          Slot.overridden_of_not_mem once
        rw [placeMethod_of_not_mem known, others, map_overridden_of_not_mem known, first,
          List.map_append, List.map_singleton, added, List.append_assoc, List.map_cons,
          List.singleton_append]

namespace ClassTable

variable {table : ClassTable}

/-- The class at the front adds its methods to the slots of the others. -/
theorem fillSlots_cons_eq_append (table : ClassTable) (owner : String) (above : List String) :
    table.fillSlots (owner :: above) =
      (table.fillSlots above).map (Slot.overridden owner (table.ownMethods owner)) ++
        ((table.ownMethods owner).filter fun method =>
          method ∉ (table.fillSlots above).map Slot.method).map fun method => ⟨method, owner⟩ :=
  placeMethods_eq_append (table.methods.getD owner {}).nodup (table.nodup_fillSlots above)

/-- The definitions in slots are those of the classes that filled them. -/
theorem owner_mem_of_mem_fillSlots {classes : List String} {slot : Slot}
    (member : slot ∈ table.fillSlots classes) : slot.owner ∈ classes := by
  induction classes generalizing slot with
  | nil => exact absurd member List.not_mem_nil
  | cons owner above ih =>
      rw [fillSlots_cons_eq_append, List.mem_append] at member
      rcases member with inherited | added
      · obtain ⟨upper, upperMember, rfl⟩ := List.mem_map.mp inherited
        by_cases defined : upper.method ∈ table.ownMethods owner
        · rw [Slot.overridden_of_mem defined]
          exact List.mem_cons_self
        · rw [Slot.overridden_of_not_mem defined]
          exact List.mem_cons_of_mem owner (ih upperMember)
      · obtain ⟨method, -, rfl⟩ := List.mem_map.mp added
        exact List.mem_cons_self

end ClassTable

end Tandem.Dispatch
