import Tandem.Dispatch.ClassTable

/-! # Slots agree with resolution

A method table is filled from the root down and every definition overwrites the
one above it, while resolution searches from the class upward and stops. Both find
the same class for every method, and no method has two slots
(`Tandem.Dispatch.ClassTable.methodTable_agrees_resolve`).
-/

namespace Tandem.Dispatch

/-- The class whose definition of a method stands in some slots. -/
def ownerOf (slots : List Slot) (method : String) : Option String :=
  (slots.find? fun slot => slot.method == method).map Slot.owner

theorem ownerOf_cons (slot : Slot) (slots : List Slot) (method : String) :
    ownerOf (slot :: slots) method =
      if slot.method = method then some slot.owner else ownerOf slots method := by
  simp only [ownerOf, List.find?_cons]
  by_cases same : slot.method = method
  · simp only [same, BEq.rfl, Option.map_some, ↓reduceIte]
  · simp only [beq_eq_false_iff_ne.mpr same, same, ↓reduceIte]

/-- Placing a method gives it the new owner and leaves the other methods alone. -/
theorem ownerOf_placeMethod (method owner : String) (slots : List Slot) (other : String) :
    ownerOf (placeMethod method owner slots) other =
      if method = other then some owner else ownerOf slots other := by
  induction slots with
  | nil => rw [placeMethod, ownerOf_cons]
  | cons slot rest ih =>
      rw [placeMethod]
      split
      case isTrue same =>
        subst same
        rw [ownerOf_cons, ownerOf_cons]
        split
        · rfl
        · rfl
      case isFalse different =>
        rw [ownerOf_cons, ownerOf_cons, ih]
        by_cases asked : slot.method = other
        · subst asked
          simp only [↓reduceIte, Ne.symm different]
        · simp only [asked, ↓reduceIte]

/-- Placing all methods of a class makes it their owner. -/
theorem ownerOf_placeMethods (owner : String) (methods : List String) (slots : List Slot)
    (method : String) :
    ownerOf (placeMethods owner methods slots) method =
      if method ∈ methods then some owner else ownerOf slots method := by
  induction methods generalizing slots with
  | nil => simp only [placeMethods, List.foldl_nil, List.not_mem_nil, ↓reduceIte]
  | cons first rest ih =>
      change ownerOf (placeMethods owner rest (placeMethod first owner slots)) method = _
      rw [ih, ownerOf_placeMethod]
      by_cases later : method ∈ rest
      · simp only [later, List.mem_cons, or_true, ↓reduceIte]
      · simp only [later, List.mem_cons, or_false, ↓reduceIte, eq_comm]

/-- A placed method keeps its slot, or gets a new one behind the others. -/
theorem methods_placeMethod (method owner : String) (slots : List Slot) :
    (placeMethod method owner slots).map Slot.method =
      if method ∈ slots.map Slot.method then slots.map Slot.method
      else slots.map Slot.method ++ [method] := by
  induction slots with
  | nil => rfl
  | cons slot rest ih =>
      rw [placeMethod]
      split
      case isTrue same =>
        simp only [List.map_cons, same, List.mem_cons, true_or, ↓reduceIte]
      case isFalse different =>
        simp only [List.map_cons, ih, List.mem_cons, Ne.symm different, false_or]
        split
        · rfl
        · rfl

/-- Placing a method gives it no second slot. -/
theorem nodup_placeMethod {slots : List Slot} (nodup : (slots.map Slot.method).Nodup)
    (method owner : String) : ((placeMethod method owner slots).map Slot.method).Nodup := by
  rw [methods_placeMethod]
  split
  case isTrue => exact nodup
  case isFalse fresh =>
    refine List.nodup_append.mpr ⟨nodup, List.pairwise_singleton _ _, ?_⟩
    intro earlier member last same
    rw [List.mem_singleton.mp same]
    rintro rfl
    exact fresh member

/-- Placing methods gives none of them a second slot. -/
theorem nodup_placeMethods {slots : List Slot} (nodup : (slots.map Slot.method).Nodup)
    (owner : String) (methods : List String) :
    ((placeMethods owner methods slots).map Slot.method).Nodup := by
  induction methods generalizing slots with
  | nil => exact nodup
  | cons method rest ih => exact ih (nodup_placeMethod nodup method owner)

namespace ClassTable

/-- The slots of classes, each overwriting those behind it. -/
def fillSlots (table : ClassTable) : List String → List Slot
  | [] => []
  | owner :: above => placeMethods owner (table.ownMethods owner) (table.fillSlots above)

/-- A method table is filled by the ancestry of its class. -/
theorem methodTable_eq_fillSlots (table : ClassTable) (name : String) :
    table.methodTable name = table.fillSlots (table.ancestry name) := by
  rw [methodTable, List.foldl_reverse]
  induction table.ancestry name with
  | nil => rfl
  | cons owner above ih => rw [List.foldr_cons, ih, fillSlots]

/-- Slots filled by some classes hold the nearest definition of each method. -/
theorem ownerOf_fillSlots (table : ClassTable) (classes : List String) (method : String) :
    ownerOf (table.fillSlots classes) method =
      classes.find? fun owner => table.defines owner method := by
  induction classes with
  | nil => rfl
  | cons owner above ih =>
      rw [fillSlots, ownerOf_placeMethods, ih, List.find?_cons, defines]
      by_cases defined : method ∈ table.ownMethods owner
      · simp only [defined, ↓reduceIte, List.contains_iff_mem.mpr defined]
      · have absent : (table.ownMethods owner).contains method = false := by
          rw [← Bool.not_eq_true, List.contains_iff_mem]
          exact defined
        simp only [defined, ↓reduceIte, absent]

/-- No method has two slots. -/
theorem nodup_fillSlots (table : ClassTable) (classes : List String) :
    ((table.fillSlots classes).map Slot.method).Nodup := by
  induction classes with
  | nil => exact List.nodup_nil
  | cons owner above ih => exact nodup_placeMethods ih owner (table.ownMethods owner)

/-- A method resolves to the first class of the ancestry that defines it. -/
theorem resolve_eq_some_iff {table : ClassTable} {name method owner : String} :
    table.resolve name method = some owner ↔
      ∃ nearer further, table.ancestry name = nearer ++ owner :: further ∧
        method ∈ table.ownMethods owner ∧ ∀ other ∈ nearer, method ∉ table.ownMethods other := by
  rw [resolve, List.find?_eq_some_iff_append]
  simp only [defines, List.contains_iff_mem, Bool.not_eq_eq_eq_not, Bool.not_true,
    ← Bool.not_eq_true]
  constructor
  · rintro ⟨defined, nearer, further, split, missed⟩
    exact ⟨nearer, further, split, defined, missed⟩
  · rintro ⟨nearer, further, split, defined, missed⟩
    exact ⟨defined, nearer, further, split, missed⟩

/-- A method resolves to nothing if no class of the ancestry defines it. -/
theorem resolve_eq_none_iff {table : ClassTable} {name method : String} :
    table.resolve name method = none ↔
      ∀ owner ∈ table.ancestry name, method ∉ table.ownMethods owner := by
  simp only [resolve, List.find?_eq_none, defines, List.contains_iff_mem]

/-- **Slots agree with resolution.** In every table, looking a method up in the slots
of a class gives the class that resolution gives, no method has two slots, and the
class found is the nearest one in the ancestry that defines the method; nothing is
found if there is none. -/
theorem methodTable_agrees_resolve (table : ClassTable) (name : String) :
    (∀ method, ownerOf (table.methodTable name) method = table.resolve name method) ∧
      ((table.methodTable name).map Slot.method).Nodup ∧
      (∀ method owner, table.resolve name method = some owner ↔
        ∃ nearer further, table.ancestry name = nearer ++ owner :: further ∧
          method ∈ table.ownMethods owner ∧
          ∀ other ∈ nearer, method ∉ table.ownMethods other) ∧
      ∀ method, table.resolve name method = none ↔
        ∀ owner ∈ table.ancestry name, method ∉ table.ownMethods owner := by
  rw [methodTable_eq_fillSlots]
  exact ⟨table.ownerOf_fillSlots (table.ancestry name), table.nodup_fillSlots _,
    fun _ _ => resolve_eq_some_iff, fun _ => resolve_eq_none_iff⟩

/-- Three classes on a cycle, the middle one overriding a method of the last. -/
def ring : ClassTable :=
  ({} : ClassTable).declareAll
    [.extend "Unit" "Square", .extend "Square" "Shape", .extend "Shape" "Unit",
      .define "Shape" "area", .define "Shape" "name", .define "Square" "area",
      .define "Unit" "side"]

/-- On a cycle that is cut behind `Shape`, the override of `Square` is the nearest. -/
theorem methodTable_agrees_resolve_ring :
    "area" ∉ ring.ownMethods "Unit" ∧
      ownerOf (ring.methodTable "Unit") "area" = some "Square" ∧
      ownerOf (ring.methodTable "Unit") "volume" = none := by
  obtain ⟨agrees, -, nearest, nothing⟩ := methodTable_agrees_resolve ring "Unit"
  have chain : ring.ancestry "Unit" = ["Unit", "Square", "Shape", root] := by cbv
  have unit : ring.ownMethods "Unit" = ["side"] := by cbv
  have square : ring.ownMethods "Square" = ["area"] := by cbv
  have shape : ring.ownMethods "Shape" = ["area", "name"] := by cbv
  have top : ring.ownMethods root = [] := by cbv
  refine ⟨by simp [unit], ?_, ?_⟩
  · rw [agrees, nearest]
    exact ⟨["Unit"], ["Shape", root], chain, by simp [square], by simp [unit]⟩
  · rw [agrees, nothing, chain]
    simp [unit, square, shape, top]

end ClassTable

end Tandem.Dispatch
