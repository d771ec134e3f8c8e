import Tandem.Proofs.Dispatch.Definition

/-! # What the answers of a class table depend on

A class is below the class that it was last put below
(`Tandem.Dispatch.ClassTable.getElem?_superclasses_declareAll`), and its own methods
stand in the order of their first definitions. All questions are answered from these two
records (`Tandem.Dispatch.ClassTable.SameRecords.answer_eq`): how declarations for
different classes follow each other, and how often one is made again, cannot be told
from any answer (`Tandem.Dispatch.ClassTable.answers_determined`).
-/

namespace Tandem.Dispatch.ClassTable

/-- The class that a declaration puts a class below, if there is one. Nothing puts the
root below another class. -/
def Declaration.placedBelow? (name : String) : Declaration → Option String
  | .extend sub sup => if sub = name ∧ sub ≠ root then some sup else none
  | .define _ _ => none

/-- A declaration places a class below another one just if it says so, and not the root. -/
theorem Declaration.placedBelow?_eq_some_iff {declaration : Declaration} {name sup : String} :
    declaration.placedBelow? name = some sup ↔ declaration = .extend name sup ∧ name ≠ root := by
  cases declaration with
  | define owner method => simp [placedBelow?]
  | extend sub above =>
      simp only [placedBelow?, Option.ite_none_right_eq_some, Option.some.injEq,
        Declaration.extend.injEq]
      constructor
      · rintro ⟨⟨rfl, belowRoot⟩, rfl⟩
        exact ⟨⟨rfl, rfl⟩, belowRoot⟩
      · rintro ⟨⟨rfl, rfl⟩, belowRoot⟩
        exact ⟨⟨rfl, belowRoot⟩, rfl⟩

/-- The class that a class was last put below. -/
def lastSuperclass? (declarations : List Declaration) (name : String) : Option String :=
  (declarations.filterMap (Declaration.placedBelow? name)).getLast?

/-- The last declaration that places a class decides. -/
theorem lastSuperclass?_concat (earlier : List Declaration) (last : Declaration)
    (name : String) :
    lastSuperclass? (earlier ++ [last]) name =
      (last.placedBelow? name).or (lastSuperclass? earlier name) := by
  rw [lastSuperclass?, List.filterMap_append, List.getLast?_append, lastSuperclass?]
  cases placed : last.placedBelow? name with
  | none =>
      rw [List.filterMap_cons_none placed]
      rfl
  | some sup =>
      rw [List.filterMap_cons_some placed]
      rfl

/-- A declaration changes the recorded superclass of a class if it puts it below one. -/
theorem getElem?_superclasses_declare (table : ClassTable) (declaration : Declaration)
    (name : String) :
    (table.declare declaration).superclasses[name]? =
      (declaration.placedBelow? name).or table.superclasses[name]? := by
  cases declaration with
  | define owner method => rfl
  | extend sub sup =>
      rw [declare, extend, Declaration.placedBelow?]
      by_cases top : sub = root
      · rw [dif_pos top, if_neg (fun both => both.2 top), Option.none_or]
      · rw [dif_neg top, Std.HashMap.getElem?_insert]
        by_cases same : sub = name
        · rw [if_pos (beq_iff_eq.mpr same), if_pos ⟨same, top⟩, Option.some_or]
        · rw [if_neg fun equal => same (beq_iff_eq.mp equal), if_neg fun both => same both.1,
            Option.none_or]

/-- A table records the superclass that was declared last. -/
theorem getElem?_superclasses_declareAll (declarations : List Declaration) (name : String) :
    (({} : ClassTable).declareAll declarations).superclasses[name]? =
      lastSuperclass? declarations name := by
  induction declarations using List.reverseRecOn with
  | nil => exact Std.HashMap.getElem?_empty
  | append_singleton earlier last ih =>
      rw [declareAll_concat, getElem?_superclasses_declare, ih, lastSuperclass?_concat]

/-- The superclass of a class is the one declared last, or else the root. -/
theorem superclass_declareAll (declarations : List Declaration) (name : String) :
    (({} : ClassTable).declareAll declarations).superclass name =
      (lastSuperclass? declarations name).getD root := by
  rw [superclass, Std.HashMap.getD_eq_getD_getElem?, getElem?_superclasses_declareAll]

/-- A declaration that does not place a class leaves its superclass. -/
theorem superclass_declare_of_not_placed (table : ClassTable) {declaration : Declaration}
    {name : String} (spared : declaration.placedBelow? name = none) :
    (table.declare declaration).superclass name = table.superclass name := by
  unfold superclass
  rw [Std.HashMap.getD_eq_getD_getElem?, Std.HashMap.getD_eq_getD_getElem?,
    getElem?_superclasses_declare, spared, Option.none_or]

/-- A climb depends on the superclasses of the classes that it meets only. -/
theorem climb_congr_of_mem {first second : ClassTable} {seen : List String} {name : String}
    (same : ∀ other ∈ first.climb seen name, first.superclass other = second.superclass other) :
    first.climb seen name = second.climb seen name := by
  fun_induction climb first seen name with
  | case1 seen name stopped => rw [climb, dif_pos stopped]
  | case2 seen name climbing ih =>
      rw [ih fun other member => same other (List.mem_cons_of_mem name member)]
      conv_rhs => rw [climb, dif_neg climbing, ← same name List.mem_cons_self]

section Superclass

variable {first second : ClassTable} (same : first.superclass = second.superclass)

include same

/-- Ancestries depend on the superclasses only. -/
theorem ancestry_congr (name : String) : first.ancestry name = second.ancestry name :=
  climb_congr_of_mem fun other _ => congrFun same other

/-- Conformity depends on the superclasses only. -/
theorem conforms_congr (sub sup : String) : first.conforms sub sup = second.conforms sub sup := by
  rw [conforms, conforms, ancestry_congr same]

/-- Joins depend on the superclasses only. -/
theorem join_congr (left right : String) : first.join left right = second.join left right := by
  simp only [join, conforms_congr same, ancestry_congr same]

variable (methods : first.ownMethods = second.ownMethods)

include methods

/-- Resolution depends on the superclasses and the own methods only. -/
theorem resolve_congr (name method : String) :
    first.resolve name method = second.resolve name method := by
  simp only [resolve, defines, ancestry_congr same, methods]

/-- Method tables depend on the superclasses and the own methods only. -/
theorem methodTable_congr (name : String) : first.methodTable name = second.methodTable name := by
  simp only [methodTable, ancestry_congr same, methods]

end Superclass

/-- Two tables record the same superclass and the same methods for each class. -/
structure SameRecords (first second : ClassTable) : Prop where
  superclasses : ∀ name : String, first.superclasses[name]? = second.superclasses[name]?
  ownMethods : ∀ name, first.ownMethods name = second.ownMethods name

/-- Tables with the same records have the same superclasses. -/
theorem SameRecords.superclass_eq {first second : ClassTable} (records : SameRecords first second) :
    first.superclass = second.superclass := by
  funext name
  simp only [superclass, Std.HashMap.getD_eq_getD_getElem?, records.superclasses]

/-- Tables with the same records contain the same classes. -/
theorem SameRecords.contains_eq {first second : ClassTable} (records : SameRecords first second)
    (name : String) : first.contains name = second.contains name := by
  simp only [contains, Std.HashMap.contains_eq_isSome_getElem?, records.superclasses]

/-- Tables with the same records give the same answers. -/
theorem SameRecords.answer_eq {first second : ClassTable} (records : SameRecords first second)
    (query : Query) : first.answer query = second.answer query := by
  have superclass := records.superclass_eq
  have methods : first.ownMethods = second.ownMethods := funext records.ownMethods
  cases query with
  | contains name => exact congrArg Reply.truth (records.contains_eq name)
  | superclass name => exact congrArg Reply.name (congrFun superclass name)
  | ancestry name => exact congrArg Reply.names (ancestry_congr superclass name)
  | conforms sub sup => exact congrArg Reply.truth (conforms_congr superclass sub sup)
  | join left right => exact congrArg Reply.name (join_congr superclass left right)
  | resolve name method =>
      exact congrArg Reply.owner (resolve_congr superclass methods name method)
  | methodTable name => exact congrArg Reply.slots (methodTable_congr superclass methods name)

/-- A class below the root has a last superclass just if one was declared. -/
theorem lastSuperclass?_isSome_iff {declarations : List Declaration} {name : String}
    (belowRoot : name ≠ root) :
    (lastSuperclass? declarations name).isSome ↔ ∃ sup, .extend name sup ∈ declarations := by
  rw [lastSuperclass?, List.getLast?_isSome]
  constructor
  · intro nonempty
    obtain ⟨sup, member⟩ := List.exists_mem_of_ne_nil _ nonempty
    obtain ⟨declaration, made, placed⟩ := List.mem_filterMap.mp member
    obtain ⟨rfl, -⟩ := Declaration.placedBelow?_eq_some_iff.mp placed
    exact ⟨sup, made⟩
  · rintro ⟨sup, made⟩
    have placed : (Declaration.extend name sup).placedBelow? name = some sup :=
      Declaration.placedBelow?_eq_some_iff.mpr ⟨rfl, belowRoot⟩
    exact List.ne_nil_of_mem (List.mem_filterMap.mpr ⟨_, made, placed⟩)

/-- The root is in every table, and the other classes that were put below one. -/
theorem contains_declareAll_iff (declarations : List Declaration) (name : String) :
    (({} : ClassTable).declareAll declarations).contains name ↔
      name = root ∨ ∃ sup, .extend name sup ∈ declarations := by
  by_cases top : name = root
  · simp [contains, top]
  · rw [contains, beq_false_of_ne top, Bool.false_or, Std.HashMap.contains_eq_isSome_getElem?,
      getElem?_superclasses_declareAll, lastSuperclass?_isSome_iff top]
    exact (or_iff_right top).symm

/-- Declarations with the same last superclasses and first definitions make tables with the same
records. -/
theorem sameRecords_declareAll {first second : List Declaration}
    (superclasses : ∀ name, lastSuperclass? first name = lastSuperclass? second name)
    (methods : ∀ name, firstDefinitions first name = firstDefinitions second name) :
    SameRecords (({} : ClassTable).declareAll first) (({} : ClassTable).declareAll second) where
  superclasses name := by
    rw [getElem?_superclasses_declareAll, getElem?_superclasses_declareAll, superclasses]
  ownMethods name := by rw [ownMethods_declareAll, ownMethods_declareAll, methods]

/-- **Answers depend on last superclasses and first definitions.** Two sequences of
declarations by which each class was last put below the same class, if below any, and
first defined the same methods in the same order make tables that answer every question
in the same way. A class is in such a table if it is the root or was put below a class. -/
theorem answers_determined (first second : List Declaration) :
    ((∀ name, lastSuperclass? first name = lastSuperclass? second name) →
      (∀ name, firstDefinitions first name = firstDefinitions second name) →
      ∀ query, (({} : ClassTable).declareAll first).answer query =
        (({} : ClassTable).declareAll second).answer query) ∧
      ∀ name, (({} : ClassTable).declareAll first).contains name ↔
        name = root ∨ ∃ sup, .extend name sup ∈ first := by
  constructor
  · intro superclasses methods query
    exact (sameRecords_declareAll superclasses methods).answer_eq query
  · exact contains_declareAll_iff first

/-- Two classes declared one after the other. -/
def gathered : List Declaration :=
  [.extend "Shape" root, .define "Shape" "area", .define "Shape" "name",
    .extend "Square" "Shape", .define "Square" "area"]

/-- The same classes declared in turns, with repetitions and with a superclass that is
replaced later. -/
def scattered : List Declaration :=
  [.define "Square" "area", .extend "Square" "Circle", .define "Shape" "area",
    .extend root "Square", .define "Shape" "name", .extend "Shape" root,
    .define "Square" "area", .extend "Square" "Shape", .define "Shape" "area"]

/-- Declarations put apart and repeated answer as those put together, and a class that is only
named above another one is not contained. -/
theorem answers_determined_scattered :
    (({} : ClassTable).declareAll scattered).answer (.methodTable "Square") =
        .slots [⟨"area", "Square"⟩, ⟨"name", "Shape"⟩] ∧
      (({} : ClassTable).declareAll scattered).contains "Circle" = false ∧
      (({} : ClassTable).declareAll scattered).contains "Shape" := by
  obtain ⟨alike, known⟩ := answers_determined scattered gathered
  have superclasses (name : String) :
      lastSuperclass? scattered name = lastSuperclass? gathered name := by
    by_cases square : "Square" = name
    · subst square
      decide
    · by_cases shape : "Shape" = name
      · subst shape
        decide
      · simp only [lastSuperclass?, scattered, gathered, List.filterMap_cons, List.filterMap_nil,
          Declaration.placedBelow?, square, shape, false_and, ne_eq, not_true_eq_false, and_false,
          ↓reduceIte]
  have methods (name : String) :
      firstDefinitions scattered name = firstDefinitions gathered name := by
    by_cases square : "Square" = name
    · subst square
      decide
    · by_cases shape : "Shape" = name
      · subst shape
        decide
      · simp only [firstDefinitions, scattered, gathered, List.filterMap_cons, List.filterMap_nil,
          Declaration.definedBy?, square, shape, ↓reduceIte]
  refine ⟨?_, ?_, ?_⟩
  · rw [alike superclasses methods]
    cbv
  · rw [← Bool.not_eq_true, known]
    simp [scattered, root]
  · exact (known "Shape").mpr (.inr ⟨root, by simp [scattered]⟩)

end Tandem.Dispatch.ClassTable
