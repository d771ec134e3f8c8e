import Std.Data.HashMap

/-! # Classes with one superclass each

A class table records the superclass of each class and the methods that each
class defines itself. Names need not be declared: a class that was given no
superclass sits right below the root. Nothing keeps a class from becoming its
own superclass at some distance, so climbing stops at the first repetition.
-/

namespace Tandem.Dispatch

/-- The class above all others. -/
def root : String := "object"

/-- Names without repetition, in the order they were first given. -/
structure MethodList where
  names : List String := []
  nodup : names.Nodup := by simp

/-- Add a name at the end, unless it is there already. -/
def MethodList.insert (methods : MethodList) (name : String) : MethodList :=
  if known : name ∈ methods.names then methods
  else
    { names := methods.names ++ [name]
      nodup := by
        refine List.nodup_append.mpr ⟨methods.nodup, by simp, ?_⟩
        intro other member last same
        simp only [List.mem_singleton] at same
        rintro rfl
        exact known (same ▸ member) }

/-- The root has no superclass where no class has one. -/
theorem root_not_mem_empty : root ∉ (∅ : Std.HashMap String String) :=
  Std.HashMap.not_mem_empty

/-- Superclasses and own methods by class name. The root is given no superclass. -/
structure ClassTable where
  superclasses : Std.HashMap String String := ∅
  methods : Std.HashMap String MethodList := ∅
  root_not_mem : root ∉ superclasses := by exact root_not_mem_empty

namespace ClassTable

/-- Put a class below another one. The root stays where it is. -/
def extend (table : ClassTable) (sub sup : String) : ClassTable :=
  if top : sub = root then table
  else
    { table with
      superclasses := table.superclasses.insert sub sup
      root_not_mem := by simpa [top] using table.root_not_mem }

/-- Let a class define a method. -/
def define (table : ClassTable) (name method : String) : ClassTable :=
  { table with
    methods := table.methods.insert name ((table.methods.getD name {}).insert method) }

/-- A change to a class table. -/
inductive Declaration where
  /-- The first class is put below the second. -/
  | extend (sub sup : String)
  /-- The class defines the method. -/
  | define (name method : String)

/-- Make a change. -/
def declare (table : ClassTable) : Declaration → ClassTable
  | .extend sub sup => table.extend sub sup
  | .define name method => table.define name method

/-- Make changes one after the other. -/
def declareAll (table : ClassTable) (declarations : List Declaration) : ClassTable :=
  declarations.foldl declare table

/-- Whether a class is the root or was given a superclass. -/
def contains (table : ClassTable) (name : String) : Bool :=
  name == root || table.superclasses.contains name

/-- The superclass of a class: the one it was given, or else the root. -/
def superclass (table : ClassTable) (name : String) : String :=
  table.superclasses.getD name root

/-- The methods a class defines itself, in the order it first defined them. -/
def ownMethods (table : ClassTable) (name : String) : List String :=
  (table.methods.getD name {}).names

/-- The classes with a superclass that are not among those seen. -/
def unseen (table : ClassTable) (seen : List String) : List String :=
  table.superclasses.keys.filter fun name => !seen.contains name

/-- Seeing one more class removes it from those not seen. -/
theorem unseen_cons (table : ClassTable) (name : String) (seen : List String) :
    table.unseen (name :: seen) = (table.unseen seen).filter fun other => other != name := by
  simp only [unseen, List.filter_filter]
  congr 1
  funext other
  by_cases same : other = name <;> simp [same]

/-- Seeing a class that has a superclass leaves fewer classes not seen. -/
theorem length_unseen_cons_lt {table : ClassTable} {name : String} {seen : List String}
    (known : name ∈ table.superclasses) (fresh : name ∉ seen) :
    (table.unseen (name :: seen)).length < (table.unseen seen).length := by
  rw [unseen_cons]
  refine List.length_filter_lt_length_iff_exists.mpr ⟨name, ?_, by simp⟩
  simp [unseen, known, fresh]

/-- Seeing a class never leaves more classes not seen. -/
theorem length_unseen_cons_le (table : ClassTable) (name : String) (seen : List String) :
    (table.unseen (name :: seen)).length ≤ (table.unseen seen).length := by
  rw [unseen_cons]
  exact List.length_filter_le ..

/-- A class that was given no superclass sits right below the root. -/
theorem superclass_of_not_mem {table : ClassTable} {name : String}
    (unknown : name ∉ table.superclasses) : table.superclass name = root :=
  Std.HashMap.getD_eq_fallback unknown

/-- The root is its own superclass. -/
@[simp]
theorem superclass_root (table : ClassTable) : table.superclass root = root :=
  superclass_of_not_mem table.root_not_mem

/-- Climb from a class to its superclass and on, up to the root or to a class seen
before, and end at the root. -/
def climb (table : ClassTable) (seen : List String) (name : String) : List String :=
  if _ : name = root ∨ name ∈ seen then [root]
  else name :: climb table (name :: seen) (table.superclass name)
termination_by (table.unseen seen).length + if name = root then 0 else 1
decreasing_by
  rename_i climbing
  obtain ⟨belowRoot, fresh⟩ := not_or.mp climbing
  rw [if_neg belowRoot]
  by_cases known : name ∈ table.superclasses
  · have fewer := length_unseen_cons_lt known fresh
    split <;> omega
  · have noMore := table.length_unseen_cons_le name seen
    rw [if_pos (superclass_of_not_mem known)]
    omega

/-- A class, its superclass, and so on up to the root. -/
def ancestry (table : ClassTable) (name : String) : List String :=
  table.climb [] name

/-- Whether objects of the first class may stand where the second is expected. -/
def conforms (table : ClassTable) (sub sup : String) : Bool :=
  sub == sup || sup == root || (table.ancestry sub).contains sup

/-- The least class that two classes conform to. -/
def join (table : ClassTable) (first second : String) : String :=
  if table.conforms first second then second
  else if table.conforms second first then first
  else
    let above := table.ancestry first
    ((table.ancestry second).find? fun name => above.contains name).getD root

/-- Whether a class defines a method itself. -/
def defines (table : ClassTable) (name method : String) : Bool :=
  (table.ownMethods name).contains method

/-- The class whose definition of a method a class uses: the nearest one above it. -/
def resolve (table : ClassTable) (name method : String) : Option String :=
  (table.ancestry name).find? fun owner => table.defines owner method

end ClassTable

/-- A numbered place for a method and the class whose definition stands there. -/
structure Slot where
  method : String
  owner : String

/-- Let a class define a method: in its old slot if it has one, else in a new last
slot. -/
def placeMethod (method owner : String) : List Slot → List Slot
  | [] => [⟨method, owner⟩]
  | slot :: rest =>
    if slot.method = method then ⟨method, owner⟩ :: rest
    else slot :: placeMethod method owner rest

/-- Let a class define all its methods. -/
def placeMethods (owner : String) (methods : List String) (slots : List Slot) : List Slot :=
  methods.foldl (fun slots method => placeMethod method owner slots) slots

/-- The slots of a class, filled from the root down. -/
def ClassTable.methodTable (table : ClassTable) (name : String) : List Slot :=
  (table.ancestry name).reverse.foldl
    (fun slots owner => placeMethods owner (table.ownMethods owner) slots) []

/-- A question about classes, by name. -/
inductive Query where
  | contains (name : String)
  | superclass (name : String)
  | ancestry (name : String)
  | conforms (sub sup : String)
  | join (first second : String)
  | resolve (name method : String)
  | methodTable (name : String)

/-- The question whose answer a change bears on most: the ancestry of a class that
was put below another, the slots of a class that defines a method. -/
def ClassTable.Declaration.query : ClassTable.Declaration → Query
  | .extend sub _ => .ancestry sub
  | .define name _ => .methodTable name

/-- The answer to a question. -/
inductive Reply where
  | truth (holds : Bool)
  | name (name : String)
  | names (names : List String)
  | owner (owner : Option String)
  | slots (slots : List Slot)

/-- Answer a question. -/
def ClassTable.answer (table : ClassTable) : Query → Reply
  | .contains name => .truth (table.contains name)
  | .superclass name => .name (table.superclass name)
  | .ancestry name => .names (table.ancestry name)
  | .conforms sub sup => .truth (table.conforms sub sup)
  | .join first second => .name (table.join first second)
  | .resolve name method => .owner (table.resolve name method)
  | .methodTable name => .slots (table.methodTable name)

end Tandem.Dispatch
