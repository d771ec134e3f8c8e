import Tandem.Proofs.Dispatch.Conformity
import Tandem.Proofs.Dispatch.Determination
import Tandem.Proofs.Dispatch.Holding

/-! # Handles hold objects of the class they are declared with

A handle is checked when it is assigned, against the table that is current then. The check
lasts as long as no declaration puts one of the three classes elsewhere: then all tables
order these classes in the same way
(`Tandem.Dispatch.ClassTable.KeepsClasses.conforms_eq`), and every object held conforms to
the declared class of its handle in every table (`Tandem.Dispatch.Session.Typed`).
-/

namespace Tandem.Dispatch

/-- The class above one of the three classes is the root or another of them. -/
theorem Class.superclassName_eq (declared : Class) :
    declared.superclassName = root ∨ ∃ above : Class, declared.superclassName = above.name := by
  cases declared with
  | a => exact .inl rfl
  | b => exact .inr ⟨.a, rfl⟩
  | c => exact .inr ⟨.b, rfl⟩

namespace ClassTable

/-- The classes that objects are made of stand below the classes that they declare. -/
def KeepsClasses (table : ClassTable) : Prop :=
  ∀ declared : Class, table.superclass declared.name = declared.superclassName

/-- The three classes stand where they were declared. -/
theorem keepsClasses_demo : demo.KeepsClasses := by
  intro declared
  unfold demo
  rw [superclass_declareAll]
  cases declared <;> decide

variable {table : ClassTable}

/-- A declaration that does not place one of the three classes leaves them where they are. -/
theorem KeepsClasses.declare (keeps : table.KeepsClasses) {declaration : Declaration}
    (spared : ∀ (declared : Class) (sup : String), declaration ≠ .extend declared.name sup) :
    (table.declare declaration).KeepsClasses := by
  intro declared
  rw [superclass_declare_of_not_placed table, keeps declared]
  cases placed : declaration.placedBelow? declared.name with
  | none => rfl
  | some sup =>
      exact absurd (Declaration.placedBelow?_eq_some_iff.mp placed).1 (spared declared sup)

/-- From one of the three classes only these and the root are reached. -/
theorem KeepsClasses.eq_of_reaches (keeps : table.KeepsClasses) {declared : Class}
    {other : String} (reached : table.Reaches declared.name other) :
    other = root ∨ ∃ above : Class, other = above.name := by
  obtain ⟨steps, rfl⟩ := reached
  induction steps with
  | zero => exact .inr ⟨declared, rfl⟩
  | succ steps ih =>
      rw [Function.iterate_succ_apply']
      rcases ih with top | ⟨above, reached⟩
      · rw [top, superclass_root]
        exact .inl rfl
      · rw [reached, keeps above]
        exact above.superclassName_eq

/-- Tables that keep the three classes where they were declared order them alike. -/
theorem KeepsClasses.conforms_eq {first second : ClassTable} (keepsFirst : first.KeepsClasses)
    (keepsSecond : second.KeepsClasses) (sub : Class) (sup : String) :
    first.conforms sub.name sup = second.conforms sub.name sup := by
  have chain : first.ancestry sub.name = second.ancestry sub.name := by
    apply climb_congr_of_mem
    intro other member
    have met : other = root ∨ ∃ above : Class, other = above.name := by
      rcases mem_ancestry_iff.mp member with top | reached
      · exact .inl top
      · exact keepsFirst.eq_of_reaches reached
    rcases met with rfl | ⟨above, rfl⟩
    · rw [superclass_root, superclass_root]
    · rw [keepsFirst above, keepsSecond above]
  rw [conforms, conforms, chain]

end ClassTable

namespace Session

/-- All tables keep the three classes, and every object held conforms to the declared class
of its handle wherever these are kept. -/
structure Typed (session : Session) : Prop where
  keepsClasses : ∀ table ∈ session.tables, table.KeepsClasses
  conforms : ∀ (number : Nat) (handle : Handle) (object : Object),
    session.handles[number]? = some handle → handle.referent = some object →
      ∀ table : ClassTable, table.KeepsClasses →
        table.conforms object.runtime.name handle.declared.name

/-- A session begins with no object out of place. -/
theorem typed_start : (start .demo).Typed where
  keepsClasses table member := by
    rw [Array.mem_singleton.mp member]
    exact ClassTable.keepsClasses_demo
  conforms number handle object held := by cases held

/-- A step that puts none of the three classes elsewhere keeps the handles typed. -/
theorem Typed.step {session next : Session} {step : Step} {answer : Answer}
    (typed : session.Typed) (stepped : session.step? step = some (next, answer))
    (spared : ∀ (declared : Class) (sup : String),
      step ≠ .declare (.extend declared.name sup)) : next.Typed := by
  obtain ⟨tables, handles⟩ := step?_cases stepped
  constructor
  · intro table member
    rcases tables table member with known | ⟨declaration, rfl, rfl⟩
    · exact typed.keepsClasses table known
    · apply (typed.keepsClasses session.table (Array.getElem_mem session.current_lt)).declare
      intro declared sup same
      exact spared declared sup (congrArg Step.declare same)
  · intro number handle object held refers
    rcases handles with
      ⟨-, same⟩ | ⟨source, makes, pushed⟩ | ⟨assigned, given, before, -, found, checked, -, set⟩
    · rw [same] at held
      exact typed.conforms number handle object held refers
    · rw [pushed, Array.getElem?_push] at held
      split at held
      · cases held
        cases makes with
        | new => cases refers
        | copy copied => exact typed.conforms _ _ object copied refers
      · exact typed.conforms number handle object held refers
    · rw [set, Array.getElem?_setIfInBounds] at held
      split at held
      · split at held
        · cases held
          cases refers
          intro table keeps
          rw [keeps.conforms_eq
            (typed.keepsClasses session.table (Array.getElem_mem session.current_lt))]
          exact checked
        · cases held
      · exact typed.conforms number handle object held refers

/-- No object gets out of place as long as the three classes stay where they are. -/
theorem Typed.runs {history : List (Step × Answer)} {session : Session}
    (ran : Runs (start .demo) history session)
    (spared : ∀ (declared : Class) (sup : String) (answer : Answer),
      (.declare (.extend declared.name sup), answer) ∉ history) : session.Typed := by
  apply ran.induction typed_start
  intro before after step answer member stepped typed
  apply typed.step stepped
  rintro declared sup rfl
  exact spared declared sup answer member

/-- **Handles follow their assignments.** At every moment of a run, an assignment fails just
if the object's class does not conform to the declared one in the current table, and then
nothing changes. From any moment on a handle keeps its name and declared class and holds the
object it was last assigned, or what it held; so it does since it was made, new or as a copy,
and no step but an assignment to it changes it. If the run began with the three classes and
puts none of them elsewhere, every object held conforms to the declared class of its handle
in all tables. -/
theorem handles_follow_assignments {table : ClassTable} {history : List (Step × Answer)}
    {session : Session} (ran : Runs (start table) history session) :
    (∀ (number : Nat) (handle : Handle) (object : Object),
      session.handles[number]? = some handle → ∃ next result shown,
        session.step? (.assign number object) = some (next, .assigned result shown) ∧
          ((∃ error, result = .error error) ↔
            ¬session.table.conforms object.runtime.name handle.declared.name) ∧
          ∀ error, result = .error error →
            error = .notConforming handle.name handle.declared.name object.runtime.name ∧
              next = session) ∧
      (∀ later last, Runs session later last →
        ∀ (number : Nat) (handle : Handle), session.handles[number]? = some handle →
          last.handles[number]? =
            some { handle with
              referent := (lastAssigned? number later).or handle.referent }) ∧
      (∀ (number : Nat) (handle : Handle), session.handles[number]? = some handle →
        ∃ earlier step answer later before after source,
          history = earlier ++ (step, answer) :: later ∧ Runs (start table) earlier before ∧
            before.step? step = some (after, answer) ∧ Runs after later session ∧
            number = before.handles.size ∧ Makes before step source ∧
            handle = { source with
              referent := (lastAssigned? number later).or source.referent }) ∧
      (∀ step next answer, session.step? step = some (next, answer) →
        ∀ (number : Nat) (handle : Handle), session.handles[number]? = some handle →
          (∀ object, step ≠ .assign number object) → next.handles[number]? = some handle) ∧
      (table = .demo →
        (∀ (declared : Class) (sup : String) (answer : Answer),
          (.declare (.extend declared.name sup), answer) ∉ history) →
        ∀ known ∈ session.tables, ∀ handle ∈ session.handles, ∀ object,
          handle.referent = some object →
            known.conforms object.runtime.name handle.declared.name) := by
  refine ⟨?_, ?_, ?_, ?_, ?_⟩
  · intro number handle object held
    by_cases conforms : session.table.conforms object.runtime.name handle.declared.name
    · refine ⟨_, _, _, step?_assign_of_conforms held conforms, ?_, ?_⟩
      · simp [conforms]
      · intro error failed
        cases failed
    · refine ⟨_, _, _, step?_assign_of_not_conforms held conforms, ?_, ?_⟩
      · simp [conforms]
      · intro error failed
        cases failed
        exact ⟨rfl, rfl⟩
  · intro later last further number handle held
    exact further.getElem?_handles held
  · intro number handle held
    exact ran.exists_origin rfl held
  · intro step next answer stepped number handle held other
    rw [getElem?_handles_step? stepped held, assignedTo?_eq_none other]
    rfl
  · rintro rfl spared known member handle among object refers
    have typed := Typed.runs ran spared
    obtain ⟨number, held⟩ := Array.getElem?_of_mem among
    exact typed.conforms number handle object held refers known (typed.keepsClasses known member)

/-- A handle declared with the second class refuses an object of the first, takes one of the
third, and is copied; the copy is assigned in a second table that has a fourth class. -/
def copiedHistory : List (Step × Answer) :=
  [(.newHandle "h" .b, .handle ⟨"h", .b, none⟩),
    (.assign 0 ⟨.a⟩, .assigned (.error (.notConforming "h" "B" "A")) ⟨"h", .b, none⟩),
    (.assign 0 ⟨.c⟩, .assigned (.ok ()) ⟨"h", .b, some ⟨.c⟩⟩),
    (.copyTable, .number 1),
    (.useTable 1, .number 1),
    (.declare (.extend "D" "C"),
      .reply ((ClassTable.demo.extend "D" "C").answer (.ancestry "D"))),
    (.copyHandle 0, .handle ⟨"h", .b, some ⟨.c⟩⟩),
    (.assign 1 ⟨.b⟩, .assigned (.ok ()) ⟨"h", .b, some ⟨.b⟩⟩)]

/-- A handle that was copied between two assignments. -/
theorem handles_follow_assignments_copied :
    ∃ session, Runs (start .demo) copiedHistory session ∧
      session.handles.toList.map Handle.referent = [some ⟨.c⟩, some ⟨.b⟩] ∧
      ∀ known ∈ session.tables, ∀ handle ∈ session.handles, ∀ object,
        handle.referent = some object →
          known.conforms object.runtime.name handle.declared.name := by
  have below : ClassTable.demo.conforms "C" "B" := by cbv
  have above : ¬ClassTable.demo.conforms "A" "B" := Bool.eq_false_iff.mp (by cbv)
  let empty : Handle := ⟨"h", .b, none⟩
  let filled : Handle := ⟨"h", .b, some ⟨.c⟩⟩
  let wider := ClassTable.demo.extend "D" "C"
  let last : Session := ⟨#[.demo, wider], 1, #[filled, ⟨"h", .b, some ⟨.b⟩⟩], by decide⟩
  have ran : Runs (start .demo) copiedHistory last := by
    refine runs_cons_iff.mpr ⟨⟨#[.demo], 0, #[empty], by decide⟩, rfl, ?_⟩
    refine runs_cons_iff.mpr
      ⟨_, @step?_assign_of_not_conforms _ 0 empty rfl ⟨.a⟩ above, ?_⟩
    refine runs_cons_iff.mpr ⟨⟨#[.demo], 0, #[filled], by decide⟩,
      @step?_assign_of_conforms _ 0 empty rfl ⟨.c⟩ below, ?_⟩
    refine runs_cons_iff.mpr ⟨⟨#[.demo, .demo], 0, #[filled], by decide⟩, rfl, ?_⟩
    refine runs_cons_iff.mpr ⟨⟨#[.demo, .demo], 1, #[filled], by decide⟩, rfl, ?_⟩
    refine runs_cons_iff.mpr ⟨⟨#[.demo, wider], 1, #[filled], by decide⟩, rfl, ?_⟩
    refine runs_cons_iff.mpr ⟨⟨#[.demo, wider], 1, #[filled, filled], by decide⟩, rfl, ?_⟩
    refine runs_cons_iff.mpr
      ⟨last, @step?_assign_of_conforms _ 1 filled rfl ⟨.b⟩ (wider.conforms_refl "B"), ?_⟩
    exact runs_nil_iff.mpr rfl
  obtain ⟨-, -, -, -, typed⟩ := handles_follow_assignments ran
  refine ⟨last, ran, rfl, typed rfl ?_⟩
  intro declared sup answer member
  cases declared <;> simp [copiedHistory, Class.name] at member

end Session

end Tandem.Dispatch
