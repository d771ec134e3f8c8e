import Tandem.Dispatch.Session

/-! # What handles hold

A step of a session leaves the handles as they are, adds one behind them, or lets one of
them hold another object (`Tandem.Dispatch.Session.step?_cases`). So from any moment
of a run on, a handle keeps its name and its declared class and holds the object that it
was last assigned, or what it held at that moment
(`Tandem.Dispatch.Session.Runs.getElem?_handles`). Every handle goes back to the step
that made it (`Tandem.Dispatch.Session.Runs.exists_origin`).
-/

namespace Tandem.Dispatch.Session

/-- The object that a step made a handle hold, if the step's answer says that it did. -/
def assignedTo? (number : Nat) : Step × Answer → Option Object
  | (.assign assigned object, .assigned (.ok ()) _) =>
    if assigned = number then some object else none
  | _ => none

/-- Steps other than assignments to a handle assign nothing to it. -/
theorem assignedTo?_eq_none {number : Nat} {step : Step} {answer : Answer}
    (other : ∀ object, step ≠ .assign number object) :
    assignedTo? number (step, answer) = none := by
  unfold assignedTo?
  split
  case h_1 assigned object shown same =>
    cases same
    apply if_neg
    rintro rfl
    exact other object rfl
  case h_2 => rfl

/-- The object that a handle was last assigned. -/
def lastAssigned? (number : Nat) (history : List (Step × Answer)) : Option Object :=
  (history.filterMap (assignedTo? number)).getLast?

/-- A later assignment counts before an earlier one. -/
theorem lastAssigned?_cons (number : Nat) (entry : Step × Answer)
    (later : List (Step × Answer)) :
    lastAssigned? number (entry :: later) =
      (lastAssigned? number later).or (assignedTo? number entry) := by
  unfold lastAssigned?
  cases assigned : assignedTo? number entry with
  | none => rw [List.filterMap_cons_none assigned, Option.or_none]
  | some object =>
      rw [List.filterMap_cons_some assigned, List.getLast?_cons]
      cases (later.filterMap (assignedTo? number)).getLast? with
      | none => rfl
      | some _ => rfl

/-- The handle that a step adds to a session. -/
inductive Makes (session : Session) : Step → Handle → Prop where
  | new (name : String) (declared : Class) :
      Makes session (.newHandle name declared) { name, declared }
  | copy {number : Nat} {source : Handle} (held : session.handles[number]? = some source) :
      Makes session (.copyHandle number) source

/-- An object that conforms is assigned to its handle. -/
theorem step?_assign_of_conforms {session : Session} {number : Nat} {handle : Handle}
    (held : session.handles[number]? = some handle) {object : Object}
    (conforms : session.table.conforms object.runtime.name handle.declared.name) :
    session.step? (.assign number object) =
      some ({ session with
          handles :=
            session.handles.setIfInBounds number { handle with referent := some object } },
        .assigned (.ok ()) { handle with referent := some object }) := by
  unfold step?
  simp only [held, Option.bind_eq_bind, Option.bind_some, Handle.assign, conforms, ↓reduceIte]
  rfl

/-- An object that does not conform is refused, and the session stays as it is. -/
theorem step?_assign_of_not_conforms {session : Session} {number : Nat} {handle : Handle}
    (held : session.handles[number]? = some handle) {object : Object}
    (unrelated : ¬session.table.conforms object.runtime.name handle.declared.name) :
    session.step? (.assign number object) =
      some (session, .assigned
        (.error (.notConforming handle.name handle.declared.name object.runtime.name)) handle) := by
  unfold step?
  simp only [held, Option.bind_eq_bind, Option.bind_some, Handle.assign, unrelated,
    Bool.false_eq_true, ↓reduceIte]
  rfl

section Step

variable {session next : Session} {step : Step} {answer : Answer}
  (stepped : session.step? step = some (next, answer))

include stepped

/-- Whatever a step does to the tables, it adds none that is not a copy of one of them or
the current one with a declaration made in it. And it leaves the handles as they are, adds
one, or assigns an object to one. -/
theorem step?_cases :
    (∀ table ∈ next.tables, table ∈ session.tables ∨
        ∃ declaration, step = .declare declaration ∧
          table = session.table.declare declaration) ∧
      (((∀ number, assignedTo? number (step, answer) = none) ∧
          next.handles = session.handles) ∨
        (∃ source, Makes session step source ∧ next.handles = session.handles.push source) ∨
        ∃ number object handle, step = .assign number object ∧
          session.handles[number]? = some handle ∧
          session.table.conforms object.runtime.name handle.declared.name ∧
          answer = .assigned (.ok ()) { handle with referent := some object } ∧
          next.handles =
            session.handles.setIfInBounds number { handle with referent := some object }) := by
  cases step with
  | ask _ | describe _ | callClass _ _ _ | listHandles =>
      cases stepped
      exact ⟨fun _ => .inl, .inl ⟨fun _ => rfl, rfl⟩⟩
  | declare declaration =>
      cases stepped
      refine ⟨fun table member => ?_, .inl ⟨fun _ => rfl, rfl⟩⟩
      apply (Array.mem_or_eq_of_mem_set (w := session.current_lt) member).imp_right
      intro changed
      exact ⟨declaration, rfl, changed⟩
  | copyTable =>
      cases stepped
      refine ⟨fun table member => .inl ?_, .inl ⟨fun _ => rfl, rfl⟩⟩
      rcases Array.mem_push.mp member with known | rfl
      · exact known
      · exact Array.getElem_mem session.current_lt
  | useTable number =>
      unfold step? at stepped
      by_cases valid : number < session.tables.size
      · simp only [valid, ↓reduceDIte] at stepped
        cases stepped
        exact ⟨fun _ => .inl, .inl ⟨fun _ => rfl, rfl⟩⟩
      · simp only [valid, ↓reduceDIte] at stepped
        cases stepped
  | newHandle name declared =>
      cases stepped
      exact ⟨fun _ => .inl, .inr (.inl ⟨_, .new name declared, rfl⟩)⟩
  | copyHandle number =>
      obtain ⟨source, held, made⟩ := Option.bind_eq_some_iff.mp stepped
      cases made
      exact ⟨fun _ => .inl, .inr (.inl ⟨source, .copy held, rfl⟩)⟩
  | assign number object =>
      obtain ⟨handle, held, -⟩ := Option.bind_eq_some_iff.mp stepped
      by_cases conforms : session.table.conforms object.runtime.name handle.declared.name
      · rw [step?_assign_of_conforms held conforms] at stepped
        cases stepped
        exact ⟨fun _ => .inl, .inr (.inr ⟨number, object, handle, rfl, held, conforms, rfl, rfl⟩)⟩
      · rw [step?_assign_of_not_conforms held conforms] at stepped
        cases stepped
        exact ⟨fun _ => .inl, .inl ⟨fun _ => rfl, rfl⟩⟩
  | call number argument sink =>
      obtain ⟨handle, held, called⟩ := Option.bind_eq_some_iff.mp stepped
      cases called
      exact ⟨fun _ => .inl, .inl ⟨fun _ => rfl, rfl⟩⟩

/-- A step changes at most what a handle holds, and that by an assignment to it. -/
theorem getElem?_handles_step? {number : Nat} {handle : Handle}
    (held : session.handles[number]? = some handle) :
    next.handles[number]? =
      some { handle with
        referent := (assignedTo? number (step, answer)).or handle.referent } := by
  rcases (step?_cases stepped).2 with
    ⟨unassigned, same⟩ | ⟨source, makes, pushed⟩ |
      ⟨assigned, object, before, rfl, found, -, rfl, set⟩
  · rw [same, unassigned, held]
    rfl
  · have within := (Array.getElem?_eq_some_iff.mp held).1
    have unassigned : assignedTo? number (step, answer) = none := by
      apply assignedTo?_eq_none
      rintro object rfl
      cases makes
    rw [pushed, unassigned, Array.getElem?_push, if_neg (Nat.ne_of_lt within), held]
    rfl
  · rw [set, Array.getElem?_setIfInBounds, assignedTo?]
    by_cases same : assigned = number
    · subst same
      have within := (Array.getElem?_eq_some_iff.mp held).1
      cases found.symm.trans held
      rw [if_pos rfl, if_pos within, if_pos rfl]
      rfl
    · rw [if_neg same, if_neg same, held]
      rfl

/-- A handle that was not there before a step was made by it, as the last one. -/
theorem makes_of_step? {number : Nat} {handle : Handle}
    (missing : session.handles[number]? = none) (held : next.handles[number]? = some handle) :
    number = session.handles.size ∧ Makes session step handle := by
  have beyond := Array.getElem?_eq_none_iff.mp missing
  rcases (step?_cases stepped).2 with
    ⟨-, same⟩ | ⟨source, makes, pushed⟩ | ⟨assigned, object, before, -, -, -, -, set⟩
  · rw [same, missing] at held
    cases held
  · rw [pushed, Array.getElem?_push] at held
    by_cases last : number = session.handles.size
    · rw [if_pos last] at held
      cases held
      exact ⟨last, makes⟩
    · rw [if_neg last, missing] at held
      cases held
  · have within := (Array.getElem?_eq_some_iff.mp held).1
    rw [set, Array.size_setIfInBounds] at within
    exact absurd within (Nat.not_lt.mpr beyond)

end Step

/-- The steps of a history lead from one session to another and give the answers of the
history. -/
def Runs (first : Session) (history : List (Step × Answer)) (last : Session) : Prop :=
  first.run? (history.map Prod.fst) = some (last, history.map Prod.snd)

theorem runs_nil_iff {first last : Session} : Runs first [] last ↔ first = last := by
  unfold Runs
  rw [List.map_nil, List.map_nil, run?, Option.some_inj, Prod.mk.injEq]
  exact and_iff_left rfl

/-- A run makes its first step and then runs on. -/
theorem runs_cons_iff {first last : Session} {step : Step} {answer : Answer}
    {later : List (Step × Answer)} :
    Runs first ((step, answer) :: later) last ↔
      ∃ next, first.step? step = some (next, answer) ∧ Runs next later last := by
  unfold Runs
  rw [List.map_cons, List.map_cons, run?]
  constructor
  · intro ran
    obtain ⟨⟨next, given⟩, stepped, rest⟩ := Option.bind_eq_some_iff.mp ran
    obtain ⟨⟨reached, answers⟩, further, same⟩ := Option.bind_eq_some_iff.mp rest
    cases same
    exact ⟨next, stepped, further⟩
  · rintro ⟨next, stepped, further⟩
    rw [stepped]
    change (next.run? (later.map Prod.fst)).bind _ = _
    rw [further]
    rfl

namespace Runs

/-- What one step keeps, a run keeps. -/
theorem induction {motive : Session → Prop} {first last : Session}
    {history : List (Step × Answer)} (ran : Runs first history last) (initial : motive first)
    (preserved : ∀ {session next : Session} {step : Step} {answer : Answer},
      (step, answer) ∈ history → session.step? step = some (next, answer) →
        motive session → motive next) :
    motive last := by
  induction history generalizing first with
  | nil => exact runs_nil_iff.mp ran ▸ initial
  | cons entry later ih =>
      obtain ⟨next, stepped, further⟩ := runs_cons_iff.mp ran
      apply ih further (preserved List.mem_cons_self stepped initial)
      intro session next step answer member
      exact preserved (List.mem_cons_of_mem entry member)

/-- From any moment on, a handle stays as it is, except that it holds the object that it
was last assigned. -/
theorem getElem?_handles {first last : Session} {history : List (Step × Answer)}
    (ran : Runs first history last) {number : Nat} {handle : Handle}
    (held : first.handles[number]? = some handle) :
    last.handles[number]? =
      some { handle with referent := (lastAssigned? number history).or handle.referent } := by
  induction history generalizing first handle with
  | nil =>
      rw [← runs_nil_iff.mp ran, held]
      rfl
  | cons entry later ih =>
      obtain ⟨next, stepped, further⟩ := runs_cons_iff.mp ran
      rw [ih further (getElem?_handles_step? stepped held), lastAssigned?_cons, Option.or_assoc]

/-- A handle that was made in a run goes back to the step that made it, and holds what it
was last assigned since, or else what it was made with. -/
theorem exists_origin {first last : Session} {history : List (Step × Answer)}
    (ran : Runs first history last) {number : Nat} {handle : Handle}
    (missing : first.handles[number]? = none) (held : last.handles[number]? = some handle) :
    ∃ earlier step answer later before after source,
      history = earlier ++ (step, answer) :: later ∧ Runs first earlier before ∧
        before.step? step = some (after, answer) ∧ Runs after later last ∧
        number = before.handles.size ∧ Makes before step source ∧
        handle = { source with
          referent := (lastAssigned? number later).or source.referent } := by
  induction history generalizing first with
  | nil =>
      rw [← runs_nil_iff.mp ran, missing] at held
      cases held
  | cons entry later ih =>
      obtain ⟨step, answer⟩ := entry
      obtain ⟨next, stepped, further⟩ := runs_cons_iff.mp ran
      cases found : next.handles[number]? with
      | none =>
          -- Not made yet: the origin lies in the rest of the run.
          obtain ⟨earlier, step', answer', later', before, after, source, split, led, made⟩ :=
            ih further found
          refine ⟨(step, answer) :: earlier, step', answer', later', before, after, source, ?_,
            runs_cons_iff.mpr ⟨next, stepped, led⟩, made⟩
          rw [split, List.cons_append]
      | some source =>
          obtain ⟨last, makes⟩ := makes_of_step? stepped missing found
          have kept := further.getElem?_handles found
          exact ⟨[], step, answer, later, first, next, source, rfl, runs_nil_iff.mpr rfl, stepped,
            further, last, makes, Option.some_inj.mp (held.symm.trans kept)⟩

end Runs

end Tandem.Dispatch.Session
