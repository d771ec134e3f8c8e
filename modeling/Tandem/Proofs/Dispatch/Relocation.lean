import Tandem.Proofs.Dispatch.Climb
import Tandem.Proofs.Dispatch.Cycle
import Tandem.Proofs.Dispatch.Determination
import Tandem.Proofs.Dispatch.MethodTable

/-! # Moving a class

Putting a class below another one changes its superclass and no other. Climbs that do not
meet the class stay what they are (`Tandem.Dispatch.ClassTable.ancestry_extend_of_not_mem`).
Climbs that meet it are the same up to there and then go on from its new superclass
(`Tandem.Dispatch.ClassTable.ancestry_extend_of_append`). A class that they have passed
conforms to the class that is moved, so it is met again only if the new superclass conforms
to that class as well: this is the one way to make a cycle
(`Tandem.Dispatch.ClassTable.Acyclic.extend_iff`).
-/

namespace Tandem.Dispatch.ClassTable

variable {table : ClassTable} {sub sup name : String}

/-- A class below the root gets the superclass it is given. -/
theorem superclass_extend_self (table : ClassTable) (sup : String) (belowRoot : sub ≠ root) :
    (table.extend sub sup).superclass sub = sup := by
  rw [extend, dif_neg belowRoot, superclass, Std.HashMap.getD_insert_self]

/-- The other classes keep their superclasses. -/
theorem superclass_extend_of_ne (table : ClassTable) (sup : String) (different : name ≠ sub) :
    (table.extend sub sup).superclass name = table.superclass name := by
  have spared : (Declaration.extend sub sup).placedBelow? name = none :=
    if_neg fun placed => different placed.1.symm
  exact table.superclass_declare_of_not_placed spared

/-- Placing a class changes no own methods. -/
theorem ownMethods_extend (table : ClassTable) (sub sup : String) :
    (table.extend sub sup).ownMethods = table.ownMethods :=
  funext fun name => table.ownMethods_declare (.extend sub sup) name

/-- A class that is not below the moved one keeps its ancestry. -/
theorem ancestry_extend_of_not_mem (apart : sub ∉ table.ancestry name) :
    (table.extend sub sup).ancestry name = table.ancestry name := by
  symm
  apply climb_congr_of_mem
  intro other member
  have different : other ≠ sub := fun same => apart (same ▸ member)
  exact (table.superclass_extend_of_ne sup different).symm

/-- A climb that meets a class below the root goes on from there, in every table with the
same superclasses up to that class. -/
theorem climb_eq_append {first second : ClassTable} {seen nearer further : List String}
    {middle : String} (belowRoot : middle ≠ root)
    (split : first.climb seen name = nearer ++ middle :: further)
    (same : ∀ other ∈ nearer, first.superclass other = second.superclass other) :
    second.climb seen name = nearer ++ second.climb (nearer.reverse ++ seen) middle := by
  induction nearer generalizing seen name with
  | nil =>
      rw [climb] at split
      split at split
      case isTrue => exact absurd (List.cons.inj split).1.symm belowRoot
      case isFalse =>
        rw [(List.cons.inj split).1]
        rfl
  | cons passed nearer ih =>
      rw [climb] at split
      split at split
      case isTrue =>
        -- A climb that stops at once meets no class before the root.
        obtain ⟨-, none⟩ := List.cons.inj split
        exact absurd none.symm (List.append_ne_nil_of_right_ne_nil nearer (List.cons_ne_nil _ _))
      case isFalse climbing =>
        obtain ⟨rfl, further⟩ := List.cons.inj split
        rw [same name List.mem_cons_self] at further
        have later := ih further fun other member => same other (List.mem_cons_of_mem name member)
        rw [climb, dif_neg climbing, later, List.reverse_cons, List.append_assoc,
          List.singleton_append, List.cons_append]

/-- A climb that meets the moved class is the same up to there, and goes on from the new
superclass. -/
theorem ancestry_extend_of_append (sup : String) (belowRoot : sub ≠ root)
    {nearer further : List String} (split : table.ancestry name = nearer ++ sub :: further) :
    (table.extend sub sup).ancestry name =
      nearer ++ sub :: (table.extend sub sup).climb (sub :: nearer.reverse) sup := by
  have fresh := not_mem_of_ancestry_eq_append split
  have same : ∀ other ∈ nearer,
      table.superclass other = (table.extend sub sup).superclass other := by
    intro other member
    have different : other ≠ sub := fun equal => fresh (equal ▸ member)
    exact (table.superclass_extend_of_ne sup different).symm
  have climbing : ¬(sub = root ∨ sub ∈ nearer.reverse ++ []) := by
    rw [List.append_nil, List.mem_reverse]
    exact not_or.mpr ⟨belowRoot, fresh⟩
  rw [ancestry, climb_eq_append belowRoot split same, climb, dif_neg climbing, List.append_nil,
    table.superclass_extend_self sup belowRoot]

/-- Above a class that does not conform to `sub` there is no class that comes before `sub` in
an ancestry. -/
theorem not_mem_ancestry_of_append {nearer further : List String}
    (split : table.ancestry name = nearer ++ sub :: further) (off : sub ∉ table.ancestry sup)
    {other : String} (member : other ∈ table.ancestry sup) : other ∉ sub :: nearer.reverse := by
  intro passed
  rcases List.mem_cons.mp passed with rfl | passed
  · exact off member
  · have ordered := table.ancestry_pairwise name
    rw [split, List.pairwise_append] at ordered
    have below := ordered.2.2 other (List.mem_reverse.mp passed) sub List.mem_cons_self
    exact off (conforms_iff_mem_ancestry.mp
      (conforms_trans (conforms_iff_mem_ancestry.mpr member) below))

/-- The ancestry of the new superclass follows the moved class, unless it holds that class. -/
theorem ancestry_extend_eq_append (belowRoot : sub ≠ root) (off : sub ∉ table.ancestry sup)
    {nearer further : List String} (split : table.ancestry name = nearer ++ sub :: further) :
    (table.extend sub sup).ancestry name = nearer ++ sub :: table.ancestry sup := by
  have kept : (table.extend sub sup).ancestry sup = table.ancestry sup :=
    ancestry_extend_of_not_mem off
  have disjoint : ∀ other ∈ (table.extend sub sup).climb [] sup,
      other ∉ sub :: nearer.reverse := by
    intro other member
    exact not_mem_ancestry_of_append split off (kept ▸ member)
  rw [ancestry_extend_of_append sup belowRoot split, ← kept, ancestry,
    ← climb_append_of_disjoint disjoint, List.nil_append]

/-- A class that its new superclass conforms to is above itself afterwards. -/
theorem mem_ancestry_extend (belowRoot : sub ≠ root) (above : sub ∈ table.ancestry sup) :
    sub ∈ (table.extend sub sup).ancestry sup := by
  obtain ⟨nearer, further, split⟩ := List.append_of_mem above
  rw [ancestry_extend_of_append sup belowRoot split]
  exact List.mem_append_right nearer List.mem_cons_self

/-- Without cycles, moving a class makes one just if its new superclass conforms to it. -/
theorem Acyclic.extend_iff (acyclic : table.Acyclic) (belowRoot : sub ≠ root) :
    (table.extend sub sup).Acyclic ↔ table.conforms sup sub = false := by
  rw [← Bool.not_eq_true, conforms_iff_mem_ancestry]
  constructor
  · intro moved above
    apply moved sub belowRoot
    rw [table.superclass_extend_self sup belowRoot]
    exact mem_ancestry_extend belowRoot above
  · intro off other otherBelow above
    by_cases same : other = sub
    · subst same
      rw [table.superclass_extend_self sup belowRoot, ancestry_extend_of_not_mem off] at above
      exact off above
    · rw [table.superclass_extend_of_ne sup same] at above
      by_cases met : sub ∈ table.ancestry (table.superclass other)
      · -- The class was not above itself before, so now it is above the new superclass. But it
        -- comes before the moved class in its own ancestry.
        obtain ⟨nearer, further, split⟩ := List.append_of_mem met
        have before := acyclic other otherBelow
        have chain : table.ancestry other = (other :: nearer) ++ sub :: further := by
          rw [ancestry_eq_cons before, split, List.cons_append]
        rw [split] at before
        rw [ancestry_extend_eq_append belowRoot off split, List.mem_append, List.mem_cons] at above
        rcases above with passed | equal | above
        · exact before (List.mem_append_left _ passed)
        · exact same equal
        · exact not_mem_ancestry_of_append chain off above (by simp)
      · rw [ancestry_extend_of_not_mem met] at above
        exact acyclic other otherBelow above

/-- **Moving a class moves the classes below it.** The root cannot be moved: the table answers
every question as before. When another class is put below a new superclass, the classes that
are not below it keep their ancestries, resolutions and slots. If the new superclass does not
conform to it, the ancestry of each class below it is the old one up to the moved class, and
then the ancestry of the new superclass. A table without cycles stays so just if the new
superclass does not conform to the moved class. -/
theorem extend_moves_subtree (table : ClassTable) (sub sup : String) :
    (sub = root → ∀ query, (table.extend sub sup).answer query = table.answer query) ∧
      (sub ≠ root →
        (∀ name, sub ∉ table.ancestry name →
          (table.extend sub sup).ancestry name = table.ancestry name ∧
            (∀ method, (table.extend sub sup).resolve name method = table.resolve name method) ∧
            (table.extend sub sup).methodTable name = table.methodTable name) ∧
        (sub ∉ table.ancestry sup → ∀ name, sub ∈ table.ancestry name →
          (table.extend sub sup).ancestry name =
            (table.ancestry name).takeWhile (fun other => other ≠ sub) ++
              sub :: table.ancestry sup) ∧
        (table.Acyclic →
          ((table.extend sub sup).Acyclic ↔ table.conforms sup sub = false))) := by
  constructor
  · intro top query
    rw [extend, dif_pos top]
  · intro belowRoot
    refine ⟨?_, ?_, fun acyclic => acyclic.extend_iff belowRoot⟩
    · intro name apart
      have kept : (table.extend sub sup).ancestry name = table.ancestry name :=
        ancestry_extend_of_not_mem apart
      have methods := table.ownMethods_extend sub sup
      refine ⟨kept, ?_, ?_⟩
      · intro method
        simp only [resolve, defines, kept, methods]
      · simp only [methodTable, kept, methods]
    · intro off name below
      obtain ⟨nearer, further, split⟩ := List.append_of_mem below
      have fresh := not_mem_of_ancestry_eq_append split
      have before : (table.ancestry name).takeWhile (fun other => other ≠ sub) = nearer := by
        rw [split, List.takeWhile_append_of_pos, List.takeWhile_cons_of_neg, List.append_nil]
        · simp
        · intro other member
          exact decide_eq_true fun same => fresh (same ▸ member)
      rw [ancestry_extend_eq_append belowRoot off split, before]

/-- Putting a class of the lasso's cycle below a class off it opens the cycle for the classes
below. A new class below the ring leaves the slots there, and the root stays. Shapes may be put
above squares, but not below them afterwards without making a cycle. -/
theorem extend_moves_subtree_opened :
    "Left" ∉ lasso.ancestry "Stray" ∧ "Left" ∈ lasso.ancestry "Tail" ∧
      (lasso.extend "Left" "Stray").ancestry "Tail" =
        ["Tail", "Left", "Stray", "Ghost", root] ∧
      "Disc" ∉ ring.ancestry "Unit" ∧
      (ring.extend "Disc" "Unit").methodTable "Unit" = ring.methodTable "Unit" ∧
      (ring.extend root "Unit").answer (.ancestry root) = ring.answer (.ancestry root) ∧
      (({} : ClassTable).extend "Square" "Shape").Acyclic ∧
      ¬((({} : ClassTable).extend "Square" "Shape").extend "Shape" "Square").Acyclic := by
  have tail : lasso.ancestry "Tail" = ["Tail", "Left", "Right", root] := by cbv
  have stray : lasso.ancestry "Stray" = ["Stray", "Ghost", root] := by cbv
  have unit : ring.ancestry "Unit" = ["Unit", "Square", "Shape", root] := by cbv
  have off : "Left" ∉ lasso.ancestry "Stray" := by simp [stray, root]
  have below : "Left" ∈ lasso.ancestry "Tail" := by simp [tail]
  have apart : "Disc" ∉ ring.ancestry "Unit" := by simp [unit, root]
  obtain ⟨-, spliced, -⟩ := (extend_moves_subtree lasso "Left" "Stray").2 (by decide)
  obtain ⟨kept, -, -⟩ := (extend_moves_subtree ring "Disc" "Unit").2 (by decide)
  have fixed := (extend_moves_subtree ring root "Unit").1 rfl
  obtain ⟨-, -, placed⟩ := (extend_moves_subtree {} "Square" "Shape").2 (by decide)
  obtain ⟨-, -, closed⟩ :=
    (extend_moves_subtree (({} : ClassTable).extend "Square" "Shape") "Shape" "Square").2 (by decide)
  have empty : ({} : ClassTable).Acyclic :=
    Acyclic.of_forall_mem fun _ known => absurd known Std.HashMap.not_mem_empty
  have acyclic : (({} : ClassTable).extend "Square" "Shape").Acyclic :=
    (placed empty).mpr (by cbv)
  have conforms : (({} : ClassTable).extend "Square" "Shape").conforms "Square" "Shape" := by cbv
  refine ⟨off, below, ?_, apart, (kept "Unit" apart).2.2, fixed _, acyclic, ?_⟩
  · rw [spliced off "Tail" below, tail, stray]
    rfl
  · rw [closed acyclic, conforms]
    exact Bool.noConfusion

end Tandem.Dispatch.ClassTable
