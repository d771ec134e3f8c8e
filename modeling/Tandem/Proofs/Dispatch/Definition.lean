import Mathlib.Data.List.Induction
import Tandem.Dispatch.ClassTable

/-! # The own methods of a class

Only a definition by the class itself changes its own methods, and then it adds one
behind the others or none (`Tandem.Dispatch.ClassTable.ownMethods_declare`). So after
any declarations the own methods of a class stand in the order of their first
definitions (`Tandem.Dispatch.ClassTable.ownMethods_declareAll`).
-/

namespace Tandem.Dispatch

/-- Names with one more behind them, unless it is among them. -/
def appendNew (names : List String) (name : String) : List String :=
  if name ∈ names then names else names ++ [name]

/-- A name is inserted at the end unless it is known. -/
theorem MethodList.names_insert (methods : MethodList) (name : String) :
    (methods.insert name).names = appendNew methods.names name := by
  by_cases known : name ∈ methods.names
  · rw [insert, dif_pos known, appendNew, if_pos known]
  · rw [insert, dif_neg known, appendNew, if_neg known]

/-- The last of some names is a repetition or new. -/
theorem eraseDups_concat (earlier : List String) (last : String) :
    (earlier ++ [last]).eraseDups = appendNew earlier.eraseDups last := by
  rw [List.eraseDups_append]
  by_cases again : last ∈ earlier
  · simp [appendNew, List.removeAll, again]
  · simp [appendNew, List.removeAll, again, List.eraseDups_cons]

namespace ClassTable

/-- The method that a declaration lets a class define, if there is one. -/
def Declaration.definedBy? (name : String) : Declaration → Option String
  | .extend _ _ => none
  | .define owner method => if owner = name then some method else none

/-- The methods that declarations let a class define, in the order of their first
definitions. -/
def firstDefinitions (declarations : List Declaration) (name : String) : List String :=
  (declarations.filterMap (Declaration.definedBy? name)).eraseDups

/-- A last declaration adds the method that it defines, if that is new. -/
theorem firstDefinitions_concat (earlier : List Declaration) (last : Declaration)
    (name : String) :
    firstDefinitions (earlier ++ [last]) name =
      (last.definedBy? name).elim (firstDefinitions earlier name)
        (appendNew (firstDefinitions earlier name)) := by
  rw [firstDefinitions, List.filterMap_append]
  cases defined : last.definedBy? name with
  | none =>
      rw [List.filterMap_cons_none defined, List.filterMap_nil, List.append_nil]
      rfl
  | some method =>
      rw [List.filterMap_cons_some defined, List.filterMap_nil, eraseDups_concat]
      rfl

/-- A declaration changes the own methods of a class if it lets the class define one. -/
theorem ownMethods_declare (table : ClassTable) (declaration : Declaration) (name : String) :
    (table.declare declaration).ownMethods name =
      (declaration.definedBy? name).elim (table.ownMethods name)
        (appendNew (table.ownMethods name)) := by
  cases declaration with
  | extend sub sup =>
      rw [declare, extend]
      split
      · rfl
      · rfl
  | define owner method =>
      rw [declare, define, Declaration.definedBy?, ownMethods, Std.HashMap.getD_insert]
      by_cases same : owner = name
      · rw [if_pos (beq_iff_eq.mpr same), if_pos same, MethodList.names_insert, same]
        rfl
      · rw [if_neg fun equal => same (beq_iff_eq.mp equal), if_neg same]
        rfl

/-- No declaration takes a definition away. -/
theorem mem_ownMethods_declare {table : ClassTable} {name method : String}
    (defined : method ∈ table.ownMethods name) (declaration : Declaration) :
    method ∈ (table.declare declaration).ownMethods name := by
  rw [ownMethods_declare]
  cases declaration.definedBy? name with
  | none => exact defined
  | some other =>
      change method ∈ appendNew (table.ownMethods name) other
      unfold appendNew
      split
      · exact defined
      · exact List.mem_append_left [other] defined

/-- A definition is never lost. -/
theorem mem_ownMethods_declareAll {table : ClassTable} {name method : String}
    (defined : method ∈ table.ownMethods name) (declarations : List Declaration) :
    method ∈ (table.declareAll declarations).ownMethods name := by
  induction declarations generalizing table with
  | nil => exact defined
  | cons declaration rest ih => exact ih (mem_ownMethods_declare defined declaration)

theorem declareAll_concat (table : ClassTable) (earlier : List Declaration)
    (last : Declaration) :
    table.declareAll (earlier ++ [last]) = (table.declareAll earlier).declare last := by
  rw [declareAll, List.foldl_append, List.foldl_cons, List.foldl_nil, declareAll]

/-- The own methods of a class stand in the order of their first definitions. -/
theorem ownMethods_declareAll (declarations : List Declaration) (name : String) :
    (({} : ClassTable).declareAll declarations).ownMethods name =
      firstDefinitions declarations name := by
  -- From the back: the last declaration is the one made on the table of the others.
  induction declarations using List.reverseRecOn with
  | nil => simp [declareAll, ownMethods, firstDefinitions]
  | append_singleton earlier last ih =>
      rw [declareAll_concat, ownMethods_declare, ih, firstDefinitions_concat]

end ClassTable

end Tandem.Dispatch
