import FlowCompiler.Proofs.Agreement
import FlowCompiler.Proofs.Resolution

/-!
# Forms of references

A reference is an alias with a remainder behind a dot, or an alias alone, whose remainder is empty
(`HasForm`); it has just one of these forms, in one way (`hasForm_iff`). So an alias alone stands
for the same as the alias with a dot behind it, and no other two references of one alias stand for
the same (`resolved_eq_iff`). The same goes for the calls of a flow: of the references of one alias
only these two are merged into one callee (`references_of_one_alias`).
-/

namespace FlowCompiler

open Extractor

namespace Reference

/-- The reference is the alias with the remainder behind a dot, or the alias alone. -/
structure HasForm (reference key remainder : String) : Prop where
  dotless : '.' ∉ key.toList
  parts : reference = key ++ "." ++ remainder ∨ reference = key ∧ remainder = ""

/-- The references are the same, or one is an alias alone and the other has a dot behind that. -/
def Coincide (left right : String) : Prop :=
  left = right
    ∨ '.' ∉ left.toList ∧ right = left ++ "."
    ∨ '.' ∉ right.toList ∧ left = right ++ "."

/-! ## The form of a reference -/

section Forms

variable {reference key remainder : String}

/-- What stands before the first dot and behind it is found again. -/
theorem parts_of_dot (remainder : String) (h : '.' ∉ key.toList) :
    aliasOf (key ++ "." ++ remainder) = key
      ∧ remainderOf (key ++ "." ++ remainder) = remainder := by
  have hall := ne_dot_of_dotless h
  have hchars : (key ++ "." ++ remainder).toList = key.toList ++ '.' :: remainder.toList := by
    simp [String.toList_append]
  constructor
  · rw [aliasOf, hchars, List.takeWhile_append_of_pos hall]
    simp
  · rw [remainderOf, hchars, List.dropWhile_append_of_pos hall]
    simp

theorem exists_hasForm (reference : String) : ∃ key remainder, HasForm reference key remainder := by
  by_cases hdot : '.' ∈ reference.toList
  · obtain ⟨left, right, hchars, hleft⟩ := List.eq_append_cons_of_mem hdot
    have hreference : reference = String.ofList left ++ "." ++ String.ofList right :=
      String.ext (by simp [hchars, String.toList_append])
    exact ⟨String.ofList left, String.ofList right, by rwa [String.toList_ofList], .inl hreference⟩
  · exact ⟨reference, "", hdot, .inr ⟨rfl, rfl⟩⟩

theorem HasForm.key_eq (h : HasForm reference key remainder) :
    key = aliasOf reference ∧ remainder = remainderOf reference := by
  obtain ⟨hdotless, rfl | ⟨rfl, rfl⟩⟩ := h
  · obtain ⟨hkey, hremainder⟩ := parts_of_dot remainder hdotless
    exact ⟨hkey.symm, hremainder.symm⟩
  · obtain ⟨hkey, hremainder⟩ := parts_of_dotless hdotless
    exact ⟨hkey.symm, hremainder.symm⟩

/-- A reference has one form, with its own alias and remainder. -/
theorem hasForm_iff :
    HasForm reference key remainder
      ↔ key = aliasOf reference ∧ remainder = remainderOf reference := by
  apply Iff.intro
  · exact HasForm.key_eq
  · intro h
    obtain ⟨rfl, rfl⟩ := h
    obtain ⟨other, rest, hform⟩ := exists_hasForm reference
    obtain ⟨rfl, rfl⟩ := hform.key_eq
    exact hform

/-- Behind the dot that follows an alias alone there is nothing, as behind the alias. -/
theorem remainderOf_append_dot (h : '.' ∉ key.toList) :
    remainderOf (key ++ ".") = remainderOf key := by
  have hdot := (parts_of_dot "" h).2
  rw [String.append_empty] at hdot
  rw [hdot, (parts_of_dotless h).2]

/-- References of one alias have the same remainder only if they differ by no more than a dot. -/
theorem remainderOf_eq_iff {left right : String} (h : aliasOf left = aliasOf right) :
    remainderOf left = remainderOf right ↔ Coincide left right := by
  apply Iff.intro
  · intro hremainder
    have hleft : HasForm left (aliasOf left) (remainderOf left) := hasForm_iff.mpr ⟨rfl, rfl⟩
    have hright : HasForm right (aliasOf left) (remainderOf left) :=
      hasForm_iff.mpr ⟨h, hremainder⟩
    generalize aliasOf left = key at hleft hright
    generalize remainderOf left = remainder at hleft hright
    obtain ⟨hdotless, rfl | ⟨rfl, rfl⟩⟩ := hleft
    · rcases hright.parts with rfl | ⟨rfl, rfl⟩
      · exact .inl rfl
      · exact .inr (.inr ⟨hdotless, by rw [String.append_empty]⟩)
    · rcases hright.parts with rfl | ⟨rfl, -⟩
      · exact .inr (.inl ⟨hdotless, by rw [String.append_empty]⟩)
      · exact .inl rfl
  · intro hcoincide
    rcases hcoincide with rfl | ⟨hdotless, rfl⟩ | ⟨hdotless, rfl⟩
    · rfl
    · exact (remainderOf_append_dot hdotless).symm
    · exact remainderOf_append_dot hdotless

end Forms

/-! ## What references of one alias stand for -/

section Resolution

variable {imports : Option Imports}

theorem resolve_eq_ok_iff_hasForm {reference resolved : String} :
    resolve imports reference = .ok resolved
      ↔ ∃ key remainder table space, HasForm reference key remainder ∧ imports = some table
          ∧ table.get? key = some space ∧ resolved = space ++ "." ++ remainder := by
  simp only [resolve_eq_ok_iff, hasForm_iff]
  apply Iff.intro
  · intro h
    obtain ⟨table, space, htable⟩ := h
    exact ⟨_, _, table, space, ⟨rfl, rfl⟩, htable⟩
  · intro h
    obtain ⟨_, _, table, space, ⟨rfl, rfl⟩, htable⟩ := h
    exact ⟨table, space, htable⟩

theorem resolved_eq_iff {left right first second : String}
    (hleft : resolve imports left = .ok first) (hright : resolve imports right = .ok second)
    (h : aliasOf left = aliasOf right) : first = second ↔ Coincide left right := by
  obtain ⟨table, space, rfl, hspace, rfl⟩ := resolve_eq_ok_iff.mp hleft
  obtain ⟨_, other, htable, hother, rfl⟩ := resolve_eq_ok_iff.mp hright
  obtain rfl := Option.some.inj htable
  -- Both have the namespace of the one alias.
  have hsame : other = space := by
    rw [← h, hspace] at hother
    exact (Option.some.inj hother).symm
  rw [hsame, String.append_right_inj, remainderOf_eq_iff h]

end Resolution

end Reference

/-! ## The callees of a flow -/

open Reference

/-- The reference by which the task of an entry calls, if it calls one executable. -/
def callee? (entry : String × Json) : Option String :=
  match (taskBody entry.2).get? Keyword.callee with
  | some (.map [(reference, _)]) => some reference
  | _ => none

/-- The task calls what the reference of the entry stands for. -/
def Refers (imports : Option Imports) (entry : String × Json) (task : Task) : Prop :=
  ∃ reference, callee? entry = some reference ∧ resolve imports reference = .ok task.refId

theorem IsTaskOf.refers {scope : Scope} {entry : String × Json} {task : Task}
    (h : IsTaskOf scope entry task) : Refers scope.imports entry task := by
  obtain ⟨_, _, htask⟩ := h
  obtain ⟨-, -, _, -, _, -, _, -, reference, hreference, refId, hrefId, rfl⟩ :=
    assembleTask_eq_ok_iff.mp htask
  obtain ⟨bindings, hcall⟩ := calleeReference_eq_ok_iff.mp hreference
  refine ⟨reference, ?_, mapError_eq_ok_iff.mp hrefId⟩
  rw [callee?, hcall]

/-- Two tasks that call by references of one alias call the same only if these coincide. -/
theorem Refers.refId_eq_iff {imports : Option Imports} {entry other : String × Json}
    {task another : Task} {left right : String} (h : Refers imports entry task)
    (hother : Refers imports other another) (hleft : callee? entry = some left)
    (hright : callee? other = some right) (halias : aliasOf left = aliasOf right) :
    task.refId = another.refId ↔ Coincide left right := by
  obtain ⟨reference, hreference, hresolved⟩ := h
  obtain rfl := Option.some.inj (hleft.symm.trans hreference)
  obtain ⟨reference, hreference, hother⟩ := hother
  obtain rfl := Option.some.inj (hright.symm.trans hreference)
  exact resolved_eq_iff hresolved hother halias

/-- A reference that is resolved is an alias with a remainder behind a dot, or an alias alone, with
an empty remainder, and stands for the namespace of the alias with the remainder behind a dot. Two
references of one alias stand for the same only if they coincide. So it is with the callees of a
flow, each of which is a dependency of the flow. -/
theorem references_of_one_alias :
    (∀ imports reference resolved, resolve imports reference = .ok resolved
        ↔ ∃ key remainder table space, HasForm reference key remainder ∧ imports = some table
            ∧ table.get? key = some space ∧ resolved = space ++ "." ++ remainder)
      ∧ (∀ imports left right first second, resolve imports left = .ok first →
          resolve imports right = .ok second → aliasOf left = aliasOf right →
          (first = second ↔ Coincide left right))
      ∧ ∀ (compiler : Compiler) (unit : SourceUnit) (name : String) (document : Document)
          (executable : Executable), unit.kind = .flow →
          compiler.assemble unit name document = .ok executable →
          ∃ workflow, executable.body = .flow workflow
            ∧ List.Forall₂ (Refers unit.imports) (taskEntries document) workflow.tasks
            ∧ (∀ call ∈ (taskEntries document).zip workflow.tasks,
                ∀ other ∈ (taskEntries document).zip workflow.tasks, ∀ left right,
                callee? call.1 = some left → callee? other.1 = some right →
                aliasOf left = aliasOf right →
                (call.2.refId = other.2.refId ↔ Coincide left right))
            ∧ ∀ id kind, (id, kind) ∈ executable.dependencies.entries
                ↔ kind = .executable ∧ id ∈ workflow.tasks.map Task.refId := by
  refine ⟨fun _ _ _ => resolve_eq_ok_iff_hasForm, fun _ _ _ _ _ => resolved_eq_iff,
    fun compiler unit name document executable hflow h => ?_⟩
  obtain ⟨workflow, hbody, hdependencies, -⟩ := Compiler.exists_workflow_of_assemble hflow h
  have hrefers : List.Forall₂ (Refers unit.imports) (taskEntries document) workflow.tasks :=
    (Compiler.isTaskOf_of_assemble hflow h hbody).imp fun _ _ => IsTaskOf.refers
  refine ⟨workflow, hbody, hrefers, fun call hcall other hother left right => ?_, fun id kind => ?_⟩
  · exact Refers.refId_eq_iff ((List.forall₂_iff_zip.mp hrefers).2 hcall)
      ((List.forall₂_iff_zip.mp hrefers).2 hother)
  · rw [hdependencies]
    exact Workflow.mem_dependencies_iff

/-- A flow whose tasks call by three references of one alias. -/
def bareFlow : Document :=
  [(Keyword.workflow, .map
    [("whole", .map [(Keyword.callee, .map [("ops", .null)])]),
     ("dotted", .map [(Keyword.callee, .map [("ops.", .null)])]),
     (Keyword.onFailure, .map
      [("named", .map [(Keyword.callee, .map [("ops.undo.all", .null)])])])])]

/-- The unit of `bareFlow`. -/
def bareUnit : SourceUnit where
  name := "demo.bare"
  kind := .flow
  space := "demo"
  imports := some (.ofList [("ops", "org.ops")])

theorem exists_assemble_bareFlow :
    ∃ executable, (Compiler.mk .standard {}).assemble bareUnit "bare" bareFlow = .ok executable
      ∧ executable.workflow?.map (fun workflow => workflow.tasks.map Task.refId)
        = some ["org.ops.", "org.ops.", "org.ops.undo.all"]
      ∧ executable.dependencies.keys = ["org.ops.", "org.ops.undo.all"] := by
  obtain ⟨executable, hexecutable, hview⟩ := exists_ok_of_toOption_map
    (show (((Compiler.mk .standard {}).assemble bareUnit "bare" bareFlow).toOption.map
        fun executable => (executable.workflow?.map fun workflow => workflow.tasks.map Task.refId,
          executable.dependencies.keys))
        = some (some ["org.ops.", "org.ops.", "org.ops.undo.all"],
          ["org.ops.", "org.ops.undo.all"]) by
      decide +kernel)
  obtain ⟨hids, hkeys⟩ := Prod.mk.inj hview
  exact ⟨executable, hexecutable, hids, hkeys⟩

theorem bareFlow_references :
    (∃ key remainder table space, HasForm "ops.undo.all" key remainder
        ∧ bareUnit.imports = some table ∧ table.get? key = some space
        ∧ "org.ops.undo.all" = space ++ "." ++ remainder)
      ∧ ¬ Coincide "ops" "ops.undo.all"
      ∧ ∃ executable workflow,
        (Compiler.mk .standard {}).assemble bareUnit "bare" bareFlow = .ok executable
        ∧ executable.body = .flow workflow
        ∧ List.Forall₂ (Refers bareUnit.imports) (taskEntries bareFlow) workflow.tasks
        ∧ ∀ id kind, (id, kind) ∈ executable.dependencies.entries
            ↔ kind = .executable ∧ id ∈ workflow.tasks.map Task.refId := by
  obtain ⟨hform, hcoincide, hflow⟩ := references_of_one_alias
  have hbare : resolve bareUnit.imports "ops" = .ok "org.ops." := by decide
  have hnamed : resolve bareUnit.imports "ops.undo.all" = .ok "org.ops.undo.all" := by decide
  obtain ⟨executable, hexecutable, -⟩ := exists_assemble_bareFlow
  obtain ⟨workflow, hbody, hrefers, -, hdependencies⟩ :=
    hflow _ bareUnit "bare" bareFlow executable rfl hexecutable
  refine ⟨(hform _ _ _).mp hnamed, fun h => ?_, executable, workflow, hexecutable, hbody, hrefers,
    hdependencies⟩
  exact absurd ((hcoincide _ _ _ _ _ hbare hnamed (by decide)).mpr h) (by decide)

/-- An alias alone is resolved, though no dot stands behind it, and to the same as the alias with a
dot, so that two calls of a flow are merged. -/
theorem bareFlow_merges :
    resolve bareUnit.imports "ops" = .ok "org.ops."
      ∧ (¬ ∃ key remainder, '.' ∉ key.toList ∧ "ops" = key ++ "." ++ remainder)
      ∧ resolve bareUnit.imports "ops." = .ok "org.ops."
      ∧ aliasOf "ops" = aliasOf "ops."
      ∧ ∃ executable,
        (Compiler.mk .standard {}).assemble bareUnit "bare" bareFlow = .ok executable
        ∧ (taskEntries bareFlow).map callee? = [some "ops", some "ops.", some "ops.undo.all"]
        ∧ executable.workflow?.map (fun workflow => workflow.tasks.map Task.refId)
          = some ["org.ops.", "org.ops.", "org.ops.undo.all"]
        ∧ executable.dependencies.keys = ["org.ops.", "org.ops.undo.all"] := by
  refine ⟨by decide, fun h => ?_, by decide, by decide, ?_⟩
  · obtain ⟨key, remainder, -, hparts⟩ := h
    have hdot : '.' ∈ (key ++ "." ++ remainder).toList := by simp [String.toList_append]
    rw [← hparts] at hdot
    exact absurd hdot (by decide)
  · obtain ⟨executable, hexecutable, hids, hkeys⟩ := exists_assemble_bareFlow
    exact ⟨executable, hexecutable, by decide +kernel, hids, hkeys⟩

end FlowCompiler
