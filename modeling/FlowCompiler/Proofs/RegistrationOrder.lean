import FlowCompiler.Proofs.StandardFields

/-!
# The order of registration

Extractors that never make a field of the same name may run in any order: a stage makes the same of
a map, or fails in either order (`agree_runStage_of_perm`), and its rejection alone may be another.
So registries that hold the same extractors in different orders accept the same documents and make
the same executables of them (`registration_order_irrelevant`), as those of the flow language do.
-/

namespace FlowCompiler

/-! ## Rejections of the same map -/

/-- The errors are the same, unless both are rejections by an extractor, which name the same unit.
-/
inductive CompileError.SameButRejection : CompileError → CompileError → Prop
  | same (cause : CompileError) : SameButRejection cause cause
  | rejected (unit : String) (cause other : ExtractError) :
    SameButRejection (.extraction unit cause) (.extraction unit other)

namespace CompileError.SameButRejection

instance : Std.Refl SameButRejection where
  refl := .same

theorem trans {first second third : CompileError} (hfirst : SameButRejection first second)
    (hsecond : SameButRejection second third) : SameButRejection first third := by
  cases hfirst with
  | same => exact hsecond
  | rejected unit cause other => cases hsecond <;> exact .rejected _ _ _

variable {cause other : CompileError}

theorem code_eq (h : SameButRejection cause other) : cause.code = other.code := by
  cases h <;> rfl

theorem eq_of_code_ne (h : SameButRejection cause other) (hcode : cause.code ≠ "X001") :
    cause = other := by
  cases h with
  | same => rfl
  | rejected => exact absurd rfl hcode

end CompileError.SameButRejection

open CompileError (SameButRejection)

/-! ## Independent extractors -/

/-- Whether no field that the one extractor makes has the name of one that the other makes of the
same document. -/
def Extractor.Apart (first second : Extractor) : Prop :=
  ∀ document produced others, first.contribution document = .ok produced →
    second.contribution document = .ok others →
    ∀ field ∈ produced, ∀ other ∈ others, field.1 ≠ other.1

/-- Whether different extractors of the list are apart. -/
def Extractor.AreIndependent (extractors : List Extractor) : Prop :=
  ∀ first ∈ extractors, ∀ second ∈ extractors, first ≠ second → first.Apart second

theorem Extractor.AreIndependent.of_perm {left right : List Extractor} (h : AreIndependent left)
    (hperm : left.Perm right) : AreIndependent right :=
  fun first hfirst second hsecond =>
    h first (hperm.mem_iff.mpr hfirst) second (hperm.mem_iff.mpr hsecond)

/-- Whether the extractors of every stage are independent. -/
def Registry.IsIndependent (registry : Registry) : Prop :=
  ∀ stage, Extractor.AreIndependent (registry.stage stage)

/-! ## What a stage makes in another order -/

variable {left right : List Extractor} {unit : String} {part : Document}

/-- Two extractors that are apart may run in either order. -/
theorem agree_runStageFrom_swap {first second : Extractor} {rest : List Extractor}
    (h : first.Apart second) (fields : FieldMap) :
    Agree SameButRejection (runStageFrom fields unit part (first :: second :: rest))
      (runStageFrom fields unit part (second :: first :: rest)) := by
  simp only [runStageFrom_cons_eq]
  cases hfirst : first.contribution part with
  | error cause =>
    cases second.contribution part with
    | error other => exact .failed (.rejected unit cause other)
    | ok others => exact .refl _
  | ok produced =>
    cases hsecond : second.contribution part with
    | error other => exact .refl _
    | ok others =>
      have hcomm := SortedMap.insertMany_comm fields (h part produced others hfirst hsecond)
      simp only [Except.mapError, ok_bind, hcomm]
      exact .refl _

/-- The induction is over the exchanges of neighbours that lead from the one order to the other. -/
theorem agree_runStageFrom_of_perm (hperm : left.Perm right)
    (h : Extractor.AreIndependent left) (fields : FieldMap) :
    Agree SameButRejection (runStageFrom fields unit part left)
      (runStageFrom fields unit part right) := by
  induction hperm generalizing fields with
  | nil => exact .refl _
  | cons extractor _ ih =>
    rw [runStageFrom_cons_eq, runStageFrom_cons_eq]
    refine .bind (.refl _) fun produced _ => ih (fun first hfirst second hsecond => ?_) _
    exact h first (List.mem_cons_of_mem _ hfirst) second (List.mem_cons_of_mem _ hsecond)
  | swap first second rest =>
    by_cases heq : second = first
    · rw [heq]
      exact .refl _
    · exact agree_runStageFrom_swap
        (h second List.mem_cons_self first (List.mem_cons_of_mem _ List.mem_cons_self) heq) fields
  | trans hfirst _ ihfirst ihsecond =>
    exact (ihfirst h fields).trans .trans (ihsecond (h.of_perm hfirst) fields)

theorem agree_runStage_of_perm (hperm : left.Perm right) (h : Extractor.AreIndependent left) :
    Agree SameButRejection (runStage unit part left) (runStage unit part right) :=
  agree_runStageFrom_of_perm hperm h .empty

/-- Which keys are claimed does not depend on the order. -/
theorem validateKeys_eq_of_perm (hperm : left.Perm right) (additional : List String) :
    validateKeys unit part left additional = validateKeys unit part right additional :=
  validateKeys_congr fun _ _ => congrArg (· || _) hperm.any_eq

/-! ## Compilations in another order -/

theorem Registry.agreeOn_of_perm (hperm : left.Perm right) (h : (ofList left).IsIndependent)
    (part : Document) : (ofList left).AgreeOn SameButRejection (ofList right) part := by
  refine ⟨fun unit stage additional => ?_, fun unit stages additional => ?_, fun unit stage => ?_⟩
  · rw [stage_ofList, stage_ofList]
    exact validateKeys_eq_of_perm (hperm.filter _) additional
  · rw [stages_ofList, stages_ofList]
    exact validateKeys_eq_of_perm (hperm.filter _) additional
  · have hstage := h stage
    rw [stage_ofList] at hstage
    rw [stage_ofList, stage_ofList]
    exact agree_runStage_of_perm (hperm.filter _) hstage

/-- With independent extractors the order of registration makes no difference to what is compiled:
in either order the outcome is the same executable, or there is an error. An unknown key is the same
error in both, and so is every error but the rejection of a value. -/
theorem registration_order_irrelevant (hperm : left.Perm right)
    (h : (Registry.ofList left).IsIndependent) (options : Options) (unit : SourceUnit)
    (name : String) (document : Document) :
    (∃ executable,
      (Compiler.mk (.ofList left) options).assemble unit name document = .ok executable
      ∧ (Compiler.mk (.ofList right) options).assemble unit name document = .ok executable)
    ∨ ∃ cause other,
      (Compiler.mk (.ofList left) options).assemble unit name document = .error cause
      ∧ (Compiler.mk (.ofList right) options).assemble unit name document = .error other
      ∧ SameButRejection cause other
      ∧ (cause.code = "K001" ∨ other.code = "K001" → cause = other) := by
  have hagree := Compiler.agree_assemble_of_registries options unit name
    fun part (_ : part ∈ shownMaps document) => Registry.agreeOn_of_perm hperm h part
  generalize (Compiler.mk (.ofList left) options).assemble unit name document = first at hagree
  generalize (Compiler.mk (.ofList right) options).assemble unit name document = second at hagree
  cases hagree with
  | made executable => exact .inl ⟨executable, rfl, rfl⟩
  | @failed cause other hcauses =>
    refine .inr ⟨cause, other, rfl, rfl, hcauses, fun hcode => hcauses.eq_of_code_ne ?_⟩
    rw [← hcauses.code_eq, or_self] at hcode
    rw [hcode]
    decide

/-! ## The flow language -/

/-- No two extractors of the flow language have the same name, and each makes fields of its own. -/
theorem Registry.isIndependent_standard : Registry.standard.IsIndependent := by
  intro stage first hfirst second hsecond hne document produced others hproduced hothers field hfield
    other hother
  have hfirst := mem_standard_of_mem_stage hfirst
  have hsecond := mem_standard_of_mem_stage hsecond
  have hnodup : (Extractor.standard.map Extractor.name).Nodup := by decide
  rw [(Extractor.makesOwn_of_mem_standard hfirst document produced hproduced field hfield).1,
    (Extractor.makesOwn_of_mem_standard hsecond document others hothers other hother).1]
  exact fun hname => hne (List.inj_on_of_nodup_map hnodup hfirst hsecond hname)

/-- A flow that gives one value for its outputs and its results, and a task with properties besides
its call. -/
def closingFlow (properties : Document) (value : Json) : Document :=
  [(Keyword.workflow, .map
    [("close", .map ((Keyword.callee, .map [("ops.close", .null)]) :: properties))]),
   (Keyword.outputs, value), (Keyword.results, value)]

/-- The unit of `closingFlow`. -/
def closingUnit : SourceUnit where
  name := "demo.closing"
  kind := .flow
  space := "demo"
  imports := some (.ofList [("ops", "org.ops")])

/-- With the extractors of the flow language in the reverse order a flow is compiled to the same and
an unknown key is the same error; of two values that are no lists the other is rejected. -/
theorem closingFlow_in_reverse :
    Extractor.standard.Perm Extractor.standard.reverse
    ∧ Registry.standard.IsIndependent
    ∧ (∃ executable,
        (Compiler.mk .standard {}).assemble closingUnit "closing"
            (closingFlow [] (.list [.string "sum"])) = .ok executable
        ∧ (Compiler.mk (.ofList Extractor.standard.reverse) {}).assemble closingUnit "closing"
            (closingFlow [] (.list [.string "sum"])) = .ok executable)
    ∧ (Compiler.mk .standard {}).assemble closingUnit "closing"
          (closingFlow [("colour", .null)] (.list []))
        = .error (.unknownKeyword "close" "colour")
    ∧ (Compiler.mk (.ofList Extractor.standard.reverse) {}).assemble closingUnit "closing"
          (closingFlow [("colour", .null)] (.list []))
        = .error (.unknownKeyword "close" "colour")
    ∧ (Compiler.mk .standard {}).assemble closingUnit "closing" (closingFlow [] (.string "sum"))
        = .error (.extraction "closing" (.wrongShape Keyword.outputs "a list" "a string"))
    ∧ (Compiler.mk (.ofList Extractor.standard.reverse) {}).assemble closingUnit "closing"
          (closingFlow [] (.string "sum"))
        = .error (.extraction "closing" (.wrongShape Keyword.results "a list" "a string")) := by
  have hperm : Extractor.standard.Perm Extractor.standard.reverse :=
    Extractor.standard.reverse_perm.symm
  have hindependent := Registry.isIndependent_standard
  refine ⟨hperm, hindependent, ?_, ?_, ?_, ?_, ?_⟩
  · have hok : ((Compiler.mk .standard {}).assemble closingUnit "closing"
        (closingFlow [] (.list [.string "sum"]))).isOk = true := by decide +kernel
    obtain haccepted | ⟨cause, other, hcause, -⟩ := registration_order_irrelevant hperm
      hindependent {} closingUnit "closing" (closingFlow [] (.list [.string "sum"]))
    · exact haccepted
    · rw [Registry.standard, hcause] at hok
      cases hok
  all_goals decide +kernel

end FlowCompiler
