import FlowCompiler.Proofs.Checks
import FlowCompiler.Report

/-!
# Two ways to check the navigation

A caller may have the navigation of a flow checked while it is compiled, or ask for the report on a
source. Checking while compiling amounts to compiling without the check and then rejecting what has
something to report (`compileSource_navigationChecked`), and that is what the report is made from.
So the two tell a caller the same (`entry_points_agree`).
-/

namespace FlowCompiler

/-- The text of the options that add the check of the navigation. -/
def navigationChecked : String := "\x7b\"validateNavigation\": true\x7d"

theorem readOptions_navigationChecked :
    readOptions navigationChecked = .ok { validateNavigation := true } := by
  cbv

namespace Executable

/-- What is wrong with the navigation; in an operation there is none. -/
def diagnostics (executable : Executable) : List Diagnostic :=
  match executable.workflow? with
  | none => []
  | some workflow => workflow.diagnostics

theorem diagnostics_of_not_isFlow {executable : Executable} (h : executable.isFlow = false) :
    executable.diagnostics = [] := by
  rw [isFlow, Option.isSome_eq_false_iff, Option.isNone_iff_eq_none] at h
  rw [diagnostics, h]

end Executable

/-! ## Compiling with the check -/

/-- Rejects an executable for the first flaw of its navigation. -/
def rejectFlawed (unit : String) (executable : Executable) : Except CompileError Executable :=
  match executable.diagnostics with
  | [] => .ok executable
  | diagnostic :: _ => .error (.navigation unit diagnostic)

/-- The check of the navigation comes after that of the names. -/
theorem Options.check_navigation {unique : Bool} {unit : String} {workflow : Workflow} :
    (Options.mk unique true).check unit workflow
      = ((Options.mk unique false).check unit workflow >>= fun _ =>
        match workflow.diagnostics with
        | [] => .ok ()
        | diagnostic :: _ => .error (.navigation unit diagnostic)) := by
  cases unique <;> cases hname : workflow.repeatedName? <;> cases hreport : workflow.diagnostics <;>
    simp [check, hname, hreport]

theorem compileSource_navigationChecked (source : Source) :
    Compiler.compileSource { options := { validateNavigation := true } } source
      = (Compiler.compileSource {} source >>= rejectFlawed source.unit.name) := by
  show Compiler.outcome _ _ _ _ _ = (Compiler.outcome _ _ _ _ _ >>= _)
  rw [Compiler.outcome_eq_bind_check ⟨true, true⟩, Compiler.outcome_eq_bind_check ⟨true, false⟩,
    bind_assoc]
  refine bind_congr fun executable => ?_
  cases hbody : executable.body with
  | operation action => simp [Options.checkBody, rejectFlawed, Executable.diagnostics,
      Executable.workflow?, hbody, pure, Except.pure]
  | flow workflow =>
    rw [Options.checkBody, Options.checkBody, Options.check_navigation, bind_assoc, bind_assoc]
    refine bind_congr fun _ => ?_
    cases hreport : workflow.diagnostics <;>
      simp [rejectFlawed, Executable.diagnostics, Executable.workflow?, hbody, hreport, pure,
        Except.pure]

/-- A diagnostic that is raised as an error is told with its code, behind the unit. -/
theorem Report.ofError_navigation (unit : String) (diagnostic : Diagnostic) :
    Report.ofError (.navigation unit diagnostic) =
      { code := (Report.ofDiagnostic diagnostic).code
        kind := (Report.ofDiagnostic diagnostic).kind
        message := "Error compiling " ++ unit ++ ". [" ++ (Report.ofDiagnostic diagnostic).code
          ++ "] " ++ (Report.ofDiagnostic diagnostic).message
        unit := some unit } := by
  have hmessage : CompileError.compiling unit diagnostic.text
      = "Error compiling " ++ unit ++ ". [" ++ diagnostic.code ++ "] " ++ diagnostic.message := by
    have hbracket : ". " ++ "[" = ". [" := by simp only [String.reduceAppend]
    unfold CompileError.compiling Diagnostic.text
    rw [← hbracket]
    simp only [String.append_assoc, -String.reduceAppend]
  show Report.mk _ _ (CompileError.compiling unit diagnostic.text) _ = _
  rw [hmessage]
  rfl

/-! ## Texts -/

variable {text : String} {source : Source}

theorem compileWith_navigationChecked (hsource : readSource text = .ok source) :
    compileWith text navigationChecked = (compile text >>= rejectFlawed source.unit.name) := by
  rw [compileWith, readOptions_navigationChecked, ok_bind, compileUnder, compile, compileUnder,
    hsource, ok_bind, ok_bind]
  exact compileSource_navigationChecked source

theorem exists_source_of_compile {executable : Executable} (h : compile text = .ok executable) :
    ∃ source, readSource text = .ok source := by
  obtain ⟨source, hsource, -⟩ := bind_eq_ok_iff.mp h
  exact ⟨source, hsource⟩

theorem compileWith_of_error {error : CompileError} (h : compile text = .error error) :
    compileWith text navigationChecked = .error error := by
  cases hsource : readSource text with
  | ok source => rw [compileWith_navigationChecked hsource, h, error_bind]
  | error cause =>
    rw [compile, compileUnder, hsource, error_bind] at h
    rw [compileWith, readOptions_navigationChecked, ok_bind, compileUnder, hsource, error_bind, h]

/-- The report is on what is compiled with the default options. -/
theorem validate_eq :
    validate text = match compile text with
      | .error error => [.ofError error]
      | .ok executable => executable.diagnostics.map .ofDiagnostic := by
  show (match compile text with
    | .error error => [Report.ofError error]
    | .ok executable => _) = _
  cases compile text with
  | error error => rfl
  | ok executable =>
    simp only [Executable.diagnostics]
    cases executable.workflow? <;> rfl

/-- For every text, compiling with the check of the navigation succeeds exactly if there is nothing
to report. If the text does not compile without the check, both tell the same error. Otherwise the
first flaw in the report is the error, wrapped with the full name of the unit; if there is none,
what is compiled is what is compiled without the check. -/
theorem entry_points_agree (text : String) :
    ((∃ executable, compileWith text navigationChecked = .ok executable) ↔ validate text = [])
      ∧ (∀ error, compile text = .error error →
          compileWith text navigationChecked = .error error ∧ validate text = [.ofError error])
      ∧ (∀ executable report rest, compile text = .ok executable →
          validate text = report :: rest →
          ∃ source error, readSource text = .ok source
            ∧ compileWith text navigationChecked = .error error
            ∧ Report.ofError error =
              { code := report.code
                kind := report.kind
                message := "Error compiling " ++ source.unit.name ++ ". [" ++ report.code ++ "] "
                  ++ report.message
                unit := some source.unit.name })
      ∧ ∀ executable, compile text = .ok executable →
          executable.isFlow = false ∨ validate text = [] →
          compileWith text navigationChecked = .ok executable := by
  cases hcompile : compile text with
  | error error =>
    have hchecked := compileWith_of_error hcompile
    have hreport : validate text = [.ofError error] := by rw [validate_eq, hcompile]
    simp [hchecked, hreport]
  | ok executable =>
    obtain ⟨source, hsource⟩ := exists_source_of_compile hcompile
    have hreport : validate text = executable.diagnostics.map .ofDiagnostic := by
      rw [validate_eq, hcompile]
    have hchecked : compileWith text navigationChecked
        = rejectFlawed source.unit.name executable := by
      rw [compileWith_navigationChecked hsource, hcompile, ok_bind]
    cases hflaws : executable.diagnostics with
    | nil =>
      rw [hflaws, List.map_nil] at hreport
      rw [rejectFlawed, hflaws] at hchecked
      simp [hchecked, hreport]
    | cons diagnostic others =>
      rw [hflaws, List.map_cons] at hreport
      rw [rejectFlawed, hflaws] at hchecked
      have hflow : executable.isFlow = true := by
        by_contra hnot
        rw [Executable.diagnostics_of_not_isFlow (by simpa using hnot)] at hflaws
        cases hflaws
      refine ⟨by simp [hchecked, hreport], fun error herror => (nomatch herror),
        fun compiled report rest _ hfirst => ?_, fun compiled heq hnone => ?_⟩
      · rw [hreport, List.cons.injEq] at hfirst
        obtain ⟨rfl, -⟩ := hfirst
        exact ⟨source, _, hsource, hchecked, Report.ofError_navigation _ _⟩
      · obtain rfl := Except.ok.inj heq
        simp [hflow, hreport] at hnone

end FlowCompiler
