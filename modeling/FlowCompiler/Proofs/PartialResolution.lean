import FlowCompiler.Proofs.Failures
import FlowCompiler.Proofs.Resolution

/-!
# Resolution in place

The system properties of a list of inputs are resolved one after the other, up to the first that has
no meaning. The inputs before that one are rewritten, it and the later ones are as they were
(`ResolvesTo`), and no input has changed in anything but its system property
(`inputs_resolved_in_place`).
-/

namespace FlowCompiler.Reference

/-- What becomes of a list of inputs, and the error that comes beside it. -/
inductive ResolvesTo (imports : Option Imports) :
    List Input → List Input → Option ReferenceError → Prop
  /-- All are rewritten. -/
  | all {inputs results : List Input} : List.Forall₂ (IsRewritten imports) inputs results →
      ResolvesTo imports inputs results none
  /-- Those before one whose system property has no meaning are rewritten, and no others. -/
  | upTo {before rewritten : List Input} (input : Input) (after : List Input) {property : String}
      {cause : ReferenceError} : List.Forall₂ (IsRewritten imports) before rewritten →
      input.systemProperty = some property → resolve imports property = .error cause →
      ResolvesTo imports (before ++ input :: after) (rewritten ++ input :: after) (some cause)

variable {imports : Option Imports}

theorem resolveInput_eq_error_iff {input : Input} {cause : ReferenceError} :
    resolveInput imports input = .error cause
      ↔ ∃ property, input.systemProperty = some property
          ∧ resolve imports property = .error cause := by
  unfold resolveInput
  cases input.systemProperty with
  | none => simp
  | some property => simp [map_eq_error_iff]

/-- One more input that can be rewritten comes before the others. -/
theorem ResolvesTo.cons {input result : Input} {inputs results : List Input}
    {failure : Option ReferenceError} (hinput : IsRewritten imports input result)
    (h : ResolvesTo imports inputs results failure) :
    ResolvesTo imports (input :: inputs) (result :: results) failure := by
  cases h with
  | all hrest => exact .all (.cons hinput hrest)
  | upTo stopped after hbefore hproperty hcause =>
    exact .upTo stopped after (.cons hinput hbefore) hproperty hcause

theorem resolvesTo_resolveInputs (inputs : List Input) :
    ResolvesTo imports inputs (resolveInputs imports inputs).1
      (resolveInputs imports inputs).2 := by
  induction inputs with
  | nil => exact .all .nil
  | cons input rest ih =>
    rw [resolveInputs]
    cases hinput : resolveInput imports input with
    | error cause =>
      obtain ⟨property, hproperty, hcause⟩ := resolveInput_eq_error_iff.mp hinput
      have hstopped : ResolvesTo imports ([] ++ input :: rest) ([] ++ input :: rest) (some cause) :=
        .upTo input rest .nil hproperty hcause
      exact hstopped
    | ok result => exact ih.cons (resolveInput_eq_ok_iff.mp hinput)

theorem resolveInputs_eq_of_unnamed {inputs : List Input}
    (h : ∀ input ∈ inputs, input.systemProperty = none) :
    resolveInputs imports inputs = (inputs, none) := by
  induction inputs with
  | nil => rfl
  | cons input rest ih =>
    obtain ⟨hinput, hrest⟩ := List.forall_mem_cons.mp h
    have hkept : resolveInput imports input = .ok input := by rw [resolveInput, hinput]
    rw [resolveInputs, hkept, ih hrest]

theorem resolveInputs_eq_none_iff {inputs : List Input} :
    (resolveInputs imports inputs).2 = none
      ↔ ∀ input ∈ inputs, ∀ property, input.systemProperty = some property →
          Knows imports property := by
  rw [← exists_resolveAll_iff, resolveAll]
  split
  · next resolved hinputs => simp [hinputs]
  · next others cause hinputs => simp [hinputs]

/-- The inputs differ at most in their system properties. -/
def SameButProperty (input result : Input) : Prop :=
  { result with systemProperty := none } = { input with systemProperty := none }

section Outcomes

variable {inputs results : List Input} {cause : ReferenceError}

theorem ResolvesTo.forall₂_of_none (h : ResolvesTo imports inputs results none) :
    List.Forall₂ (IsRewritten imports) inputs results := by
  cases h with
  | all hinputs => exact hinputs

theorem ResolvesTo.exists_of_some (h : ResolvesTo imports inputs results (some cause)) :
    ∃ before input after rewritten property,
      inputs = before ++ input :: after ∧ List.Forall₂ (IsRewritten imports) before rewritten
        ∧ input.systemProperty = some property ∧ ¬ Knows imports property
        ∧ resolve imports property = .error cause ∧ results = rewritten ++ input :: after := by
  cases h with
  | upTo input after hbefore hproperty hcause =>
    refine ⟨_, input, after, _, _, rfl, hbefore, hproperty, fun hknown => ?_, hcause, rfl⟩
    obtain ⟨resolved, hresolved⟩ := exists_resolve_iff.mpr hknown
    rw [hcause] at hresolved
    cases hresolved

theorem ResolvesTo.forall₂_sameButProperty {failure : Option ReferenceError}
    (h : ResolvesTo imports inputs results failure) :
    List.Forall₂ SameButProperty inputs results := by
  cases h with
  | all hinputs => exact hinputs.imp fun _ _ => IsRewritten.kept
  | upTo input after hbefore =>
    refine List.rel_append (hbefore.imp fun _ _ => IsRewritten.kept) ?_
    exact List.forall₂_same.mpr fun _ _ => rfl

end Outcomes

/-- The resolution of inputs in place succeeds exactly if every system property has its alias in the
table, and then each is replaced by what it stands for. If it fails, then with what the first system
property fails with that has no meaning; the inputs before that one are rewritten, and it and the
later ones are as they were. In either case there are the same inputs, but for their system
properties. Inputs without system properties are resolved with any table and without one. -/
theorem inputs_resolved_in_place (imports : Option Imports) (inputs : List Input) :
    ((resolveInputs imports inputs).2 = none
        ↔ ∀ input ∈ inputs, ∀ property, input.systemProperty = some property →
            Knows imports property)
      ∧ ((resolveInputs imports inputs).2 = none →
          List.Forall₂ (IsRewritten imports) inputs (resolveInputs imports inputs).1)
      ∧ (∀ cause, (resolveInputs imports inputs).2 = some cause →
          ∃ before input after rewritten property,
            inputs = before ++ input :: after
              ∧ List.Forall₂ (IsRewritten imports) before rewritten
              ∧ input.systemProperty = some property ∧ ¬ Knows imports property
              ∧ resolve imports property = .error cause
              ∧ (resolveInputs imports inputs).1 = rewritten ++ input :: after)
      ∧ List.Forall₂ SameButProperty inputs (resolveInputs imports inputs).1
      ∧ ((∀ input ∈ inputs, input.systemProperty = none) →
          resolveInputs imports inputs = (inputs, none)) := by
  have h : ResolvesTo imports inputs (resolveInputs imports inputs).1
      (resolveInputs imports inputs).2 := resolvesTo_resolveInputs inputs
  refine ⟨resolveInputs_eq_none_iff, fun hnone => ?_, fun cause hcause => ?_,
    h.forall₂_sameButProperty, resolveInputs_eq_of_unnamed⟩
  · rw [hnone] at h
    exact h.forall₂_of_none
  · rw [hcause] at h
    exact h.exists_of_some

/-- Four inputs, the first without a system property and the second with one that has an alias. -/
def hostInputs (third fourth : Option String) : List Input :=
  [{ name := "host", expression := some "db" },
   { name := "region", encrypted := true, systemProperty := some "env.region" },
   { name := "token", required := false, systemProperty := third },
   { name := "zone", systemProperty := fourth }]

/-- The table of `hostInputs`. -/
def hostImports : Option Imports := some (.ofList [("env", "org.env")])

/-- The alias of the third input is not in the table, so that the second input is the last to be
rewritten, though the fourth could be, too. Without properties of the third and the fourth all are
rewritten, and the first by itself needs no table. -/
theorem hostInputs_resolved :
    resolveInputs hostImports (hostInputs (some "vault.token") (some "env"))
        = ([{ name := "host", expression := some "db" },
            { name := "region", encrypted := true, systemProperty := some "org.env.region" },
            { name := "token", required := false, systemProperty := some "vault.token" },
            { name := "zone", systemProperty := some "env" }],
          some (.unresolvedAlias "vault" "vault.token"))
      ∧ (∃ before input after rewritten property,
        hostInputs (some "vault.token") (some "env") = before ++ input :: after
          ∧ List.Forall₂ (IsRewritten hostImports) before rewritten
          ∧ input.systemProperty = some property ∧ ¬ Knows hostImports property
          ∧ resolve hostImports property = .error (.unresolvedAlias "vault" "vault.token"))
      ∧ List.Forall₂ (IsRewritten hostImports) (hostInputs none none)
          (resolveInputs hostImports (hostInputs none none)).1
      ∧ resolveInputs none ((hostInputs none none).take 1)
          = ((hostInputs none none).take 1, none) := by
  have hfailure : resolveInputs hostImports (hostInputs (some "vault.token") (some "env"))
      = ([{ name := "host", expression := some "db" },
          { name := "region", encrypted := true, systemProperty := some "org.env.region" },
          { name := "token", required := false, systemProperty := some "vault.token" },
          { name := "zone", systemProperty := some "env" }],
        some (.unresolvedAlias "vault" "vault.token")) := by
    decide +kernel
  obtain ⟨-, -, hstopped, -⟩ := inputs_resolved_in_place hostImports
    (hostInputs (some "vault.token") (some "env"))
  obtain ⟨-, hrewritten, -⟩ := inputs_resolved_in_place hostImports (hostInputs none none)
  obtain ⟨-, -, -, -, hunnamed⟩ := inputs_resolved_in_place none ((hostInputs none none).take 1)
  refine ⟨hfailure, ?_, hrewritten (by decide +kernel), hunnamed (by decide)⟩
  obtain ⟨before, input, after, rewritten, property, hinputs, hbefore, hproperty, hunknown, hcause,
    -⟩ := hstopped _ (congrArg Prod.snd hfailure)
  exact ⟨before, input, after, rewritten, property, hinputs, hbefore, hproperty, hunknown, hcause⟩

end FlowCompiler.Reference
