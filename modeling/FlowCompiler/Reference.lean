import FlowCompiler.Error.Reference
import FlowCompiler.Model.Field
import FlowCompiler.SourceUnit
import FlowCompiler.Text.Split

/-!
# References

A reference is an alias, a dot and the remainder. It is resolved by putting the alias's namespace in
the place of the alias; whether the executable or property that it then names exists is not
asked here.
-/

namespace FlowCompiler.Reference

/-- The alias and the remainder: what stands before the first dot, and what stands behind it. -/
def parts (reference : String) : String × String :=
  match Text.splitFirst ['.'] reference.toList with
  | some (target, remainder) => (String.ofList target, String.ofList remainder)
  | none => (reference, "")

/-- The full name that a reference stands for. -/
def resolve (imports : Option Imports) (reference : String) : Except ReferenceError String :=
  match imports with
  | none => .error (.noImports reference)
  | some table =>
    match table.get? (parts reference).1 with
    | none => .error (.unresolvedAlias (parts reference).1 reference)
    | some space => .ok (space ++ "." ++ (parts reference).2)

/-- The input with its system property resolved, if it has one. -/
def resolveInput (imports : Option Imports) (input : Input) : Except ReferenceError Input :=
  match input.systemProperty with
  | none => .ok input
  | some property =>
    (resolve imports property).map fun resolved => { input with systemProperty := some resolved }

/-- Resolves the system properties of inputs one after the other, up to the first that has no
meaning; that error comes beside the inputs, the later ones of which are as they were. -/
def resolveInputs (imports : Option Imports) : List Input → List Input × Option ReferenceError
  | [] => ([], none)
  | input :: rest =>
    match resolveInput imports input with
    | .error cause => (input :: rest, some cause)
    | .ok resolved =>
      let (others, failure) := resolveInputs imports rest
      (resolved :: others, failure)

/-- The inputs with all system properties resolved. -/
def resolveAll (imports : Option Imports) (inputs : List Input) :
    Except ReferenceError (List Input) :=
  match resolveInputs imports inputs with
  | (resolved, none) => .ok resolved
  | (_, some cause) => .error cause

end FlowCompiler.Reference
