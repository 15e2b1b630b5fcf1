import FlowCompiler.Extractor.Bindings
import FlowCompiler.Proofs.Success

/-!
# Names, scalars and properties

What the small readers accept that all declarations are made of: names and texts that are not blank,
scalars with their text, truth values.
-/

namespace FlowCompiler

namespace Json

/-- Whether the value is a scalar; `null` is one. -/
def IsScalar : Json → Prop
  | .list _ | .map _ => False
  | _ => True

/-- The text of a scalar; `null` has none. -/
def scalarText? : Json → Option String
  | .string text => some text
  | .bool value => some (if value then "true" else "false")
  | .number value => some value.text
  | _ => none

/-- Whether the value is a text that is not blank. -/
def IsFilledText (value : Json) : Prop :=
  ∃ text, value = .string text ∧ Text.isBlankText text = false

end Json

namespace Extractor

variable {place name property expected text : String} {value : Json}

theorem properName_eq_ok_iff {proper : String} :
    properName place name = .ok proper
      ↔ Text.isBlankText name = false ∧ proper = Text.trim name := by
  unfold properName
  split
  · next hblank => simp [hblank]
  · next hblank => simp [hblank, eq_comm]

theorem scalarText_eq_ok_iff {found : Option String} :
    scalarText place value = .ok found ↔ value.IsScalar ∧ found = value.scalarText? := by
  cases value <;> simp [scalarText, Json.IsScalar, Json.scalarText?, eq_comm]

theorem readFlag_eq_ok_iff {flag : Bool} :
    readFlag name property value = .ok flag ↔ value = .bool flag := by
  cases value <;> simp [readFlag]

theorem readFilledText_eq_ok_iff :
    readFilledText place expected value = .ok text
      ↔ value = .string text ∧ Text.isBlankText text = false := by
  cases value with
  | string held =>
    simp only [readFilledText, Json.string.injEq]
    split
    · next hblank =>
      simp only [reduceCtorEq, false_iff, not_and]
      rintro rfl
      simp [hblank]
    · next hblank =>
      simp only [Except.ok.injEq]
      exact ⟨fun h => ⟨h, by simpa [← h] using hblank⟩, And.left⟩
  | null | bool held | number held | list items | map entries => simp [readFilledText]

end Extractor

end FlowCompiler
