import FlowCompiler.Json.Outline
import FlowCompiler.Json.Printer
import FlowCompiler.Options.Basic
import FlowCompiler.Text.Quoted

/-!
# Reading options

Options are given by a map of truth values under the names of the checks, or by the list of these in
order, which may end early. What is not given keeps its default. Keys that are no option are
passed over, whatever stands under them.
-/

namespace FlowCompiler.Options

open Json

/-- What a message calls a value that stands where another kind is needed. -/
def describe : Json → String
  | .null => "null"
  | .bool value => "boolean `" ++ (if value then "true" else "false") ++ "`"
  | .number (.whole value) => "integer `" ++ (Number.whole value).text ++ "`"
  | .number (.real value) => "floating point `" ++ (Number.real value).text ++ "`"
  | .string value => "string " ++ Text.quoted value
  | .list _ => "sequence"
  | .map _ => "map"

/-- Reads a value only to reject it. Lists and maps are rejected at their opening bracket, other
values behind their end. -/
def rejectValue {α : Type} (needed : String) (text : List Char) : Except Fault α :=
  match text with
  | '[' :: rest => .error (.behind (.wrongType (describe (.list [])) needed) ('[' :: rest))
  | '\x7b' :: rest => .error (.behind (.wrongType (describe (.map [])) needed) ('\x7b' :: rest))
  | _ =>
    match documentGrammar.scalar text with
    | .error fault => .error fault
    | .ok step => .error (.behind (.wrongType (describe step.value) needed) step.rest)

/-- Reads a truth value. -/
def readFlag : Reader Bool := fun text =>
  match h : skipSpace text with
  | [] => .error (.behind .endInValue [])
  | 't' :: rest => (readWord true ['r', 'u', 'e'] rest).map (Step.afterSpace h)
  | 'f' :: rest => (readWord false ['a', 'l', 's', 'e'] rest).map (Step.afterSpace h)
  | other => rejectValue "a boolean" other

/-- The causes behind a comma. -/
def comma : CommaCauses := documentGrammar.comma

/-! ## Lists -/

/-- Reads the end of a list behind the last option that there is. -/
def readListEnd : Reader Unit := fun text =>
  match h : skipSpace text with
  | [] => .error (.peek .endInList [])
  | c :: rest =>
    if c = ']' then
      .ok (.oneSpaced h ())
    else if c = ',' then
      match skipSpace rest with
      | ']' :: behind => .error (.peek .commaBeforeEnd (']' :: behind))
      | behind => .error (.peek .moreText behind)
    else
      .error (.peek .moreText (c :: rest))

/-- Reads what follows the first option in a list. -/
def readSecond (first : Bool) : Reader Options := fun text =>
  match nextItem comma readFlag text with
  | .error fault => .error fault
  | .ok ⟨none, rest, shorter⟩ => .ok ⟨{ uniqueTaskNames := first }, rest, shorter⟩
  | .ok ⟨some second, rest, shorter⟩ =>
    (readListEnd rest).map fun step =>
      (step.map fun _ => ⟨first, second⟩).after shorter

/-- Reads a list of options behind its opening bracket. -/
def readOptionList : Reader Options := fun text =>
  match h : skipSpace text with
  | [] => .error (.peek .endInList [])
  | c :: _ =>
    if c = ']' then
      .ok (.oneSpaced h {})
    else
      readFlag.andThen readSecond text

/-! ## Maps -/

/-- The options that have been read. -/
structure Given where
  /-- The option of this name. -/
  uniqueTaskNames : Option Bool := none
  /-- The option of this name. -/
  validateNavigation : Option Bool := none
deriving DecidableEq, Repr

/-- The options, with defaults for what is not given. -/
def Given.toOptions (given : Given) : Options where
  uniqueTaskNames := given.uniqueTaskNames.getD ({} : Options).uniqueTaskNames
  validateNavigation := given.validateNavigation.getD ({} : Options).validateNavigation

/-- Rejects an option that is given again. It is noticed at the key, but the map is closed if its
end follows. -/
def rejectRepeated {α : Type} (name : String) : Reader α := fun text =>
  match skipSpace text with
  | '\x7d' :: rest => .error (.behind (.repeatedField name) rest)
  | rest => .error (.behind (.repeatedField name) rest)

/-- Reads the value of an option into its place. -/
def readOption (name : String) (earlier : Option Bool) (place : Option Bool → Given) :
    Reader Given :=
  match earlier with
  | some _ => rejectRepeated name
  | none => readColon.andThen fun _ => Reader.map (fun value => place (some value)) readFlag

/-- Reads an entry of a map of options behind the opening quote of its key. -/
def readOptionEntry (given : Given) : Reader Given :=
  readText.andThen fun key =>
    if key = "uniqueTaskNames" then
      readOption key given.uniqueTaskNames fun value =>
        { given with uniqueTaskNames := value }
    else if key = "validateNavigation" then
      readOption key given.validateNavigation fun value =>
        { given with validateNavigation := value }
    else
      readColon.andThen fun _ => Reader.map (fun _ => given) readOutline

/-- Reads a map of options behind its opening bracket. -/
def readOptionMap : Reader Options :=
  Reader.map Given.toOptions (readEntries comma readOptionEntry {})

/-! ## Options -/

/-- Reads options. -/
def reader : Reader Options := fun text =>
  match h : skipSpace text with
  | [] => .error (.behind .endInValue [])
  | '[' :: rest => (readOptionList rest).map (Step.afterSpaced h)
  | '\x7b' :: rest => (readOptionMap rest).map (Step.afterSpaced h)
  | other => rejectValue "struct BuilderConfig" other

/-- The options that a text holds. -/
def read (text : String) : Except Located Options :=
  locating reader text

end FlowCompiler.Options
