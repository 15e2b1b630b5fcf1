import FlowCompiler.Json.Fault

/-!
# Reading from the front of a text

A `Reader` takes a value from the front of a text and leaves a shorter text, or stops with a fault.
Because every step shortens the text, a repetition (`Reader.loop`) ends.
-/

namespace FlowCompiler.Json

universe u v

/-- What a reader takes from a text. -/
structure Step (α : Type u) (text : List Char) where
  /-- The value read. -/
  value : α
  /-- The text behind it. -/
  rest : List Char
  /-- Something has been consumed. -/
  shorter : rest.length < text.length

/-- A reader of values of `α`. -/
abbrev Reader (α : Type u) := (text : List Char) → Except Fault (Step α text)

/-- The white space of a document. -/
def isSpace (c : Char) : Bool :=
  c = ' ' || c = '\t' || c = '\n' || c = '\r'

/-- The text without the white space at its front. -/
def skipSpace (text : List Char) : List Char :=
  text.dropWhile isSpace

theorem length_skipSpace_le (text : List Char) : (skipSpace text).length ≤ text.length :=
  (List.dropWhile_sublist isSpace).length_le

theorem length_lt_of_skipSpace {text rest : List Char} {c : Char}
    (h : skipSpace text = c :: rest) : rest.length < text.length := by
  have := length_skipSpace_le text
  rw [h, List.length_cons] at this
  omega

namespace Step

variable {α : Type u} {β : Type v} {text rest : List Char} {c : Char}

/-- The step with its value changed. -/
def map (f : α → β) (step : Step α text) : Step β text :=
  ⟨f step.value, step.rest, step.shorter⟩

/-- The step that consumes one character. -/
def one (value : α) : Step α (c :: rest) :=
  ⟨value, rest, Nat.lt_succ_self rest.length⟩

/-- The step that consumes white space and one character. -/
def oneSpaced (h : skipSpace text = c :: rest) (value : α) : Step α text :=
  ⟨value, rest, length_lt_of_skipSpace h⟩

/-- A step taken from a later place, as one from the beginning. -/
def after (h : rest.length < text.length) (step : Step α rest) : Step α text :=
  ⟨step.value, step.rest, Nat.lt_trans step.shorter h⟩

/-- A step taken behind a character, as one that consumes the character too. -/
def afterChar (step : Step α rest) : Step α (c :: rest) :=
  step.after (Nat.lt_succ_self rest.length)

/-- A step taken behind white space and a character, as one that consumes both too. -/
def afterSpaced (h : skipSpace text = c :: rest) (step : Step α rest) : Step α text :=
  step.after (length_lt_of_skipSpace h)

/-- A step taken behind white space, as one that consumes the white space too. -/
def afterSpace (h : skipSpace text = rest) (step : Step α rest) : Step α text :=
  ⟨step.value, step.rest, Nat.lt_of_lt_of_le step.shorter (h ▸ length_skipSpace_le text)⟩

end Step

namespace Reader

variable {α : Type u} {β : Type v}

/-- Reads a value and continues with what depends on it. -/
def andThen (first : Reader α) (second : α → Reader β) : Reader β := fun text =>
  match first text with
  | .error fault => .error fault
  | .ok step =>
    match second step.value step.rest with
    | .error fault => .error fault
    | .ok next => .ok (next.after step.shorter)

/-- Changes the value that a reader gives. -/
protected def map (f : α → β) (reader : Reader α) : Reader β := fun text =>
  (reader text).map (Step.map f)

/-- Reads elements, each of which changes a state, until the element reader reports the end. -/
def loop (element : α → Reader (Option α)) (state : α) : Reader α := fun text =>
  match element state text with
  | .error fault => .error fault
  | .ok ⟨none, rest, shorter⟩ => .ok ⟨state, rest, shorter⟩
  | .ok ⟨some changed, rest, shorter⟩ =>
    match loop element changed rest with
    | .error fault => .error fault
    | .ok step => .ok (step.after shorter)
termination_by text => text.length

/-- Reads elements into a list until the element reader reports the end. `earlier` holds the
elements that have been read before, the last one first. -/
def many (element : Reader (Option α)) (earlier : List α) : Reader (List α) :=
  Reader.map List.reverse
    (loop (fun earlier => Reader.map (Option.map (· :: earlier)) element) earlier)

end Reader

end FlowCompiler.Json
