import FlowCompiler.Json.Step

/-!
# Words, lists and maps

The part of the grammar that does not depend on what a reader makes of a value. A `Grammar` says
how texts and numbers are read, what the parts are put together to, and which cause a comma gets
that nothing follows; `Grammar.value` is then the reader of values, for a bounded number of nested
lists and maps.
-/

namespace FlowCompiler.Json

universe u v

/-- What is wrong behind a comma in a list or a map. -/
structure CommaCauses where
  /-- The end of the list follows. -/
  endOfList : Cause
  /-- The end of the map follows. -/
  endOfMap : Cause
  /-- The text ends, within a map. -/
  endOfText : Cause

/-- The ways in which readers of values differ: `κ` holds a text, `α` a value. -/
structure Grammar (κ : Type u) (α : Type v) where
  /-- Reads a text behind its opening quote. -/
  text : Reader κ
  /-- Reads a number. -/
  number : Reader α
  /-- The value of the word `null`. -/
  null : α
  /-- The value of a truth word. -/
  bool : Bool → α
  /-- The value of a text. -/
  ofText : κ → α
  /-- The value of a list. -/
  ofList : List α → α
  /-- The value of a map. -/
  ofMap : List (κ × α) → α
  /-- The causes behind a comma. -/
  comma : CommaCauses

section Loops

variable {κ : Type u} {α : Type v}

/-- Reads what follows a list item: the next item, or the end of the list. -/
def nextItem (comma : CommaCauses) (item : Reader α) : Reader (Option α) := fun text =>
  match h : skipSpace text with
  | [] => .error (.peek .endInList [])
  | c :: rest =>
    if c = ']' then
      .ok (.oneSpaced h none)
    else if c = ',' then
      match skipSpace rest with
      | ']' :: behind => .error (.peek comma.endOfList (']' :: behind))
      | _ =>
        (item rest).map fun step => (step.map some).afterSpaced h
    else
      .error (.peek .noListSeparator (c :: rest))

/-- Reads the items of a list behind its opening bracket, and the closing one. -/
def readItems (comma : CommaCauses) (item : Reader α) : Reader (List α) := fun text =>
  match h : skipSpace text with
  | [] => .error (.peek .endInList [])
  | c :: _ =>
    if c = ']' then
      .ok (.oneSpaced h [])
    else
      item.andThen (fun first => Reader.many (nextItem comma item) [first]) text

/-- Reads the colon behind a key. -/
def readColon : Reader Unit := fun text =>
  match h : skipSpace text with
  | [] => .error (.peek .endInMap [])
  | c :: rest =>
    if c = ':' then
      .ok (.oneSpaced h ())
    else
      .error (.peek .noColon (c :: rest))

/-- Reads a map entry behind the opening quote of its key. -/
def readEntry (key : Reader κ) (value : Reader α) : Reader (κ × α) :=
  key.andThen fun name => readColon.andThen fun _ => Reader.map (fun held => (name, held)) value

/-- Reads what follows a map entry: the next entry, or the end of the map. -/
def nextEntry (comma : CommaCauses) (entry : Reader α) : Reader (Option α) := fun text =>
  match h : skipSpace text with
  | [] => .error (.peek .endInMap [])
  | c :: rest =>
    if c = '\x7d' then
      .ok (.oneSpaced h none)
    else if c = ',' then
      match h' : skipSpace rest with
      | [] => .error (.peek comma.endOfText [])
      | d :: behind =>
        if d = '"' then
          (entry behind).map fun step => ((step.map some).afterSpaced h').afterSpaced h
        else if d = '\x7d' then
          .error (.peek comma.endOfMap (d :: behind))
        else
          .error (.peek .keyNotText (d :: behind))
    else
      .error (.peek .noMapSeparator (c :: rest))

/-- Reads the entries of a map behind its opening bracket, and the closing one. Each entry changes a
state. -/
def readEntries (comma : CommaCauses) (entry : α → Reader α) (state : α) : Reader α := fun text =>
  match h : skipSpace text with
  | [] => .error (.peek .endInMap [])
  | c :: rest =>
    if c = '\x7d' then
      .ok (.oneSpaced h state)
    else if c = '"' then
      ((entry state).andThen (Reader.loop fun state => nextEntry comma (entry state)) rest).map
        (Step.afterSpaced h)
    else
      .error (.peek .keyNotText (c :: rest))

/-- Reads a map behind its opening bracket into the list of its entries. -/
def readMap (comma : CommaCauses) (entry : Reader α) : Reader (List α) :=
  Reader.map List.reverse
    (readEntries comma (fun earlier => Reader.map (· :: earlier) entry) [])

end Loops

/-- Reads the letters of a word behind its first one, which stands for a value. -/
def readWord {α : Type v} {first : Char} (value : α) :
    List Char → (text : List Char) → Except Fault (Step α (first :: text))
  | [], _ => .ok (.one value)
  | _ :: _, [] => .error (.behind .endInValue [])
  | c :: more, d :: rest =>
    if c = d then
      (readWord value more rest).map Step.afterChar
    else
      .error (.peek .unknownWord (d :: rest))

namespace Grammar

variable {κ : Type u} {α : Type v}

/-- Reads a value that is neither a list nor a map and starts at the front of the text. -/
def scalar (grammar : Grammar κ α) : Reader α
  | [] => .error (.behind .endInValue [])
  | 'n' :: rest => readWord grammar.null ['u', 'l', 'l'] rest
  | 't' :: rest => readWord (grammar.bool true) ['r', 'u', 'e'] rest
  | 'f' :: rest => readWord (grammar.bool false) ['a', 'l', 's', 'e'] rest
  | '"' :: rest => (grammar.text rest).map fun step =>
    (step.map grammar.ofText).afterChar
  | c :: rest =>
    if c = '-' || c.isDigit then
      grammar.number (c :: rest)
    else
      .error (.peek .noValue (c :: rest))

/-- Reads a value in which at most `room` lists and maps are nested. -/
def value (grammar : Grammar κ α) (room : Nat) : Reader α := fun text =>
  match h : skipSpace text with
  | [] => .error (.behind .endInValue [])
  | c :: rest =>
    if c = '[' || c = '\x7b' then
      match room with
      | 0 => .error (.peek .tooDeep (c :: rest))
      | room + 1 =>
        let inner := value grammar room
        let whole :=
          if c = '[' then
            Reader.map grammar.ofList (readItems grammar.comma inner)
          else
            Reader.map grammar.ofMap (readMap grammar.comma (readEntry grammar.text inner))
        (whole rest).map (Step.afterSpaced h)
    else
      (grammar.scalar (c :: rest)).map (Step.afterSpace h)

end Grammar

end FlowCompiler.Json
