/-!
# Documents

`Json` is the value that a source text holds, and `Document` a map of it: its entries in authoring
order, which the compiler follows when it lays out a workflow. A reader never builds a document in
which a key occurs twice.
-/

namespace FlowCompiler

/-- A number of a document. -/
inductive Number
  /-- An integer between `-2 ^ 63` and `2 ^ 64 - 1`, written without a fraction or an exponent. -/
  | whole (value : Int)
  /-- Any other number, rounded to a finite 64-bit float. -/
  | real (value : Float)

/-- A value of a document. -/
inductive Json
  /-- No value. -/
  | null
  /-- A truth value. -/
  | bool (value : Bool)
  /-- A number. -/
  | number (value : Number)
  /-- A text. -/
  | string (value : String)
  /-- A list of values. -/
  | list (items : List Json)
  /-- A map, as its entries in authoring order. -/
  | map (entries : List (String × Json))

/-- A map from keys to values, as its entries in authoring order. -/
abbrev Document := List (String × Json)

instance : Inhabited Json := ⟨.null⟩

namespace Json

/-- What a message calls a value of this kind. -/
def kind : Json → String
  | .null => "null"
  | .bool _ => "a boolean"
  | .number _ => "a number"
  | .string _ => "a string"
  | .list _ => "a list"
  | .map _ => "a map"

end Json

namespace Document

/-- The value of a key. -/
def get? (document : Document) (key : String) : Option Json :=
  document.lookup key

/-- Whether the document has the key. -/
def contains (document : Document) (key : String) : Bool :=
  document.any fun entry => entry.1 == key

/-- The keys in authoring order. -/
def keys (document : Document) : List String :=
  document.map Prod.fst

/-- The document without the key; the other entries keep their order. -/
def erase (document : Document) (key : String) : Document :=
  document.filter fun entry => entry.1 != key

/-- The document with the key set to the value: in its place when the key occurs, else at the end.
-/
def insert (document : Document) (key : String) (value : Json) : Document :=
  match document with
  | [] => [(key, value)]
  | entry :: rest =>
    if entry.1 = key then
      (key, value) :: rest
    else
      entry :: insert rest key value

/-- The document of the entries in order: a key that occurs again keeps its place and takes the
later value. -/
def ofEntries (entries : List (String × Json)) : Document :=
  entries.foldl (fun document entry => insert document entry.1 entry.2) []

/-- The documents in which no key occurs twice, at the top level. -/
def Distinct (document : Document) : Prop :=
  (keys document).Nodup

theorem keys_insert (document : Document) (key : String) (value : Json) :
    keys (insert document key value) =
      if key ∈ keys document then keys document else keys document ++ [key] := by
  induction document with
  | nil => simp [insert, keys]
  | cons entry rest ih =>
    by_cases h : entry.1 = key
    · simp [insert, keys, h]
    · have h' : ¬ key = entry.1 := fun e => h e.symm
      simp only [keys] at ih
      simp only [insert, h, if_false, keys, List.map_cons, List.mem_cons, h', false_or, ih]
      split <;> simp_all

theorem distinct_insert {document : Document} (h : Distinct document) (key : String)
    (value : Json) : Distinct (insert document key value) := by
  unfold Distinct at *
  rw [keys_insert]
  split
  · exact h
  · next hkey =>
    refine List.nodup_append.mpr ⟨h, by simp, ?_⟩
    intro other hother last hlast
    rw [List.mem_singleton] at hlast
    exact fun e => hkey (hlast ▸ e ▸ hother)

theorem distinct_foldl_insert (entries : List (String × Json)) {document : Document}
    (h : Distinct document) :
    Distinct (entries.foldl (fun document entry => insert document entry.1 entry.2) document) := by
  induction entries generalizing document with
  | nil => exact h
  | cons entry rest ih => exact ih (distinct_insert h entry.1 entry.2)

theorem distinct_ofEntries (entries : List (String × Json)) : Distinct (ofEntries entries) :=
  distinct_foldl_insert entries List.Pairwise.nil

end Document

end FlowCompiler
