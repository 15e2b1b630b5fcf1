import FlowCompiler.Proofs.StandardFields

/-!
# Written loop headers

A loop statement is written as a header by putting commas between its variables, and the separator
between these and the collection (`LoopStatement.header`). Nothing but the separator has a blank
before the collection, so what is written is read as the same statement, whatever stands in the
collection (`readLoopHeader_header`). Every statement that is read may be written, so that a header
is read to the same as its written form (`loop_headers_round_trip`).
-/

namespace FlowCompiler

/-- The header that declares the loop, with no blanks but those of the separator in front of the
collection. -/
def LoopStatement.header (statement : LoopStatement) : String :=
  ",".intercalate statement.names ++ " in " ++ statement.collection

namespace Extractor

open Text (trimChars)

variable {statement : LoopStatement}

theorem toList_header (statement : LoopStatement) :
    statement.header.toList
      = [','].intercalate (statement.names.map String.toList) ++ loopSeparator
        ++ statement.collection.toList := by
  simp only [LoopStatement.header, String.toList_append, String.toList_intercalate]
  rfl

theorem blank_notMem_intercalate {parts : List (List Char)}
    (hnames : ∀ part ∈ parts, isIdentifier part = true) : ' ' ∉ [','].intercalate parts := by
  have hblank : Text.isBlank ' ' = true := by decide
  intro hmem
  rcases Text.mem_of_mem_intercalate hmem with hcomma | ⟨part, hpart, hmem⟩
  · exact absurd hcomma (by decide)
  · rw [isBlank_of_mem_isIdentifier (hnames part hpart) ' ' hmem] at hblank
    cases hblank

/-- The names of the variables are the parts of what is written. -/
theorem isLoopHeader_header (h : statement.IsWellFormed) :
    IsLoopHeader statement.header (statement.names.map String.toList)
      statement.collection.toList where
  split := by
    rw [toList_header]
    exact Text.splitsAt_of_notMem _ _ (blank_notMem_intercalate (List.forall_mem_map.mpr h.names))
  few := by
    rw [List.length_map]
    exact h.few
  names := by
    refine List.forall_mem_map.mpr fun name hname => ?_
    have hname := h.names name hname
    rw [Text.trimChars_eq_self (isBlank_of_mem_isIdentifier hname)]
    exact hname
  filled := by
    rw [← Text.isBlankText_ofList, String.ofList_toList]
    exact h.collection.filled

theorem loopOf_toList (h : statement.IsWellFormed) :
    loopOf (statement.names.map String.toList) statement.collection.toList = statement := by
  have hname : ∀ name ∈ statement.names, String.ofList (trimChars name.toList) = name :=
    fun name hname => by
      rw [Text.trimChars_eq_self (isBlank_of_mem_isIdentifier (h.names name hname)),
        String.ofList_toList]
  have hnames : statement.names.map (fun name => String.ofList (trimChars name.toList))
      = statement.names := by
    rw [List.map_congr_left hname, List.map_id']
  have hcollection : String.ofList (trimChars statement.collection.toList) = statement.collection :=
    h.collection.trimmed
  simp only [loopOf, List.map_map, Function.comp_def, hnames, hcollection]

/-- A loop that may be declared is declared by the header that is written for it. -/
theorem readLoopHeader_header (h : statement.IsWellFormed) :
    readLoopHeader statement.header = .ok statement := by
  rw [readLoopHeader_of_isLoopHeader (isLoopHeader_header h), loopOf_toList h]

theorem isWellFormed_of_readLoopHeader {header : String}
    (h : readLoopHeader header = .ok statement) : statement.IsWellFormed := by
  obtain ⟨parts, collection, hheader, rfl⟩ := readLoopHeader_eq_ok_iff.mp h
  exact loopOf_isWellFormed hheader

/-- A header declares a loop exactly if it consists of one or two names of variables and a
collection, with the separator between them, and then these, without the blanks around them. What is
written for a declared loop declares it again. So does what is written for any one or two names and
any text that is not empty and has no blanks around it. -/
theorem loop_headers_round_trip :
    (∀ header statement, readLoopHeader header = .ok statement
        ↔ ∃ parts collection, IsLoopHeader header parts collection
            ∧ statement = loopOf parts collection)
      ∧ (∀ header statement, readLoopHeader header = .ok statement →
          readLoopHeader statement.header = .ok statement)
      ∧ ∀ names collection, names.length = 1 ∨ names.length = 2 →
          (∀ name ∈ names, isIdentifier name.toList = true) →
          collection ≠ "" → Text.trim collection = collection →
          readLoopHeader (LoopStatement.header ⟨names, collection⟩) = .ok ⟨names, collection⟩ := by
  refine ⟨fun _ _ => readLoopHeader_eq_ok_iff, fun _ _ h => ?_, ?_⟩
  · exact readLoopHeader_header (isWellFormed_of_readLoopHeader h)
  · intro names collection hfew hnames hne htrimmed
    exact readLoopHeader_header ⟨hfew, hnames, Text.isProper_of_trim_eq hne htrimmed⟩

/-- A loop with a variable that is called like the separator, over a text that contains a comma and
the separator. -/
def pairLoop : LoopStatement := ⟨["ключ", "in"], "a, b in c"⟩

/-- Blanks around the parts do not count, unless they make the separator of a variable. -/
theorem pairLoop_round_trip :
    readLoopHeader " ключ\t,in in  a, b in c\n" = .ok pairLoop
      ∧ pairLoop.header = "ключ,in in a, b in c"
      ∧ readLoopHeader pairLoop.header = .ok pairLoop
      ∧ readLoopHeader (LoopStatement.header ⟨["in"], "in in x"⟩) = .ok ⟨["in"], "in in x"⟩
      ∧ readLoopHeader "ключ, in in a"
        = .error (badHeader "ключ, in in a" "must declare one or two loop variables") := by
  obtain ⟨-, hwritten, hdeclared⟩ := loop_headers_round_trip
  have hread : readLoopHeader " ключ\t,in in  a, b in c\n" = .ok pairLoop := by decide +kernel
  refine ⟨hread, by decide +kernel, hwritten _ _ hread, ?_, by decide +kernel⟩
  refine hdeclared ["in"] "in in x" (.inl rfl) ?_ (by decide) (by decide +kernel)
  exact List.forall_mem_singleton.mpr (by decide +kernel)

end Extractor

end FlowCompiler
