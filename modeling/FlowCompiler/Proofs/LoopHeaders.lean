import FlowCompiler.Extractor.LoopHeader
import FlowCompiler.Proofs.Success
import FlowCompiler.Proofs.Texts

/-!
# Loop headers

Which texts are loop headers (`IsLoopHeader`), and that just these are read, as what they are
(`readLoopHeader_eq_ok_iff`). The parts that a comma separates are those between all commas, since
no name of a variable has one in it (`comma_notMem`).
-/

namespace FlowCompiler.Extractor

open Text (trimChars)

/-- The header consists of the parts, between which commas stand, the separator, which does not
occur earlier, and the collection. There are one or two parts, each of which is the name of a
variable but for blanks around it, and the collection is not blank. -/
structure IsLoopHeader (header : String) (parts : List (List Char)) (collection : List Char) :
    Prop where
  split : Text.SplitsAt loopSeparator header.toList ([','].intercalate parts) collection
  few : parts.length = 1 ∨ parts.length = 2
  names : ∀ part ∈ parts, isIdentifier (trimChars part) = true
  filled : ∃ c ∈ collection, Text.isBlank c = false

theorem of_mem_isIdentifier {name : List Char} {c : Char} (hname : isIdentifier name = true)
    (hmem : c ∈ name) : (Text.isLetter c || Text.isNumeral c || c == '_') = true := by
  cases name with
  | nil => cases hmem
  | cons first rest =>
    rw [isIdentifier, Bool.and_eq_true, List.all_eq_true] at hname
    rcases List.mem_cons.mp hmem with heq | hrest
    · rw [heq, Bool.or_right_comm, hname.1, Bool.true_or]
    · exact hname.2 c hrest

theorem isBlank_of_mem_isIdentifier {name : List Char} (hname : isIdentifier name = true) :
    ∀ c ∈ name, Text.isBlank c = false := by
  intro c hc
  have hkind := of_mem_isIdentifier hname hc
  rw [Bool.or_eq_true, Bool.or_eq_true, beq_iff_eq] at hkind
  rcases hkind with (hletter | hnumeral) | rfl
  · exact Text.isBlank_of_isLetter hletter
  · exact Text.isBlank_of_isNumeral hnumeral
  · decide

theorem comma_notMem {part : List Char} (hpart : isIdentifier (trimChars part) = true) :
    ',' ∉ part := by
  intro hmem
  have hkept : ',' ∈ trimChars part := Text.mem_trimChars hmem (by decide)
  have hcomma : (Text.isLetter ',' || Text.isNumeral ',' || ',' == '_') = false := by decide +kernel
  rw [of_mem_isIdentifier hpart hkept] at hcomma
  cases hcomma

/-- The parts of what stands before the separator are found again by splitting at the commas. -/
theorem pieces_intercalate {parts : List (List Char)} (hne : parts ≠ [])
    (hnames : ∀ part ∈ parts, isIdentifier (trimChars part) = true) :
    Text.pieces ',' ([','].intercalate parts) = parts := by
  rw [Text.pieces_eq_splitOn]
  exact List.splitOn_intercalate ',' (fun part hpart => comma_notMem (hnames part hpart)) hne

theorem isEmpty_trimChars_iff {chars : List Char} :
    (trimChars chars).isEmpty = false ↔ ∃ c ∈ chars, Text.isBlank c = false := by
  rw [← Bool.not_eq_true, List.isEmpty_iff, Text.trimChars_eq_nil_iff]
  simp

/-- The loop that the parts of a header declare. -/
def loopOf (parts : List (List Char)) (collection : List Char) : LoopStatement :=
  ⟨parts.map fun part => String.ofList (trimChars part), String.ofList (trimChars collection)⟩

variable {header : String}

theorem readLoopHeader_of_isLoopHeader {parts : List (List Char)} {collection : List Char}
    (h : IsLoopHeader header parts collection) :
    readLoopHeader header = .ok (loopOf parts collection) := by
  have hfew := h.few
  have hne : parts ≠ [] := List.ne_nil_of_length_pos (by omega)
  have hlength : ¬ 2 < parts.length := by omega
  have hnames : (parts.map trimChars).all isIdentifier = true := by
    rw [List.all_map]
    exact List.all_eq_true.mpr h.names
  have hfilled := isEmpty_trimChars_iff.mpr h.filled
  rw [readLoopHeader, Text.splitFirst_eq_some_iff.mpr h.split]
  simp only [pieces_intercalate hne h.names, List.length_map, hlength, hnames, hfilled, loopOf,
    List.map_map]
  rfl

theorem exists_isLoopHeader_of_read {statement : LoopStatement}
    (h : readLoopHeader header = .ok statement) :
    ∃ parts collection, IsLoopHeader header parts collection := by
  unfold readLoopHeader at h
  split at h
  · cases h
  · next left collection hsplit =>
    dsimp only at h
    split_ifs at h with hnames hempty
    rw [Bool.or_eq_true, not_or, decide_eq_true_eq, Bool.not_eq_true, Bool.not_eq_false',
      List.all_map, List.all_eq_true, List.length_map] at hnames
    obtain ⟨hfew, hnames⟩ := hnames
    have hleft : [','].intercalate (Text.pieces ',' left) = left := by
      rw [Text.pieces_eq_splitOn, List.intercalate_splitOn]
    have hne : Text.pieces ',' left ≠ [] := by
      rw [Text.pieces_eq_splitOn]
      exact List.splitOn_ne_nil ',' left
    have hlength := List.length_pos_of_ne_nil hne
    refine ⟨Text.pieces ',' left, collection, ?_, by omega, hnames,
      isEmpty_trimChars_iff.mp (Bool.not_eq_true _ ▸ hempty)⟩
    rw [hleft]
    exact Text.splitFirst_eq_some_iff.mp hsplit

theorem readLoopHeader_eq_ok_iff {statement : LoopStatement} :
    readLoopHeader header = .ok statement
      ↔ ∃ parts collection, IsLoopHeader header parts collection
          ∧ statement = loopOf parts collection := by
  apply Iff.intro
  · intro h
    obtain ⟨parts, collection, hheader⟩ := exists_isLoopHeader_of_read h
    rw [readLoopHeader_of_isLoopHeader hheader] at h
    exact ⟨parts, collection, hheader, (Except.ok.inj h).symm⟩
  · intro h
    obtain ⟨parts, collection, hheader, hstatement⟩ := h
    rw [readLoopHeader_of_isLoopHeader hheader, hstatement]

end FlowCompiler.Extractor
