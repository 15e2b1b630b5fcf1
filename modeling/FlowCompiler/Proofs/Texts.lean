import FlowCompiler.Text.Blank
import FlowCompiler.Text.Letter
import FlowCompiler.Text.Numeral
import FlowCompiler.Text.Split
import Mathlib.Data.List.DropRight
import Mathlib.Data.List.TakeWhile

/-!
# Trimming and splitting

Letters and numerals are not blank (`isBlank_of_isLetter`, `isBlank_of_isNumeral`). Trimming keeps
every character that is not blank (`mem_trimChars`), so that it leaves nothing of
blank characters alone (`trimChars_eq_nil_iff`) and all of characters that are not
(`trimChars_eq_self`). A text that is not blank has nothing left to trim once it is trimmed
(`isProper_trim`). `splitFirst` cuts at the earliest occurrence of the word
(`splitFirst_eq_some_iff`), which nothing precedes that lacks its first character
(`splitsAt_of_notMem`); for a single character that is where the characters before it end
(`splitFirst_singleton_eq`). `pieces` splits at every occurrence of a character
(`pieces_eq_splitOn`).
-/

namespace FlowCompiler

/-- Ranges that do not meet have no character in common. -/
theorem CodeRanges.covers_eq_false_of_apart {ranges others : CodeRanges}
    (h : ∀ range ∈ ranges, ∀ other ∈ others, range.2 < other.1 ∨ other.2 < range.1) {c : Char}
    (hc : ranges.covers c = true) : others.covers c = false := by
  obtain ⟨range, hrange, hin⟩ := List.any_eq_true.mp hc
  rw [covers, List.any_eq_false]
  intro other hother
  simp only [Bool.and_eq_true, decide_eq_true_eq] at hin ⊢
  have hapart := h range hrange other hother
  omega

namespace Text

/-! ## Kinds of characters -/

theorem isBlank_of_isLetter {c : Char} (h : isLetter c = true) : isBlank c = false :=
  CodeRanges.covers_eq_false_of_apart (by decide +kernel) h

theorem isBlank_of_isNumeral {c : Char} (h : isNumeral c = true) : isBlank c = false :=
  CodeRanges.covers_eq_false_of_apart (by decide +kernel) h

/-! ## Trimming -/

theorem mem_dropBlank {c : Char} {chars : List Char} (hmem : c ∈ chars) (hc : isBlank c = false) :
    c ∈ dropBlank chars := by
  rw [← List.takeWhile_append_dropWhile (p := isBlank) (l := chars), List.mem_append] at hmem
  rcases hmem with htake | hdrop
  · rw [List.mem_takeWhile_imp htake] at hc
    cases hc
  · exact hdrop

theorem mem_trimChars {c : Char} {chars : List Char} (hmem : c ∈ chars) (hc : isBlank c = false) :
    c ∈ trimChars chars := by
  have hfront : c ∈ (dropBlank chars).reverse := List.mem_reverse.mpr (mem_dropBlank hmem hc)
  exact List.mem_reverse.mpr (mem_dropBlank hfront hc)

theorem trimChars_eq_nil_iff {chars : List Char} :
    trimChars chars = [] ↔ ∀ c ∈ chars, isBlank c = true := by
  apply Iff.intro
  · intro hnil c hmem
    by_contra hc
    have hkept := mem_trimChars hmem (Bool.not_eq_true _ ▸ hc)
    rw [hnil] at hkept
    cases hkept
  · intro hall
    have hfront : dropBlank chars = [] := List.dropWhile_eq_nil_iff.mpr hall
    rw [trimChars, hfront]
    rfl

/-- Where no character is blank there is nothing to trim. -/
theorem trimChars_eq_self {chars : List Char} (h : ∀ c ∈ chars, isBlank c = false) :
    trimChars chars = chars := by
  have hkept {chars : List Char} (h : ∀ c ∈ chars, isBlank c = false) : dropBlank chars = chars :=
    List.dropWhile_eq_self_iff.mpr fun hlength hblank => by
      rw [h _ (List.getElem_mem hlength)] at hblank
      cases hblank
  have hreverse : ∀ c ∈ chars.reverse, isBlank c = false :=
    fun c hc => h c (List.mem_reverse.mp hc)
  rw [trimChars, hkept h, hkept hreverse, List.reverse_reverse]

/-- What is left has no blank character at either end. -/
theorem trimChars_trimChars (chars : List Char) : trimChars (trimChars chars) = trimChars chars := by
  have htrim (chars : List Char) :
      trimChars chars = (chars.dropWhile isBlank).rdropWhile isBlank := rfl
  have hfront : (trimChars chars).dropWhile isBlank = trimChars chars := by
    rw [List.dropWhile_eq_self_iff]
    intro hlength hblank
    -- The first character that is left is the first of those left by the first step.
    have hinitial : trimChars chars <+: chars.dropWhile isBlank := List.rdropWhile_prefix isBlank _
    have hkept : 0 < (chars.dropWhile isBlank).length := hlength.trans_le hinitial.length_le
    rw [hinitial.getElem hlength] at hblank
    exact List.dropWhile_get_zero_not isBlank chars hkept hblank
  rw [htrim (trimChars chars), hfront, htrim chars, List.rdropWhile_idempotent]

/-- Whether the text is not blank, and there are no blanks around it. -/
structure IsProper (text : String) : Prop where
  filled : isBlankText text = false
  trimmed : trim text = text

/-- A text without blanks around it is blank only if it is empty. -/
theorem isProper_of_trim_eq {text : String} (hne : text ≠ "") (htrimmed : trim text = text) :
    IsProper text := by
  refine ⟨Bool.eq_false_iff.mpr fun hblank => hne ?_, htrimmed⟩
  have hnil : trimChars text.toList = [] := trimChars_eq_nil_iff.mpr (List.all_eq_true.mp hblank)
  rw [← htrimmed, trim, hnil]

theorem isBlankText_ofList {chars : List Char} :
    isBlankText (String.ofList chars) = false ↔ ∃ c ∈ chars, isBlank c = false := by
  rw [isBlankText, String.toList_ofList, List.all_eq_false]
  simp

theorem isProper_ofList_trimChars {chars : List Char} (h : ∃ c ∈ chars, isBlank c = false) :
    IsProper (String.ofList (trimChars chars)) where
  filled := by
    obtain ⟨c, hmem, hc⟩ := h
    exact isBlankText_ofList.mpr ⟨c, mem_trimChars hmem hc, hc⟩
  trimmed := by rw [trim, String.toList_ofList, trimChars_trimChars]

theorem isProper_trim {text : String} (h : isBlankText text = false) : IsProper (trim text) := by
  rw [← String.ofList_toList (s := text), isBlankText_ofList] at h
  exact isProper_ofList_trimChars h

/-! ## The first occurrence of a word -/

/-- The word stands between the two parts of the characters, and nowhere before. -/
structure SplitsAt (word chars left right : List Char) : Prop where
  joined : chars = left ++ word ++ right
  first {left' right' : List Char} : chars = left' ++ word ++ right' → left.length ≤ left'.length

theorem splitsAt_nil_iff {word chars right : List Char} :
    SplitsAt word chars [] right ↔ chars = word ++ right :=
  ⟨SplitsAt.joined, fun h => ⟨h, fun _ => Nat.zero_le _⟩⟩

/-- Where the word begins, it is cut off. -/
theorem splitsAt_append_iff {word behind left right : List Char} :
    SplitsAt word (word ++ behind) left right ↔ left = [] ∧ right = behind := by
  apply Iff.intro
  · intro h
    have hbegin : word ++ behind = [] ++ word ++ behind := rfl
    have hlength : left.length ≤ 0 := h.first hbegin
    obtain rfl := List.length_eq_zero_iff.mp (Nat.le_zero.mp hlength)
    exact ⟨rfl, (List.append_cancel_left h.joined).symm⟩
  · intro h
    obtain ⟨rfl, rfl⟩ := h
    exact splitsAt_nil_iff.mpr rfl

/-- Behind characters none of which is its first, the word stands for the first time. -/
theorem splitsAt_of_notMem {c : Char} {left : List Char} (word right : List Char) (h : c ∉ left) :
    SplitsAt (c :: word) (left ++ c :: word ++ right) left right where
  joined := rfl
  first {left' right'} hchars := by
    by_contra hlength
    have hlt : left'.length < left.length := Nat.lt_of_not_le hlength
    -- Where the word begins on the one side, the other has a character from before the word.
    have hat := congrArg (fun chars => chars[left'.length]?) hchars
    simp only [List.append_assoc, List.getElem?_append_left hlt,
      List.getElem?_append_right (Nat.le_refl _), Nat.sub_self, List.cons_append,
      List.getElem?_cons_zero] at hat
    exact h (List.mem_of_getElem? hat)

/-- Where the word does not begin, a cut is one of the characters that follow. -/
theorem splitsAt_cons_iff {word rest left right : List Char} {c d : Char}
    (hword : ¬ word <+: c :: rest) :
    SplitsAt word (c :: rest) (d :: left) right ↔ c = d ∧ SplitsAt word rest left right := by
  apply Iff.intro
  · intro h
    obtain ⟨hjoined, hfirst⟩ := h
    obtain ⟨hc, hrest⟩ := List.cons.inj hjoined
    refine ⟨hc, hrest, fun {left' right'} h => ?_⟩
    have hlater : c :: rest = (c :: left') ++ word ++ right' := by
      rw [h]
      rfl
    have hlength := hfirst hlater
    exact Nat.le_of_succ_le_succ hlength
  · intro h
    obtain ⟨hc, hrest, hfirst⟩ := h
    refine ⟨by rw [hrest, hc]; rfl, fun {left' right'} h => ?_⟩
    cases left' with
    | nil => exact absurd ⟨right', h.symm⟩ hword
    | cons e left' => exact Nat.succ_le_succ (hfirst (List.cons.inj h).2)

theorem splitFirst_eq_some_iff {word chars left right : List Char} :
    splitFirst word chars = some (left, right) ↔ SplitsAt word chars left right := by
  induction chars generalizing left with
  | nil =>
    rw [splitFirst]
    apply Iff.intro
    · intro h
      split at h <;> simp_all [splitsAt_nil_iff]
    · intro h
      have hnil := h.joined
      simp_all
  | cons c rest ih =>
    rw [splitFirst]
    -- Either the word begins here, or the cuts of the characters are those of the rest.
    by_cases hword : word <+: c :: rest
    · rw [if_pos (List.isPrefixOf_iff_prefix.mpr hword)]
      obtain ⟨behind, hbehind⟩ := hword
      rw [← hbehind, List.drop_left, splitsAt_append_iff, Option.some.injEq, Prod.mk.injEq,
        eq_comm, eq_comm (a := right)]
    · rw [if_neg fun h => hword (List.isPrefixOf_iff_prefix.mp h), Option.map_eq_some_iff]
      cases left with
      | nil =>
        rw [splitsAt_nil_iff]
        apply Iff.intro
        · intro h
          obtain ⟨_, -, hparts⟩ := h
          cases hparts
        · intro h
          exact absurd ⟨right, h.symm⟩ hword
      | cons d left =>
        rw [splitsAt_cons_iff hword, ← ih]
        apply Iff.intro
        · intro h
          obtain ⟨parts, hparts, h⟩ := h
          cases h
          exact ⟨rfl, hparts⟩
        · intro h
          obtain ⟨hc, hparts⟩ := h
          exact ⟨(left, right), hparts, by rw [hc]⟩

theorem splitFirst_singleton_eq (mark : Char) (chars : List Char) :
    splitFirst [mark] chars
      = if mark ∈ chars then
          some (chars.takeWhile (· != mark), (chars.dropWhile (· != mark)).tail)
        else none := by
  induction chars with
  | nil => rfl
  | cons c rest ih =>
    rw [splitFirst]
    by_cases h : c = mark
    · subst h
      simp
    · have hne : mark ≠ c := Ne.symm h
      simp [ih, h, hne]

/-! ## All occurrences of a character -/

/-- What stands in parts with a word between them stands in the word or in one of the parts. -/
theorem mem_of_mem_intercalate {c : Char} {word : List Char} {parts : List (List Char)}
    (h : c ∈ word.intercalate parts) : c ∈ word ∨ ∃ part ∈ parts, c ∈ part := by
  induction parts with
  | nil => cases h
  | cons part rest ih =>
    cases rest with
    | nil => exact .inr ⟨part, List.mem_cons_self, by simpa [List.intercalate] using h⟩
    | cons next more =>
      rw [List.intercalate_cons_cons, List.mem_append, List.mem_append] at h
      rcases h with (hpart | hword) | hrest
      · exact .inr ⟨part, List.mem_cons_self, hpart⟩
      · exact .inl hword
      · refine (ih hrest).imp_right fun hlater => ?_
        obtain ⟨later, hmem, hc⟩ := hlater
        exact ⟨later, List.mem_cons_of_mem _ hmem, hc⟩

theorem pieces_eq_splitOn (mark : Char) (chars : List Char) :
    pieces mark chars = chars.splitOn mark := by
  induction chars with
  | nil => rfl
  | cons c rest ih =>
    rw [pieces, List.splitOn_cons_eq_if_modifyHead, ih]
    simp only [beq_iff_eq]
    cases hrest : rest.splitOn mark with
    | nil => exact absurd hrest (List.splitOn_ne_nil mark rest)
    | cons piece more => rfl

end Text

end FlowCompiler
