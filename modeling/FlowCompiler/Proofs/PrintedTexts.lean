import FlowCompiler.Json.Printer
import FlowCompiler.Json.Text
import FlowCompiler.Proofs.Readers

/-!
# Reading printed texts

Every printed character is read as that character, be it written as itself, by a short escape or by
its code (`takes_readPiece`, `takes_skipPiece`). So a printed text is read as that text
(`takes_readText`), also where only its end is sought (`takes_skipText`).
-/

namespace FlowCompiler.Json

variable {rest : List Char}

/-! ## Characters -/

/-- A character is printed in one of three ways. -/
theorem escaped_cases (c : Char) :
    (∃ letter, escaped c = ['\\', letter] ∧ shortEscape? letter = some c)
      ∨ (escaped c = controlCode c ∧ c.toNat < 0x20)
      ∨ (escaped c = [c] ∧ c ≠ '"' ∧ c ≠ '\\' ∧ ¬ c.toNat < 0x20) := by
  unfold escaped
  split
  case h_8 hquote hbackslash _ _ _ _ _ =>
    split
    · next hcontrol => exact .inr (.inl ⟨rfl, hcontrol⟩)
    · next hcontrol => exact .inr (.inr ⟨rfl, hquote, hbackslash, hcontrol⟩)
  all_goals exact .inl ⟨_, rfl, rfl⟩

theorem hexCode?_digits : ∀ code < 0x20,
    hexCode? '0' '0' (Nat.digitChar (code / 16)) (Nat.digitChar (code % 16)) = some code := by
  decide

theorem byteCount_four (a b c d : Char) : ¬ byteCount [a, b, c, d] < 4 := by
  have ha := a.utf8Size_pos
  have hb := b.utf8Size_pos
  have hc := c.utf8Size_pos
  have hd := d.utf8Size_pos
  simp only [byteCount, List.foldr_cons, List.foldr_nil]
  omega

/-- The four digits behind `\u`. -/
theorem takes_readHexCode {a b c d : Char} {code : Nat} (h : hexCode? a b c d = some code) :
    Takes readHexCode (a :: b :: c :: d :: rest) code rest := by
  refine ⟨by simp only [List.length_cons]; omega, ?_⟩
  have hfour : (a :: b :: c :: d :: rest).take 4 = [a, b, c, d] := rfl
  rw [readHexCode, hfour, if_neg (byteCount_four a b c d)]
  simp only [h]
  rfl

theorem takes_readCodeEscape {text : List Char} {code : Nat} (h : Takes readHexCode text code rest)
    (hcode : code < 0xD800) : Takes readCodeEscape text (Char.ofNat code) rest := by
  obtain ⟨hlt, hread⟩ := h
  have htrailing : isTrailing code = false := by simp [isTrailing]; omega
  have hleading : isLeading code = false := by simp [isLeading]; omega
  exact ⟨hlt, by simp [readCodeEscape, hread, htrailing, hleading]⟩

/-- What stands behind the backslash of a printed character is read as that character. -/
theorem takes_readEscape_letter {code : Reader Char} {letter c : Char}
    (h : shortEscape? letter = some c) : Takes (readEscape code) (letter :: rest) c rest := by
  have hletter : letter ≠ 'u' := by
    rintro rfl
    cases h
  refine ⟨Nat.lt_succ_self _, ?_⟩
  simp only [readEscape, h]
  rfl

theorem takes_readEscape_code {code : Reader Char} {text : List Char} {c : Char}
    (h : Takes code text c rest) : Takes (readEscape code) ('u' :: text) c rest := by
  obtain ⟨hlt, hread⟩ := h
  exact ⟨Nat.lt_succ_of_lt hlt, by rw [readEscape, hread]; rfl⟩

/-- The digits of a control character, behind `\u`. -/
theorem takes_controlDigits {c : Char} (h : c.toNat < 0x20) :
    Takes readHexCode ('0' :: '0' :: Nat.digitChar (c.toNat / 16) :: Nat.digitChar (c.toNat % 16)
      :: rest) c.toNat rest :=
  takes_readHexCode (hexCode?_digits c.toNat h)

/-- A character is printed as an escape that is read as the character, as long as an escape by code
is, or else as itself. -/
theorem takes_escape_or_plain {code : Reader Char} (c : Char)
    (hcode : ∀ text, c.toNat < 0x20 → Takes readHexCode text c.toNat rest →
      Takes code text c rest) :
    (∃ text, escaped c ++ rest = '\\' :: text ∧ Takes (readEscape code) text c rest)
      ∨ (escaped c ++ rest = c :: rest ∧ c ≠ '"' ∧ c ≠ '\\' ∧ ¬ c.toNat < 0x20) := by
  obtain ⟨letter, hprinted, hletter⟩ | ⟨hprinted, hcontrol⟩ | ⟨hprinted, hplain⟩ := escaped_cases c
  · exact .inl ⟨_, by rw [hprinted]; rfl, takes_readEscape_letter hletter⟩
  · exact .inl ⟨_, by rw [hprinted]; rfl,
      takes_readEscape_code (hcode _ hcontrol (takes_controlDigits hcontrol))⟩
  · exact .inr ⟨by rw [hprinted]; rfl, hplain⟩

theorem takes_readPiece (c : Char) : Takes readPiece (escaped c ++ rest) (some c) rest := by
  have hcode : ∀ text, c.toNat < 0x20 → Takes readHexCode text c.toNat rest →
      Takes readCodeEscape text c rest := fun text hcontrol hdigits => by
    simpa using takes_readCodeEscape hdigits (by omega)
  obtain ⟨text, hprinted, hlt, hread⟩ | ⟨hprinted, hquote, hbackslash, hcontrol⟩ :=
    takes_escape_or_plain c hcode
  · rw [hprinted]
    exact ⟨Nat.lt_succ_of_lt hlt, by rw [readPiece, hread]; rfl⟩
  · rw [hprinted]
    refine ⟨Nat.lt_succ_self _, ?_⟩
    simp only [readPiece, if_neg hcontrol]
    rfl

theorem takes_skipPiece (c : Char) : Takes skipPiece (escaped c ++ rest) (some ()) rest := by
  have hcode : ∀ text, c.toNat < 0x20 → Takes readHexCode text c.toNat rest →
      Takes (Reader.map Char.ofNat readHexCode) text c rest := fun text _ hdigits => by
    simpa using hdigits.map Char.ofNat
  obtain ⟨text, hprinted, hlt, hread⟩ | ⟨hprinted, hquote, hbackslash, hcontrol⟩ :=
    takes_escape_or_plain c hcode
  · rw [hprinted]
    exact ⟨Nat.lt_succ_of_lt hlt, by rw [skipPiece, hread]; rfl⟩
  · rw [hprinted]
    refine ⟨Nat.lt_succ_self _, ?_⟩
    simp only [skipPiece, if_neg hcontrol]
    rfl

/-! ## Texts -/

theorem takes_readPiece_end : Takes readPiece ('"' :: rest) none rest :=
  ⟨Nat.lt_succ_self _, rfl⟩

theorem takes_skipPiece_end : Takes skipPiece ('"' :: rest) none rest :=
  ⟨Nat.lt_succ_self _, rfl⟩

/-- A printed text is read as that text. -/
theorem takes_readText (text : String) :
    Takes readText (text.toList.flatMap escaped ++ '"' :: rest) text rest := by
  have hmany : Takes (Reader.many readPiece []) (text.toList.flatMap escaped ++ '"' :: rest)
      ([].reverse ++ text.toList.map id) rest :=
    Takes.many (fun c _ _ => takes_readPiece c) takes_readPiece_end []
  simpa [readText] using hmany.map String.ofList

/-- Where only the end of a printed text is sought, the text is found as well. -/
theorem takes_skipText (text : String) :
    Takes skipText (text.toList.flatMap escaped ++ '"' :: rest) (some text) rest := by
  have hmany : Takes (Reader.many skipPiece []) (text.toList.flatMap escaped ++ '"' :: rest)
      ([].reverse ++ text.toList.map fun _ => ()) rest :=
    Takes.many (fun c _ _ => takes_skipPiece c) takes_skipPiece_end []
  -- Once the end is known, `skipText` looks at the text again with `readText`.
  obtain ⟨hlt, hskip⟩ := hmany
  obtain ⟨_, hread⟩ : Takes readText _ text rest := takes_readText text
  exact ⟨hlt, by rw [skipText, hskip, hread]; rfl⟩

end FlowCompiler.Json
