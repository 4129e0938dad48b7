import Karel.Proofs.Text.Numerals
import Karel.Proofs.Text.Words
import Karel.Text.Case

/-!
# Letters in either case

In a text of ASCII characters and blanks every character has a lower case of its own, whatever
stands around it. So the words of the text in lower case are its words, each in lower case, and what
is written in upper case has the same lower case. Blanks between words can be exchanged for others.
-/

namespace Karel.Text

variable {character letter : Char} {text before gap after : List Char}

theorem toNat_toUpper (character : Char) : character.toUpper.toNat =
    if 97 ≤ character.toNat ∧ character.toNat ≤ 122 then character.toNat - 32
    else character.toNat := by
  have bounds : character.val ≥ 'a'.val ∧ character.val ≤ 'z'.val ↔
      97 ≤ character.toNat ∧ character.toNat ≤ 122 := by
    simp only [ge_iff_le, UInt32.le_iff_toNat_le]
    exact Iff.rfl
  unfold Char.toUpper
  split
  next lower =>
    rw [if_pos (bounds.mp lower)]
    have range := bounds.mp lower
    have shifted : (character.val + ('A'.val - 'a'.val)).toNat =
        (character.val.toNat + 4294967264) % 4294967296 := UInt32.toNat_add _ _
    change (character.val + ('A'.val - 'a'.val)).toNat = character.val.toNat - 32
    change 97 ≤ character.val.toNat ∧ character.val.toNat ≤ 122 at range
    omega
  next other => rw [if_neg (mt bounds.mpr other)]

theorem toLower_toUpper (character : Char) : character.toUpper.toLower = character.toLower := by
  rw [← Char.toNat_inj, toNat_toLower, toNat_toLower, toNat_toUpper]
  by_cases small : 97 ≤ character.toNat ∧ character.toNat ≤ 122
  · rw [if_pos small, if_pos (by omega), if_neg (by omega)]
    omega
  · rw [if_neg small]

theorem toLower_toLower (character : Char) : character.toLower.toLower = character.toLower := by
  rw [← Char.toNat_inj, toNat_toLower, toNat_toLower]
  by_cases capital : 65 ≤ character.toNat ∧ character.toNat ≤ 90
  · rw [if_pos capital, if_neg (by omega)]
  · rw [if_neg capital, if_neg capital]

/-- No letter beyond ASCII is changed. -/
theorem toNat_toLower_lt_iff : character.toLower.toNat < 128 ↔ character.toNat < 128 := by
  rw [toNat_toLower]
  split <;> omega

theorem isBlank_toLower (character : Char) : isBlank character.toLower = isBlank character := by
  by_cases upper : 65 ≤ character.toNat ∧ character.toNat ≤ 90
  · have lower := toNat_toLower character
    rw [if_pos upper] at lower
    rw [isBlank_eq_false (by omega) (by omega), isBlank_eq_false (by omega) (by omega)]
  · have same : character.toLower = character := by
      rw [← Char.toNat_inj, toNat_toLower, if_neg upper]
    rw [same]

/-- What is no letter is the lower case of itself only. -/
theorem toLower_eq_iff_of_toNat (other : ¬ (97 ≤ letter.toNat ∧ letter.toNat ≤ 122))
    (small : ¬ (65 ≤ letter.toNat ∧ letter.toNat ≤ 90)) :
    character.toLower = letter ↔ character = letter := by
  rw [← Char.toNat_inj, ← Char.toNat_inj, toNat_toLower]
  split <;> omega

theorem ascii_of_all (all : text.all (fun character => decide (character.toNat < 128)) = true) :
    ∀ character ∈ text, character.toNat < 128 := by
  simpa using all

/-- Whether a character is an ASCII character or a blank. -/
def IsPlain (character : Char) : Prop := character.toNat < 128 ∨ isBlank character = true

theorem isPlain_toLower : IsPlain character.toLower ↔ IsPlain character := by
  rw [IsPlain, IsPlain, isBlank_toLower, toNat_toLower_lt_iff]

namespace Case

/-- Blanks have no case. -/
theorem lowerChar_of_isBlank (blank : isBlank character = true)
    (beyond : ¬ character.toNat < 128) : lowerChar character = [character.toLower] := by
  have each : ∀ code ∈ [0x85, 0xA0, 0x1680, 0x2000, 0x2001, 0x2002, 0x2003, 0x2004, 0x2005, 0x2006,
      0x2007, 0x2008, 0x2009, 0x200A, 0x2028, 0x2029, 0x202F, 0x205F, 0x3000],
      lowerChar (.ofNat code) = [(Char.ofNat code).toLower] := by
    decide +kernel
  rw [← Char.ofNat_toNat character]
  refine each _ ?_
  obtain ⟨range, member, lower, upper⟩ := inRanges_iff.mp blank
  simp only [blankRanges, List.mem_cons, List.not_mem_nil, or_false] at member ⊢
  rcases member with rfl | rfl | rfl | rfl | rfl | rfl | rfl | rfl | rfl | rfl <;>
    dsimp only at lower upper <;> omega

theorem lowerChar_of_isPlain (plain : IsPlain character) :
    lowerChar character = [character.toLower] := by
  by_cases ascii : character.toNat < 128
  · exact if_pos ascii
  · exact lowerChar_of_isBlank (plain.resolve_left ascii) ascii

/-- A text of ASCII characters and blanks is lowered character by character. -/
theorem lower_of_isPlain (plain : ∀ character ∈ text, IsPlain character) :
    lower text = text.map Char.toLower := by
  unfold lower
  generalize [] = before
  induction text generalizing before with
  | nil => rfl
  | cons character rest inductionHypothesis =>
      obtain ⟨first, others⟩ := List.forall_mem_cons.mp plain
      have noSigma : character ≠ 'Σ' := by
        rintro rfl
        rcases first with ascii | blank
        · exact absurd ascii (by decide)
        · exact absurd blank (by decide)
      rw [lowerAfter, lowerChar_of_isPlain first, inductionHypothesis others]
      · rfl
      · exact noSigma

/-- A text of ASCII characters is written in upper case character by character. -/
theorem upper_of_ascii (ascii : ∀ character ∈ text, character.toNat < 128) :
    upper text = text.map Char.toUpper := by
  have each : ∀ character ∈ text, upperChar character = [character.toUpper] :=
    fun character member => if_pos (ascii character member)
  rw [upper, List.flatMap_congr each, List.map_eq_flatMap]

end Case

/-! ## Words -/

@[simp]
theorem words_nil : words [] = [] := rfl

/-- A blank ends the words before it. -/
theorem words_append_cons (blank : isBlank character = true) :
    words (before ++ character :: after) = words before ++ words after := by
  unfold words
  rw [List.splitOnP_append_cons _ _ blank, List.filter_append]

theorem words_cons_of_isBlank (blank : isBlank character = true) :
    words (character :: after) = words after := by
  rw [← List.nil_append (character :: after), words_append_cons blank, words_nil, List.nil_append]

theorem words_append_of_isBlank (blank : ∀ character ∈ gap, isBlank character = true) :
    words (gap ++ after) = words after := by
  induction gap with
  | nil => rfl
  | cons character rest inductionHypothesis =>
      obtain ⟨first, others⟩ := List.forall_mem_cons.mp blank
      rw [List.cons_append, words_cons_of_isBlank first, inductionHypothesis others]

/-- A gap with a blank in it keeps words apart. -/
theorem words_append_gap (blank : ∀ character ∈ gap, isBlank character = true) (some : gap ≠ []) :
    words (before ++ gap ++ after) = words before ++ words after := by
  obtain ⟨first, rest, rfl⟩ := List.exists_cons_of_ne_nil some
  obtain ⟨first, others⟩ := List.forall_mem_cons.mp blank
  rw [List.append_assoc, List.cons_append, words_append_cons first, words_append_of_isBlank others]

/-- The words of a text that is lowered character by character are lowered so. -/
theorem words_map_toLower (text : List Char) :
    words (text.map Char.toLower) = (words text).map (·.map Char.toLower) := by
  have split : (text.map Char.toLower).splitOnP isBlank =
      (text.splitOnP isBlank).map (·.map Char.toLower) := by
    induction text with
    | nil => rfl
    | cons character rest inductionHypothesis =>
        rw [List.map_cons, List.splitOnP_cons_eq_if_modifyHead,
          List.splitOnP_cons_eq_if_modifyHead, isBlank_toLower, inductionHypothesis]
        split
        next => rfl
        next =>
          cases rest.splitOnP isBlank with
          | nil => rfl
          | cons word others => rfl
  rw [words, words, split, List.filter_map]
  simp only [Function.comp_def, List.isEmpty_map]

end Karel.Text
