import Karel.Text.Blank
import Karel.Text.Numeral

/-!
# Words and lines that are written are read

A word is not empty and has no blank in it. Words with one space between them are read as these
words, lines that end in a line feed are read as these lines, and a number that is written in digits
is a word that is read as this number.
-/

namespace Karel.Text

variable {character separator : Char} {text rest word line : List Char}
  {written : List (List Char)} {value : Nat}

/-- A character above the space and below the other half of the code table is not a blank. -/
theorem isBlank_eq_false (above : 0x20 < character.toNat) (below : character.toNat < 0x80) :
    isBlank character = false := by
  rw [Bool.eq_false_iff]
  intro blank
  obtain ⟨range, member, lower, upper⟩ := inRanges_iff.mp blank
  simp only [blankRanges, List.mem_cons, List.not_mem_nil, or_false] at member
  rcases member with rfl | rfl | rfl | rfl | rfl | rfl | rfl | rfl | rfl | rfl <;>
    dsimp only at lower upper <;> omega

/-- A word is not empty and has no blank in it. -/
structure IsWord (word : List Char) : Prop where
  nonempty : word ≠ []
  solid : ∀ character ∈ word, isBlank character = false

theorem isWord_of_all (nonempty : word.isEmpty = false) (solid : word.any isBlank = false) :
    IsWord word where
  nonempty := List.isEmpty_eq_false_iff.mp nonempty
  solid := by simpa using solid

theorem isWord_singleton (solid : isBlank character = false) : IsWord [character] where
  nonempty := List.cons_ne_nil _ _
  solid := by simpa using solid

theorem IsWord.cons (solid : isBlank character = false) (isWord : IsWord word) :
    IsWord (character :: word) where
  nonempty := List.cons_ne_nil _ _
  solid := by simpa using ⟨solid, isWord.solid⟩

theorem IsWord.all_isBlank (isWord : IsWord word) : word.all isBlank = false := by
  obtain ⟨first, rest, rfl⟩ := List.exists_cons_of_ne_nil isWord.nonempty
  simp [isWord.solid first List.mem_cons_self]

/-- A word is read as itself. -/
theorem IsWord.words (isWord : IsWord word) : words word = [word] := by
  unfold Text.words
  rw [List.splitOnP_eq_singleton isWord.solid]
  simp [isWord.nonempty]

theorem dropWhile_of_solid (solid : ∀ character ∈ text, isBlank character = false) :
    text.dropWhile isBlank = text := by
  cases text with
  | nil => rfl
  | cons first rest => simp [solid first List.mem_cons_self]

/-- A word has no blanks at its ends. -/
theorem IsWord.trim (isWord : IsWord word) : Text.trim word = word := by
  have reversed : ∀ character ∈ word.reverse, isBlank character = false := by
    simpa using isWord.solid
  unfold Text.trim
  rw [dropWhile_of_solid isWord.solid, dropWhile_of_solid reversed, List.reverse_reverse]

/-- A word ends at the next blank. -/
theorem IsWord.words_append (isWord : IsWord word) (blank : isBlank separator = true) :
    Text.words (word ++ separator :: rest) = word :: Text.words rest := by
  unfold Text.words
  rw [List.splitOnP_append_cons_of_forall_mem isWord.solid _ blank]
  simp [isWord.nonempty]

/-- What a text is split into has the characters of the text without those that it is split at. -/
theorem of_mem_splitOnP {separates : Char → Bool} {part : List Char}
    (member : part ∈ text.splitOnP separates) :
    ∀ character ∈ part, character ∈ text ∧ separates character = false := by
  induction text generalizing part with
  | nil =>
      rw [List.splitOnP_nil, List.mem_singleton] at member
      subst member
      exact fun _ inside => nomatch inside
  | cons first rest inductionHypothesis =>
      have later : ∀ {part}, part ∈ rest.splitOnP separates → ∀ character ∈ part,
          character ∈ first :: rest ∧ separates character = false :=
        fun member character inside =>
          (inductionHypothesis member character inside).imp_left (List.mem_cons_of_mem _)
      rw [List.splitOnP_cons_eq_if_modifyHead] at member
      split at member
      next =>
        rcases List.mem_cons.mp member with rfl | member
        · exact fun _ inside => nomatch inside
        · exact later member
      next solid =>
        cases parts : rest.splitOnP separates with
        | nil => exact absurd parts (List.splitOnP_ne_nil _ _)
        | cons part others =>
            rw [parts] at member later
            rcases List.mem_cons.mp member with rfl | member
            · rw [List.forall_mem_cons]
              exact ⟨⟨List.mem_cons_self, Bool.eq_false_iff.mpr solid⟩,
                later List.mem_cons_self⟩
            · exact later (List.mem_cons_of_mem _ member)

theorem mem_of_mem_lines (member : line ∈ lines text) : ∀ character ∈ line, character ∈ text :=
  fun character inside => (of_mem_splitOnP member character inside).1

theorem mem_of_mem_words (member : word ∈ words text) : ∀ character ∈ word, character ∈ text :=
  fun character inside => (of_mem_splitOnP (List.mem_filter.mp member).1 character inside).1

/-- The words of a text are words. -/
theorem isWord_of_mem_words (member : word ∈ words text) : IsWord word where
  nonempty := by simpa using (List.mem_filter.mp member).2
  solid character inside :=
    (of_mem_splitOnP (List.mem_filter.mp member).1 character inside).2

/-- Words with one space between them are read as these words. -/
theorem words_intercalate (each : ∀ word ∈ written, IsWord word) :
    words ([' '].intercalate written) = written := by
  induction written with
  | nil => rfl
  | cons word others inductionHypothesis =>
      obtain ⟨isWord, rest⟩ := List.forall_mem_cons.mp each
      cases others with
      | nil => simpa using isWord.words
      | cons next others =>
          rw [List.intercalate_cons_cons, List.append_assoc, List.singleton_append,
            isWord.words_append (by decide), inductionHypothesis rest]

/-- What holds of the space and of the characters of some words holds of the characters of the words
with spaces between them. -/
theorem forall_mem_intercalate {good : Char → Prop} (space : good ' ')
    (each : ∀ word ∈ written, ∀ character ∈ word, good character) :
    ∀ character ∈ [' '].intercalate written, good character := by
  induction written with
  | nil => exact fun _ member => nomatch member
  | cons word others inductionHypothesis =>
      obtain ⟨first, rest⟩ := List.forall_mem_cons.mp each
      cases others with
      | nil => simpa using first
      | cons next others =>
          rw [List.intercalate_cons_cons, List.forall_mem_append, List.forall_mem_append]
          exact ⟨⟨first, by simpa using space⟩, inductionHypothesis rest⟩

/-- Words with spaces between them stay on one line, which is not blank. -/
theorem not_mem_intercalate (each : ∀ word ∈ written, IsWord word) :
    '\n' ∉ [' '].intercalate written := by
  have solid : ∀ word ∈ written, ∀ character ∈ word, character ≠ '\n' := by
    rintro word inside character member rfl
    exact absurd ((each word inside).solid _ member) (by decide)
  exact fun member => forall_mem_intercalate (by decide) solid _ member rfl

theorem all_isBlank_intercalate (each : ∀ word ∈ written, IsWord word) (some : written ≠ []) :
    ([' '].intercalate written).all isBlank = false := by
  obtain ⟨first, others, rfl⟩ := List.exists_cons_of_ne_nil some
  have visible := (each first List.mem_cons_self).all_isBlank
  cases others with
  | nil => simpa using visible
  | cons next others =>
      rw [List.intercalate_cons_cons]
      simp only [List.all_append, visible, Bool.false_and]

/-- Lines that end in a line feed are read as these lines, and an empty one after the last. -/
theorem lines_flatMap (each : ∀ line ∈ written, '\n' ∉ line) :
    lines (written.flatMap (· ++ ['\n'])) = written ++ [[]] := by
  induction written with
  | nil => rfl
  | cons line others inductionHypothesis =>
      obtain ⟨first, rest⟩ := List.forall_mem_cons.mp each
      have whole : ∀ character ∈ line, (character == '\n') = false := by
        intro character member
        rw [beq_eq_false_iff_ne]
        rintro rfl
        exact first member
      have split := List.splitOnP_append_cons_of_forall_mem whole '\n' rfl
        (others.flatMap (· ++ ['\n']))
      rw [List.flatMap_cons, List.append_assoc, List.singleton_append]
      exact split.trans (congrArg (line :: ·) (inductionHypothesis rest))

namespace Numeral

theorem isWord_toDigits (value : Nat) : IsWord (Nat.toDigits 10 value) where
  nonempty := Nat.toDigits_ne_nil
  solid := by
    intro digit member
    have isDigit := Nat.isDigit_of_mem_toDigits (by decide) (by decide) member
    rw [Char.isDigit_iff_toNat] at isDigit
    have zero : '0'.toNat = 0x30 := rfl
    have nine : '9'.toNat = 0x39 := rfl
    exact isBlank_eq_false (by omega) (by omega)

/-- Digits do not start with a sign. -/
theorem toDigits_ne_cons {sign : Char} (noDigit : sign.isDigit = false) :
    Nat.toDigits 10 value ≠ sign :: rest := by
  intro signed
  have member : sign ∈ Nat.toDigits 10 value := signed ▸ List.mem_cons_self
  have isDigit := Nat.isDigit_of_mem_toDigits (by decide) (by decide) member
  rw [noDigit] at isDigit
  cases isDigit

/-- Reads back what is written for a natural number, where a sign may stand before it. -/
theorem unsigned?_toDigits (value : Nat) : unsigned? (Nat.toDigits 10 value) = some value := by
  unfold unsigned?
  split
  next signed => exact absurd signed (toDigits_ne_cons rfl)
  next => exact natural?_toDigits value

theorem toList_toString_nat (value : Nat) : (toString value).toList = Nat.toDigits 10 value := by
  rw [Nat.toString_eq_repr, Nat.repr_eq_ofList_toDigits, String.toList_ofList]

theorem isWord_toString_nat (value : Nat) : IsWord (toString value).toList := by
  rw [toList_toString_nat]
  exact isWord_toDigits value

/-- A whole number is written in digits, after a minus sign if it is negative. -/
theorem toList_toString (value : Int) :
    (toString value).toList =
      if 0 ≤ value then Nat.toDigits 10 value.toNat
      else '-' :: Nat.toDigits 10 (-value).toNat := by
  rw [Int.toString_eq_repr, Int.repr_eq_if]
  split
  next => rw [Nat.repr_eq_ofList_toDigits, String.toList_ofList]
  next =>
    rw [String.toList_append, Nat.repr_eq_ofList_toDigits, String.toList_ofList,
      String.toList_ofList, List.singleton_append]

theorem isWord_toString (value : Int) : IsWord (toString value).toList := by
  rw [toList_toString]
  split
  next => exact isWord_toDigits _
  next => exact (isWord_toDigits _).cons (by decide)

/-- Reads back what is written for a whole number. -/
theorem integer?_toString (value : Int) : integer? (toString value).toList = some value := by
  rw [toList_toString]
  split
  next nonneg =>
    unfold integer?
    split
    next signed => exact absurd signed (toDigits_ne_cons rfl)
    next signed => exact absurd signed (toDigits_ne_cons rfl)
    next =>
      rw [natural?_toDigits, Option.map_some, Int.ofNat_eq_natCast, Int.toNat_of_nonneg nonneg]
  next negative =>
    show (natural? _).map _ = _
    rw [natural?_toDigits, Option.map_some, Option.some.injEq, Int.ofNat_eq_natCast]
    omega

end Numeral

end Karel.Text
