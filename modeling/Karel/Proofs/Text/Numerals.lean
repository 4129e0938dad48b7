import Karel.Text.Numeral
import Mathlib.Data.List.Forall2

/-!
# The grammar of numerals

Which words are read as which numbers: digits, of which there is at least one, that may follow a sign.
Leading zeros do not matter. Letters of a keyword may be written in either case, which for ASCII
letters is that they have the same lower case.
-/

namespace Karel.Text

/-- The code of a lower case letter is that of the upper case letter and 32. -/
theorem toNat_toLower (character : Char) : character.toLower.toNat =
    if 65 ≤ character.toNat ∧ character.toNat ≤ 90 then character.toNat + 32
    else character.toNat := by
  have bounds : character.val ≥ 'A'.val ∧ character.val ≤ 'Z'.val ↔
      65 ≤ character.toNat ∧ character.toNat ≤ 90 := by
    simp only [ge_iff_le, UInt32.le_iff_toNat_le]
    exact Iff.rfl
  unfold Char.toLower
  split
  next upper =>
    rw [if_pos (bounds.mp upper)]
    have small := (bounds.mp upper).2
    have shifted : (character.val + ('a'.val - 'A'.val)).toNat =
        (character.val.toNat + 32) % 4294967296 := UInt32.toNat_add _ _
    change (character.val + ('a'.val - 'A'.val)).toNat = character.val.toNat + 32
    change character.val.toNat ≤ 90 at small
    omega
  next other => rw [if_neg (mt bounds.mpr other)]

/-- An upper case letter and what has the same lower case. -/
theorem toLower_eq_toLower_iff {letter character : Char}
    (upper : 65 ≤ letter.toNat ∧ letter.toNat ≤ 90) :
    character.toLower = letter.toLower ↔ character = letter ∨ character = letter.toLower := by
  simp only [← Char.toNat_inj, toNat_toLower, if_pos upper]
  split <;> omega

/-- Whether a word is a keyword of upper case letters, each of them in either case. -/
def SpellsKeyword (keyword word : List Char) : Prop :=
  List.Forall₂ (fun letter character => character = letter ∨ character = letter.toLower) keyword word

theorem spellsKeyword_iff {keyword word : List Char}
    (upper : ∀ letter ∈ keyword, 65 ≤ letter.toNat ∧ letter.toNat ≤ 90) :
    SpellsKeyword keyword word ↔ word.map Char.toLower = keyword.map Char.toLower := by
  unfold SpellsKeyword
  induction keyword generalizing word with
  | nil => simp
  | cons letter rest inductionHypothesis =>
      obtain ⟨first, others⟩ := List.forall_mem_cons.mp upper
      cases word with
      | nil => simp
      | cons character word =>
          simp [inductionHypothesis others, toLower_eq_toLower_iff first]

namespace Numeral

/-- Digits, of which there is at least one, that write a number. -/
structure WritesNatural (digits : List Char) (value : Nat) : Prop where
  some : digits ≠ []
  each : ∀ digit ∈ digits, digit.isDigit = true
  value_eq : Nat.ofDigitChars 10 digits 0 = value

/-- Digits, perhaps after a sign, that write a number. -/
inductive WritesInteger : List Char → Int → Prop
  | plain {digits value} (writes : WritesNatural digits value) : WritesInteger digits value
  | plus {digits value} (writes : WritesNatural digits value) :
      WritesInteger ('+' :: digits) value
  | minus {digits value} (writes : WritesNatural digits value) :
      WritesInteger ('-' :: digits) (-value)

/-- Digits, perhaps after a plus sign, that write a number. -/
inductive WritesUnsigned : List Char → Nat → Prop
  | plain {digits value} (writes : WritesNatural digits value) : WritesUnsigned digits value
  | plus {digits value} (writes : WritesNatural digits value) :
      WritesUnsigned ('+' :: digits) value

variable {word digits : List Char} {value : Nat}

theorem natural?_eq_some_iff_writes : natural? digits = some value ↔ WritesNatural digits value := by
  unfold natural?
  constructor
  · intro read
    split at read
    next written =>
      simp only [Bool.and_eq_true, Bool.not_eq_true', List.isEmpty_eq_false_iff,
        List.all_eq_true] at written
      exact ⟨written.1, written.2, Option.some.inj read⟩
    next => cases read
  · rintro ⟨some, each, rfl⟩
    refine if_pos ?_
    simpa [List.all_eq_true] using And.intro some each

/-- A sign is not a digit. -/
theorem WritesNatural.head_ne {first : Char} {rest : List Char}
    (writes : WritesNatural (first :: rest) value) : first ≠ '+' ∧ first ≠ '-' := by
  have digit := writes.each first List.mem_cons_self
  constructor <;> rintro rfl <;> cases digit

theorem integer?_eq_some_iff_writes {value : Int} :
    integer? word = some value ↔ WritesInteger word value := by
  constructor
  · intro read
    unfold integer? at read
    split at read <;> obtain ⟨number, written, rfl⟩ := Option.map_eq_some_iff.mp read
    · exact .plus (natural?_eq_some_iff_writes.mp written)
    · exact .minus (natural?_eq_some_iff_writes.mp written)
    · exact .plain (natural?_eq_some_iff_writes.mp written)
  · intro writes
    cases writes with
    | @plain _ number writes =>
        have read := natural?_eq_some_iff_writes.mpr writes
        unfold integer?
        split
        next => exact absurd rfl writes.head_ne.1
        next => exact absurd rfl writes.head_ne.2
        next => exact Option.map_eq_some_iff.mpr ⟨number, read, rfl⟩
    | @plus _ number writes =>
        exact Option.map_eq_some_iff.mpr ⟨number, natural?_eq_some_iff_writes.mpr writes, rfl⟩
    | @minus _ number writes =>
        exact Option.map_eq_some_iff.mpr ⟨number, natural?_eq_some_iff_writes.mpr writes, rfl⟩

theorem unsigned?_eq_some_iff_writes : unsigned? word = some value ↔ WritesUnsigned word value := by
  constructor
  · intro read
    unfold unsigned? at read
    split at read
    · exact .plus (natural?_eq_some_iff_writes.mp read)
    · exact .plain (natural?_eq_some_iff_writes.mp read)
  · intro writes
    cases writes with
    | plain writes =>
        have read := natural?_eq_some_iff_writes.mpr writes
        unfold unsigned?
        split
        next => exact absurd rfl writes.head_ne.1
        next => exact read
    | plus writes => exact natural?_eq_some_iff_writes.mpr writes

end Numeral

end Karel.Text
