/-!
# Coordinates

A coordinate is a 32-bit signed word. Plain word arithmetic wraps around at the two ends of the
range, so every place where a coordinate may meet an end names what happens there: `add?`, `sub?` and
`count?` refuse, `addClamped` and `subClamped` stop at the end. The lemmas say each of them in whole
numbers.
-/

namespace Karel

/-- A position along one axis of the plane. -/
abbrev Coordinate := Int32

namespace Coordinate

/-- The word of a whole number, if the number is in the range of a coordinate. -/
def ofInt? (value : Int) : Option Coordinate :=
  if -2147483648 ≤ value ∧ value ≤ 2147483647 then some (Int32.ofInt value) else none

/-- The word nearest to a whole number. -/
def clamp (value : Int) : Coordinate :=
  Int32.ofInt (max (-2147483648) (min value 2147483647))

/-- The sum of two coordinates, if it is a coordinate. -/
def add? (left right : Coordinate) : Option Coordinate :=
  ofInt? (left.toInt + right.toInt)

/-- The difference of two coordinates, if it is a coordinate. -/
def sub? (left right : Coordinate) : Option Coordinate :=
  ofInt? (left.toInt - right.toInt)

/-- The sum of two coordinates, or the end of the range it lies beyond. -/
def addClamped (left right : Coordinate) : Coordinate :=
  clamp (left.toInt + right.toInt)

/-- The difference of two coordinates, or the end of the range it lies beyond. -/
def subClamped (left right : Coordinate) : Coordinate :=
  clamp (left.toInt - right.toInt)

/-- The number of coordinates from the first to the last, both included, if it and the difference of
the two are coordinates. -/
def count? (first last : Coordinate) : Option Coordinate :=
  (sub? last first).bind fun difference => add? difference 1

/-- The coordinates from the first to the last, both included. -/
def range (first last : Coordinate) : List Coordinate :=
  (List.range (last.toInt - first.toInt + 1).toNat).map fun index => first + .ofNat index

/-- A word is found for a whole number exactly if it denotes that number. -/
theorem ofInt?_eq_some_iff {value : Int} {word : Coordinate} :
    ofInt? value = some word ↔ word.toInt = value := by
  have lower := word.le_toInt
  have upper := word.toInt_lt
  unfold ofInt?
  split
  next inside =>
    have exact : (Int32.ofInt value).toInt = value := Int32.toInt_ofInt_of_le (by omega) (by omega)
    rw [Option.some.injEq, ← Int32.toInt_inj, exact]
    exact eq_comm
  next outside =>
    simp only [reduceCtorEq, false_iff]
    omega

/-- The nearest word denotes the number moved to the nearer end of the range. -/
theorem toInt_clamp (value : Int) :
    (clamp value).toInt = max (-2147483648) (min value 2147483647) := by
  unfold clamp
  exact Int32.toInt_ofInt_of_le (by omega) (by omega)

theorem add?_eq_some_iff {left right sum : Coordinate} :
    add? left right = some sum ↔ sum.toInt = left.toInt + right.toInt :=
  ofInt?_eq_some_iff

theorem sub?_eq_some_iff {left right difference : Coordinate} :
    sub? left right = some difference ↔ difference.toInt = left.toInt - right.toInt :=
  ofInt?_eq_some_iff

end Coordinate

end Karel
