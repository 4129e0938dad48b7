import Karel.Coordinate

/-!
# Coordinates in whole numbers

What the word operations on coordinates compute, said in whole numbers. A plain sum or difference is
the one of whole numbers exactly while it stays in the range of a coordinate, and then the checked
operation gives it too; stopping at an end only matters on the side of that end.
-/

namespace Karel.Coordinate

variable (left right : Coordinate)

/-- The least coordinate. -/
def least : Int := -2147483648

/-- The greatest coordinate. -/
def greatest : Int := 2147483647

theorem least_le (coordinate : Coordinate) : least ≤ coordinate.toInt := coordinate.le_toInt

theorem le_greatest (coordinate : Coordinate) : coordinate.toInt ≤ greatest := by
  have upper := coordinate.toInt_lt
  unfold greatest
  omega

theorem toInt_add_of_bounds (lower : least ≤ left.toInt + right.toInt)
    (upper : left.toInt + right.toInt ≤ greatest) :
    (left + right).toInt = left.toInt + right.toInt := by
  unfold least at lower
  unfold greatest at upper
  rw [Int32.toInt_add, Int.bmod_eq_of_le (by omega) (by omega)]

theorem toInt_sub_of_bounds (lower : least ≤ left.toInt - right.toInt)
    (upper : left.toInt - right.toInt ≤ greatest) :
    (left - right).toInt = left.toInt - right.toInt := by
  unfold least at lower
  unfold greatest at upper
  rw [Int32.toInt_sub, Int.bmod_eq_of_le (by omega) (by omega)]

/-- What is the sum in whole numbers is the plain sum. -/
theorem eq_add_of_toInt {sum : Coordinate} (exact : sum.toInt = left.toInt + right.toInt) :
    sum = left + right := by
  rw [← Int32.toInt_inj, toInt_add_of_bounds _ _ (exact ▸ least_le sum) (exact ▸ le_greatest sum),
    exact]

/-- What is the difference in whole numbers is the plain difference. -/
theorem eq_sub_of_toInt {difference : Coordinate}
    (exact : difference.toInt = left.toInt - right.toInt) : difference = left - right := by
  rw [← Int32.toInt_inj, toInt_sub_of_bounds _ _ (exact ▸ least_le difference)
    (exact ▸ le_greatest difference), exact]

/-- A natural number that is not greater than the greatest coordinate is one. -/
theorem toInt_ofNat {value : Nat} (upper : value ≤ greatest) :
    (Int32.ofNat value).toInt = value := by
  unfold greatest at upper
  exact Int32.toInt_ofNat_of_lt (by omega)

/-- No other natural number is told by its word. -/
theorem toInt_ofNat_iff {value : Nat} : (Int32.ofNat value).toInt = value ↔ value ≤ greatest := by
  constructor
  · intro exact
    rw [← exact]
    exact le_greatest _
  · exact toInt_ofNat

/-- A plain sum with a natural number is that of whole numbers if it stays in the range. -/
theorem toInt_add_ofNat (index : Nat) (upper : left.toInt + index ≤ greatest) :
    (left + .ofNat index).toInt = left.toInt + index := by
  have lower := least_le left
  have size : Int32.size = 4294967296 := rfl
  unfold least at lower
  unfold greatest at upper
  rw [Int32.toInt_add, Int32.toInt_ofNat', size, Int.add_bmod_bmod,
    Int.bmod_eq_of_le (by omega) (by omega)]

/-- A range has exactly the coordinates between its ends. -/
theorem mem_range_iff {first last value : Coordinate} :
    value ∈ range first last ↔ first.toInt ≤ value.toInt ∧ value.toInt ≤ last.toInt := by
  have upper := le_greatest last
  unfold range
  rw [List.mem_map]
  constructor
  · rintro ⟨index, member, rfl⟩
    rw [List.mem_range] at member
    rw [toInt_add_ofNat first index (by omega)]
    omega
  · rintro ⟨lower, above⟩
    refine ⟨(value.toInt - first.toInt).toNat, by rw [List.mem_range]; omega, ?_⟩
    rw [← Int32.toInt_inj, toInt_add_ofNat first _ (by omega)]
    omega

/-- A coordinate that is not negative is a natural number. -/
theorem ofNat_toNat {coordinate : Coordinate} (nonneg : 0 ≤ coordinate.toInt) :
    .ofNat coordinate.toInt.toNat = coordinate := by
  have upper := le_greatest coordinate
  rw [← Int32.toInt_inj, toInt_ofNat (by omega)]
  omega

/-- The coordinates of an axis of some size that starts at zero. -/
theorem range_zero {size : Coordinate} (positive : 0 < size.toInt) :
    range 0 (size - 1) = (List.range size.toInt.toNat).map .ofNat := by
  have one : (1 : Coordinate).toInt = 1 := rfl
  have zero : (0 : Coordinate).toInt = 0 := rfl
  have lower : least ≤ 0 := by decide
  have upper := le_greatest size
  unfold range
  rw [toInt_sub_of_bounds _ _ (by omega) (by omega), one, zero,
    show size.toInt - 1 - 0 + 1 = size.toInt by omega]
  exact List.map_congr_left fun index _ => Int32.zero_add _

variable {left right}

/-- The checked sum is the plain one if that does not wrap around. -/
theorem add?_eq_add (exact : (left + right).toInt = left.toInt + right.toInt) :
    add? left right = some (left + right) :=
  add?_eq_some_iff.mpr exact

/-- The checked difference is the plain one if that does not wrap around. -/
theorem sub?_eq_sub (exact : (left - right).toInt = left.toInt - right.toInt) :
    sub? left right = some (left - right) :=
  sub?_eq_some_iff.mpr exact

variable (left right)

theorem toInt_addClamped :
    (addClamped left right).toInt = max least (min (left.toInt + right.toInt) greatest) :=
  toInt_clamp _

theorem toInt_subClamped :
    (subClamped left right).toInt = max least (min (left.toInt - right.toInt) greatest) :=
  toInt_clamp _

@[simp]
theorem addClamped_zero (coordinate : Coordinate) : addClamped coordinate 0 = coordinate := by
  have lower := least_le coordinate
  have upper := le_greatest coordinate
  have zero : (0 : Coordinate).toInt = 0 := rfl
  rw [← Int32.toInt_inj, toInt_addClamped, zero]
  omega

theorem toInt_min : (min left right).toInt = min left.toInt right.toInt := by
  rw [show min left right = if left ≤ right then left else right from rfl]
  simp only [Int32.le_iff_toInt_le]
  split <;> omega

theorem toInt_max : (max left right).toInt = max left.toInt right.toInt := by
  rw [show max left right = if left ≤ right then right else left from rfl]
  simp only [Int32.le_iff_toInt_le]
  split <;> omega

theorem max_eq_left {left right : Coordinate} (order : right.toInt ≤ left.toInt) :
    max left right = left := by
  rw [← Int32.toInt_inj, toInt_max]
  omega

/-- The number of coordinates from the first to the last, both included. -/
def count (first last : Coordinate) : Nat := (last.toInt - first.toInt + 1).toNat

/-- From a coordinate that is not negative to one before the end of the axis, the number of
coordinates is a coordinate. -/
theorem count_le {first last : Coordinate} (nonneg : 0 ≤ first.toInt)
    (bounded : last.toInt < greatest) : count first last ≤ greatest := by
  have positive : 0 ≤ greatest := by decide
  unfold count
  omega

/-- A word tells the number of coordinates exactly if it denotes that number. -/
theorem count?_eq_some_iff {first last size : Coordinate} (order : first.toInt ≤ last.toInt) :
    count? first last = some size ↔ size.toInt = count first last := by
  have one : (1 : Coordinate).toInt = 1 := rfl
  simp only [count?, Option.bind_eq_some_iff, sub?_eq_some_iff, add?_eq_some_iff, count, one]
  constructor
  · rintro ⟨difference, between, sum⟩
    omega
  · intro counted
    have low : least ≤ 0 := by decide
    have high := size.le_greatest
    have between := toInt_sub_of_bounds last first (by omega) (by omega)
    exact ⟨last - first, between, by omega⟩

/-- A number of coordinates that is a coordinate is told. -/
theorem count?_of_le {first last : Coordinate} (order : first.toInt ≤ last.toInt)
    (fits : count first last ≤ greatest) : count? first last = some (.ofNat (count first last)) :=
  (count?_eq_some_iff order).mpr (toInt_ofNat fits)

/-- Half of a coordinate that is not negative. -/
theorem toInt_half (coordinate : Coordinate) (nonneg : 0 ≤ coordinate.toInt) :
    (coordinate / 2).toInt = coordinate.toInt / 2 := by
  rw [Int32.toInt_div_of_ne_right _ _ (by decide), show (2 : Coordinate).toInt = 2 from rfl,
    Int.tdiv_eq_ediv_of_nonneg nonneg]

end Karel.Coordinate
