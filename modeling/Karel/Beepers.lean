/-!
# Beepers

Beepers are counted in 32-bit words. They lie on cells in piles, which are never empty, and Karel
carries them in a bag, which may be bottomless. Both stop growing at the greatest count.
-/

namespace Karel

/-- A number of beepers. -/
abbrev BeeperCount := UInt32

namespace BeeperCount

/-- One beeper more, except at the greatest count, which stays. -/
def more (count : BeeperCount) : BeeperCount :=
  if count < 4294967295 then count + 1 else count

theorem toNat_more (count : BeeperCount) : count.more.toNat = min (count.toNat + 1) 4294967295 := by
  have bound := count.toNat_lt
  unfold more
  split
  next below =>
    have small : count.toNat < 4294967295 := UInt32.lt_iff_toNat_lt.mp below
    rw [UInt32.toNat_add, UInt32.toNat_one]
    omega
  next above =>
    have great : ¬ count.toNat < 4294967295 := fun small => above (UInt32.lt_iff_toNat_lt.mpr small)
    omega

theorem more_ne_zero (count : BeeperCount) : count.more ≠ 0 := by
  intro zero
  have value := count.toNat_more
  rw [zero, UInt32.toNat_zero] at value
  omega

end BeeperCount

/-- The beepers on one cell: at least one. -/
structure Pile where
  count : BeeperCount
  count_ne_zero : count ≠ 0
deriving DecidableEq

namespace Pile

/-- The pile of so many beepers, if there are any. -/
def ofCount? (count : BeeperCount) : Option Pile :=
  if positive : count ≠ 0 then some ⟨count, positive⟩ else none

/-- The smallest pile. -/
def single : Pile := ⟨1, by decide⟩

/-- The pile with one beeper more. -/
def grow (pile : Pile) : Pile := ⟨pile.count.more, pile.count.more_ne_zero⟩

end Pile

/-- What Karel carries. -/
inductive Bag
  /-- A bag that never runs out of beepers. -/
  | unlimited
  | counted (count : BeeperCount)
deriving DecidableEq

namespace Bag

/-- Whether a beeper can be taken out of the bag. -/
def hasBeeper : Bag → Bool
  | unlimited => true
  | counted count => decide (0 < count)

/-- The bag after one beeper was put into it. -/
def gain : Bag → Bag
  | unlimited => unlimited
  | counted count => counted count.more

/-- The bag after one beeper was taken out of it, unless it is empty. -/
def spend? : Bag → Option Bag
  | unlimited => some unlimited
  | counted count => if count = 0 then none else some (counted (count - 1))

end Bag

end Karel
