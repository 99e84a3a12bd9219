/-!
# ComponentSpec.Number.Power

The powers of the two bases in which numbers are held and written.
-/

namespace ComponentSpec

/-- The `n`-th power of two. -/
def twoTo (n : Nat) : Nat := Nat.pow 2 n

/-- The `n`-th power of ten. -/
def tenTo (n : Nat) : Nat := Nat.pow 10 n

theorem twoTo_succ (n : Nat) : twoTo (n + 1) = twoTo n * 2 := rfl

theorem tenTo_succ (n : Nat) : tenTo (n + 1) = tenTo n * 10 := rfl

theorem twoTo_pos (n : Nat) : 0 < twoTo n := Nat.pow_pos (by decide)

theorem tenTo_pos (n : Nat) : 0 < tenTo n := Nat.pow_pos (by decide)

end ComponentSpec
