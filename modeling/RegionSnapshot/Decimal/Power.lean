/-
Powers of two and of ten, the weights of binary and of decimal places.
-/
namespace RegionSnapshot

/-- Two times itself, `n` times in all. -/
def twoTo (n : Nat) : Nat :=
  Nat.pow 2 n

/-- Ten times itself, `n` times in all. -/
def tenTo (n : Nat) : Nat :=
  Nat.pow 10 n

end RegionSnapshot
