/-! Rounding of exact rationals: to the nearest integer, and to a bounded number of binary
digits. -/
namespace RobotSoccer

/-- The largest `k` with `2 ^ k ≤ q`, for a positive `q`. -/
def binaryExponent (q : Rat) : Int :=
  let k := (Nat.log2 q.num.natAbs : Int) - Nat.log2 q.den
  if (2 : Rat) ^ k ≤ q then k else k - 1

/-- The integer nearest to `q`, the even one if two are equally near. -/
def nearestEven (q : Rat) : Int :=
  let low := q.floor
  let rest := q - low
  if rest < 1 / 2 then low
  else if 1 / 2 < rest then low + 1
  else low + low % 2

/-- The largest natural number whose square is at most `n`. -/
def squareRootFloor (n : Nat) : Nat :=
  if n = 0 then 0
  else
    let r := 2 * squareRootFloor (n / 4)
    if (r + 1) * (r + 1) ≤ n then r + 1 else r
termination_by n

theorem squareRootFloor_le (n : Nat) : squareRootFloor n * squareRootFloor n ≤ n := by
  fun_induction squareRootFloor n with
  | case1 => simp
  | case2 n _ r h => simpa using h
  | case3 n _ r _ ih =>
    have : r * r = 4 * (squareRootFloor (n / 4) * squareRootFloor (n / 4)) := by
      simp only [r]; grind
    omega

theorem lt_squareRootFloor_succ (n : Nat) :
    n < (squareRootFloor n + 1) * (squareRootFloor n + 1) := by
  fun_induction squareRootFloor n with
  | case1 => simp
  | case2 n _ r h ih =>
    have : (r + 1 + 1) * (r + 1 + 1) =
        4 * ((squareRootFloor (n / 4) + 1) * (squareRootFloor (n / 4) + 1)) := by
      simp only [r]; grind
    omega
  | case3 n _ r h ih => omega

example : nearestEven (5 / 2) = 2 ∧ nearestEven (-7 / 2) = -4 ∧ nearestEven (7 / 4) = 2 := by
  decide +kernel
example : squareRootFloor 99 = 9 ∧ squareRootFloor 100 = 10 := by decide +kernel

end RobotSoccer
