/-!
Contract: machine sizes and the arithmetic on them.

Owns:
- the ways in which a computation can bring the kernel down;
- sums, differences, products and rounded quotients of 64-bit sizes, each
  stopping the kernel where the exact result is no 64-bit size.

A size is a `Nat`. The operations below are the only place where the width of
a machine word enters, so every other module computes with exact numbers.

Does not own: 32-bit words (`Word`), or any limit that a geometry sets.
-/

namespace PagedKernel

/-- Why the kernel stopped. Nothing of the interrupted call survives a crash. -/
inductive Crash where
  /-- An exact result does not fit its machine word. -/
  | overflow
  | divisionByZero
  /-- An index or a range outside an array. -/
  | outOfBounds
  /-- A memory too large to be addressed by signed offsets. -/
  | capacity
  /-- A condition that the caller promised does not hold. -/
  | brokenPromise
deriving DecidableEq, Repr

/-- A computation that may bring the kernel down. -/
abbrev Checked : Type → Type := Except Crash

namespace Size

/-- Sizes lie below this number. -/
def limit : Nat := UInt64.size

/-- Stops the kernel unless `value` lies below `bound`. -/
def below (bound value : Nat) : Checked Nat :=
  if value < bound then .ok value else .error .overflow

def add (left right : Nat) : Checked Nat :=
  below limit (left + right)

def mul (left right : Nat) : Checked Nat :=
  below limit (left * right)

/-- The difference, where it is not negative. -/
def sub (left right : Nat) : Checked Nat :=
  if right ≤ left then .ok (left - right) else .error .overflow

/-- The least number of `unit`-sized pieces that hold `total`. -/
def ceilDiv (total unit : Nat) : Checked Nat :=
  if unit = 0 then .error .divisionByZero else .ok ((total + (unit - 1)) / unit)

theorem below_eq_ok_iff {bound value result : Nat} :
    below bound value = .ok result ↔ value < bound ∧ result = value := by
  by_cases small : value < bound <;> simp [below, small, eq_comm]

theorem below_of_lt {bound value : Nat} (small : value < bound) :
    below bound value = .ok value := by
  simp [below, small]

theorem below_of_le {bound value : Nat} (large : bound ≤ value) :
    below bound value = .error .overflow := by
  simp [below, Nat.not_lt.mpr large]

theorem add_of_lt {left right : Nat} (small : left + right < limit) :
    add left right = .ok (left + right) :=
  below_of_lt small

theorem mul_of_lt {left right : Nat} (small : left * right < limit) :
    mul left right = .ok (left * right) :=
  below_of_lt small

theorem sub_of_le {left right : Nat} (ordered : right ≤ left) :
    sub left right = .ok (left - right) := by
  simp [sub, ordered]

theorem ceilDiv_of_pos {total unit : Nat} (positive : 0 < unit) :
    ceilDiv total unit = .ok ((total + (unit - 1)) / unit) := by
  simp [ceilDiv, Nat.ne_of_gt positive]

/-- The rounded quotient is the least sufficient number of pieces. -/
theorem ceilDiv_le_iff {total unit pieces count : Nat}
    (divided : ceilDiv total unit = .ok pieces) :
    pieces ≤ count ↔ total ≤ count * unit := by
  unfold ceilDiv at divided
  split at divided
  · simp at divided
  · rename_i nonzero
    have positive : 0 < unit := Nat.pos_of_ne_zero nonzero
    simp only [Except.ok.injEq] at divided
    subst divided
    rw [← Nat.lt_succ_iff, Nat.div_lt_iff_lt_mul positive, Nat.succ_mul]
    omega

end Size

end PagedKernel
