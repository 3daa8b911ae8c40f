import PagedKernel.Action

/-!
Contract: reservation of physical frames.

Owns:
- the request for a run of frames, which is granted from the bottom of the free
  frames if it ends at or below both the pool's total and the caller's limit,
  and otherwise changes nothing;
- the decision on a request by a sum of machine sizes, and that it is the one by
  exact numbers wherever the bound is a machine size (`end?_eq_some_iff`).
-/

namespace PagedKernel.FramePool

open PagedKernel.Action

/-- The frames that a request with this limit may not pass. -/
def bound (pool : FramePool) (limit : Nat) : Nat := min pool.total limit

/-- The end of the next `count` frames, if it is a machine size and does not pass the bound. -/
def end? (pool : FramePool) (count limit : Nat) : Option Nat :=
  (Size.add pool.committed count).toOption.filter (· ≤ pool.bound limit)

def take (pool : FramePool) (count : Nat) : FramePool :=
  { pool with committed := pool.committed + count }

def shortage (pool : FramePool) (count limit : Nat) : FrameShortage :=
  ⟨count, pool.committed, pool.bound limit⟩

/-- Answers with the first of `count` consecutive frames, none of them past `limit`. -/
def reserveWithin (count limit : Nat) : Action FramePool FrameShortage Nat := do
  let pool ← view id
  match pool.end? count limit with
  | some past =>
      update fun pool => { pool with committed := past }
      emit (.framesReserved pool.committed past)
      return pool.committed
  | none =>
      emit (.framesRefused (pool.shortage count limit))
      fail (pool.shortage count limit)

/-- Answers with the first of `count` consecutive frames of the pool. -/
def reserve (count : Nat) : Action FramePool FrameShortage Nat := do
  reserveWithin count (← view (·.total))

/-! ### The decision on a request -/

variable {pool : FramePool} {count limit past : Nat}

theorem end?_eq_some (found : pool.end? count limit = some past) :
    past = pool.committed + count ∧ past ≤ pool.bound limit := by
  obtain ⟨sum, fits⟩ := Option.filter_eq_some_iff.mp found
  cases added : Size.add pool.committed count with
  | error cause =>
      rw [added] at sum
      cases sum
  | ok exact =>
      rw [added] at sum
      cases sum
      exact ⟨(Size.below_eq_ok_iff.mp added).2, of_decide_eq_true fits⟩

/-- Below a bound that is a machine size, a sum that is none is past the bound. -/
theorem end?_eq_some_iff (sized : pool.bound limit < Size.limit) :
    pool.end? count limit = some past ↔
      past = pool.committed + count ∧ pool.committed + count ≤ pool.bound limit := by
  constructor
  · intro found
    obtain ⟨rfl, fits⟩ := end?_eq_some found
    exact ⟨rfl, fits⟩
  · rintro ⟨rfl, fits⟩
    rw [end?, Size.add_of_lt (Nat.lt_of_le_of_lt fits sized)]
    exact Option.filter_eq_some_iff.mpr ⟨rfl, decide_eq_true fits⟩

/-! ### The two cases of a request -/

theorem run_reserveWithin_of_some (found : pool.end? count limit = some past) :
    (reserveWithin count limit).run pool =
      .ok ⟨.ok pool.committed, pool.take count, [.framesReserved pool.committed past]⟩ := by
  have sum := (end?_eq_some found).1
  simp [reserveWithin, run_bind, run_map, found, take, sum, Except.map, Report.after]

theorem run_reserveWithin_of_none (missing : pool.end? count limit = none) :
    (reserveWithin count limit).run pool =
      .ok ⟨.error (pool.shortage count limit), pool,
        [.framesRefused (pool.shortage count limit)]⟩ := by
  simp [reserveWithin, run_bind, missing, Except.map, Report.after]

theorem run_reserveWithin_of_le (sized : pool.bound limit < Size.limit)
    (fits : pool.committed + count ≤ pool.bound limit) :
    (reserveWithin count limit).run pool =
      .ok ⟨.ok pool.committed, pool.take count,
        [.framesReserved pool.committed (pool.committed + count)]⟩ :=
  run_reserveWithin_of_some ((end?_eq_some_iff sized).mpr ⟨rfl, fits⟩)

theorem run_reserveWithin_of_lt (short : pool.bound limit < pool.committed + count) :
    (reserveWithin count limit).run pool =
      .ok ⟨.error (pool.shortage count limit), pool,
        [.framesRefused (pool.shortage count limit)]⟩ := by
  apply run_reserveWithin_of_none
  rw [Option.eq_none_iff_forall_not_mem]
  intro past found
  obtain ⟨rfl, fits⟩ := end?_eq_some found
  exact Nat.not_le.mpr short fits

/-- Whatever the total of the pool is, a request is granted below its bound, or changes nothing. -/
theorem reserveWithin_cases (pool : FramePool) (count limit : Nat) :
    (pool.committed + count ≤ pool.bound limit ∧
      (reserveWithin count limit).run pool =
        .ok ⟨.ok pool.committed, pool.take count,
          [.framesReserved pool.committed (pool.committed + count)]⟩) ∨
    (reserveWithin count limit).run pool =
      .ok ⟨.error (pool.shortage count limit), pool,
        [.framesRefused (pool.shortage count limit)]⟩ := by
  cases found : pool.end? count limit with
  | some past =>
      obtain ⟨rfl, fits⟩ := end?_eq_some found
      exact Or.inl ⟨fits, run_reserveWithin_of_some found⟩
  | none => exact Or.inr (run_reserveWithin_of_none found)

theorem run_reserve : (reserve count).run pool = (reserveWithin count pool.total).run pool := by
  simp only [reserve, run_bind, run_view]
  exact map_after_nil _

end PagedKernel.FramePool
