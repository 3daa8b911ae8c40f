import PagedKernel.Proofs.Platform.Accounts

/-!
Contract: the frames that a pool gives out over any sequence of requests.

Owns:
- requests as data, with or without a limit of their own, and the runs of frames
  that were granted by the turns of a sequence;
- what a pool owes to a single request (`FramePool.Served`);
- the partition of the taken frames by the runs granted, and the requests that
  can never be granted again (`FramePool.Partitioned`).

Does not own: who the frames are for (`Platform.Accounts`).
-/

namespace PagedKernel.FramePool

open PagedKernel.Action

variable {pool : FramePool} {total : Nat}

/-! ### A single request -/

/-- A request for frames, within the pool or within a limit that may be lower. -/
inductive Request where
  | reserve (count : Nat)
  | reserveWithin (count limit : Nat)
deriving DecidableEq, Repr

namespace Request

def count : Request → Nat
  | .reserve count => count
  | .reserveWithin count _ => count

/-- The frame that the request may not pass in a pool of `total` frames. -/
def limit (total : Nat) : Request → Nat
  | .reserve _ => total
  | .reserveWithin _ limit => limit

end Request

def serve : Request → Action FramePool FrameShortage Nat
  | .reserve count => reserve count
  | .reserveWithin count limit => reserveWithin count limit

theorem run_serve (request : Request) (pool : FramePool) :
    (serve request).run pool =
      (reserveWithin request.count (request.limit pool.total)).run pool := by
  cases request with
  | reserve count => exact run_reserve
  | reserveWithin count limit => rfl

/-- What a request gave and left, in a pool.

It is granted exactly if the sum of the frames taken and asked for passes neither the total nor the
limit, which is what the sum of machine sizes decides. A grant starts where the frames taken end.
A refusal leaves the pool alone and tells the numbers that it compared. -/
structure Served (pool : FramePool) (request : Request)
    (report : Report FramePool FrameShortage Nat) : Prop where
  granted_iff : (∃ first, report.result = .ok first) ↔
    pool.committed + request.count ≤ min pool.total (request.limit pool.total)
  computed_iff : (∃ first, report.result = .ok first) ↔
    ∃ past, pool.end? request.count (request.limit pool.total) = some past
  granted : ∀ first, report.result = .ok first →
    first = pool.committed ∧ report.state = ⟨pool.total, pool.committed + request.count⟩
  refused : ∀ shortage, report.result = .error shortage →
    shortage = ⟨request.count, pool.committed, min pool.total (request.limit pool.total)⟩ ∧
      report.state = pool

theorem served_of_run (sized : pool.total < Size.limit) {request : Request}
    {report : Report FramePool FrameShortage Nat} (ran : (serve request).run pool = .ok report) :
    Served pool request report := by
  have small : pool.bound (request.limit pool.total) < Size.limit :=
    Nat.lt_of_le_of_lt (Nat.min_le_left _ _) sized
  rw [run_serve] at ran
  cases computed : pool.end? request.count (request.limit pool.total) with
  | some past =>
      rw [run_reserveWithin_of_some computed] at ran
      cases ran
      constructor
      case granted_iff =>
        exact ⟨fun _ => ((end?_eq_some_iff small).mp computed).2, fun _ => ⟨_, rfl⟩⟩
      case computed_iff => exact ⟨fun _ => ⟨_, computed⟩, fun _ => ⟨_, rfl⟩⟩
      case granted =>
        intro first granted
        cases granted
        exact ⟨rfl, rfl⟩
      case refused => exact fun _ refused => nomatch refused
  | none =>
      rw [run_reserveWithin_of_none computed] at ran
      cases ran
      constructor
      case granted_iff =>
        refine iff_of_false (fun granted => nomatch granted.choose_spec) fun fits => ?_
        cases computed.symm.trans ((end?_eq_some_iff small).mpr ⟨rfl, fits⟩)
      case computed_iff =>
        refine iff_of_false (fun granted => nomatch granted.choose_spec) ?_
        rintro ⟨past, found⟩
        cases computed.symm.trans found
      case granted => exact fun _ granted => nomatch granted
      case refused =>
        intro shortage refused
        cases refused
        exact ⟨rfl, rfl⟩

theorem serve_returns (request : Request) (pool : FramePool) : (serve request).Returns pool := by
  rw [Returns, run_serve]
  rcases reserveWithin_cases pool request.count (request.limit pool.total) with ⟨-, ran⟩ | ran
  · exact ⟨_, ran⟩
  · exact ⟨_, ran⟩

/-! ### Sequences of requests -/

/-- The turns that led to a pool. -/
abbrev Past : Type := List (Turn Request FramePool FrameShortage Nat)

/-- The run of frames that a turn was granted. -/
def grant? (turn : Turn Request FramePool FrameShortage Nat) : Option FrameRun :=
  turn.report.result.toOption.map fun first => ⟨first, turn.command.count⟩

/-- The runs granted, in the order of the requests. -/
def grants (past : Past) : List FrameRun := past.filterMap grant?

/-- The number of frames in several runs. -/
def frameCount (runs : List FrameRun) : Nat := (runs.map (·.count)).sum

def Refused (turn : Turn Request FramePool FrameShortage Nat) : Prop :=
  ∃ shortage, turn.report.result = .error shortage

theorem grants_snoc (past : Past) (turn : Turn Request FramePool FrameShortage Nat) :
    grants (past ++ [turn]) = grants past ++ (grant? turn).toList :=
  filterMap_snoc grant? past turn

theorem frameCount_append (runs others : List FrameRun) :
    frameCount (runs ++ others) = frameCount runs + frameCount others := by
  simp [frameCount]

/-- Every member of the list fits to the members before it. -/
def Successive {α : Type} (fits : List α → α → Prop) (list : List α) : Prop :=
  ∀ (position : Nat) (member : α), list[position]? = some member → fits (list.take position) member

theorem Successive.snoc {α : Type} {fits : List α → α → Prop} {list : List α} {last : α}
    (successive : Successive fits list) (now : fits list last) :
    Successive fits (list ++ [last]) := by
  intro position member found
  by_cases inside : position < list.length
  · rw [List.getElem?_append_left inside] at found
    rw [List.take_append_of_le_length (Nat.le_of_lt inside)]
    exact successive position member found
  · rw [List.getElem?_append_right (Nat.le_of_not_lt inside), List.getElem?_singleton] at found
    split at found
    next atEnd =>
      have ends : position = list.length := by omega
      cases found
      rw [ends, List.take_left]
      exact now
    next => cases found

namespace Served

variable {turn : Turn Request FramePool FrameShortage Nat}
  (served : Served pool turn.command turn.report)
include served

/-- A run that was granted starts at the first free frame. -/
theorem eq_of_granted {run : FrameRun} (granted : grant? turn = some run) :
    run = ⟨pool.committed, turn.command.count⟩ ∧
      run.past ≤ min pool.total (turn.command.limit pool.total) := by
  rw [grant?] at granted
  cases result : turn.report.result with
  | error shortage =>
      rw [result] at granted
      cases granted
  | ok first =>
      rw [result] at granted
      cases granted
      rw [(served.granted first result).1]
      exact ⟨rfl, served.granted_iff.mp ⟨first, result⟩⟩

/-- The frames taken afterwards are those of before and those granted. -/
theorem balance :
    turn.report.state = ⟨pool.total, pool.committed + frameCount (grant? turn).toList⟩ := by
  cases result : turn.report.result with
  | error shortage =>
      rw [(served.refused shortage result).2]
      simp [grant?, result, frameCount, Except.toOption]
  | ok first =>
      rw [(served.granted first result).2]
      simp [grant?, result, frameCount, Except.toOption]

theorem within (small : pool.committed ≤ pool.total) :
    turn.report.state.committed ≤ pool.total := by
  rw [served.balance]
  cases granted : grant? turn with
  | none => simpa [frameCount] using small
  | some run =>
      obtain ⟨rfl, fits⟩ := served.eq_of_granted granted
      have inside := Nat.le_trans fits (Nat.min_le_left _ _)
      simpa [frameCount, FrameRun.past] using inside

/-- A frame is taken afterwards if it was before or is in the run granted. -/
theorem taken_iff (frame : Nat) : frame < turn.report.state.committed ↔
    frame < pool.committed ∨ ∃ run ∈ (grant? turn).toList, run.Contains frame := by
  rw [served.balance]
  cases granted : grant? turn with
  | none => simp [frameCount]
  | some run =>
      obtain ⟨rfl, -⟩ := served.eq_of_granted granted
      simp [frameCount, FrameRun.Contains, FrameRun.past]
      omega

theorem refused_iff : Refused turn ↔
    min pool.total (turn.command.limit pool.total) < pool.committed + turn.command.count := by
  rw [← Nat.not_le, ← served.granted_iff, Refused]
  cases turn.report.result <;> simp

end Served

/-- The pool after the turns that led to it from one without taken frames.

Each request was served in the pool that the grants before it left. The runs granted follow each
other without a gap, in the order of the requests: each starts after as many frames as were granted
before. Together they are the frames taken, no two of them have a frame in common, and none passes
the limit of its request. The frames taken are within the pool, so that those left can be counted.
What was refused once would be refused now, and every later request for as many frames or more,
within that limit or a lower one, was. -/
structure Partitioned (total : Nat) (past : Past) (pool : FramePool) : Prop where
  served : Successive (fun before turn =>
    Served ⟨total, frameCount (grants before)⟩ turn.command turn.report) past
  consecutive : Successive (fun before run => run.first = frameCount before) (grants past)
  balance : pool = ⟨total, frameCount (grants past)⟩
  exhaustive : ∀ frame, frame < pool.committed ↔ ∃ run ∈ grants past, run.Contains frame
  disjoint : (grants past).Pairwise FrameRun.Disjoint
  limited : ∀ turn ∈ past, ∀ run, grant? turn = some run →
    run.past ≤ total ∧ run.past ≤ turn.command.limit total
  within : pool.committed ≤ total
  remaining : pool.remaining = .ok (total - pool.committed)
  barred : ∀ turn ∈ past, Refused turn →
    min total (turn.command.limit total) < pool.committed + turn.command.count
  refusals : past.Pairwise fun earlier later => Refused earlier →
    earlier.command.count ≤ later.command.count →
      later.command.limit total ≤ earlier.command.limit total → Refused later

namespace Partitioned

theorem nil (total : Nat) : Partitioned total [] (ofTotal total) where
  served := fun _ _ found => nomatch found
  consecutive := fun _ _ found => nomatch found
  balance := rfl
  exhaustive := by simp [ofTotal, grants]
  disjoint := List.Pairwise.nil
  limited := fun _ member => nomatch member
  within := Nat.zero_le _
  remaining := Size.sub_of_le (Nat.zero_le _)
  barred := fun _ member => nomatch member
  refusals := List.Pairwise.nil

theorem snoc {past : Past} (partitioned : Partitioned total past pool) (sized : total < Size.limit)
    {request : Request} {report : Report FramePool FrameShortage Nat}
    (ran : (serve request).run pool = .ok report) :
    Partitioned total (past ++ [⟨request, report⟩]) report.state := by
  obtain ⟨rfl, taken⟩ : total = pool.total ∧ pool.committed = frameCount (grants past) := by
    rw [partitioned.balance]
    exact ⟨rfl, rfl⟩
  -- What the new turn gave is told by the frames that were taken before it.
  let turn : Turn Request FramePool FrameShortage Nat := ⟨request, report⟩
  have served : Served pool turn.command turn.report := served_of_run sized ran
  have after : report.state = ⟨pool.total, pool.committed + frameCount (grant? turn).toList⟩ :=
    served.balance
  have within : report.state.committed ≤ pool.total := served.within partitioned.within
  constructor
  case served =>
    apply partitioned.served.snoc
    rwa [← partitioned.balance]
  case consecutive =>
    rw [grants_snoc]
    cases granted : grant? turn with
    | none => simpa using partitioned.consecutive
    | some run =>
        apply partitioned.consecutive.snoc
        rw [(served.eq_of_granted granted).1]
        exact taken
  case balance => rw [after, grants_snoc, frameCount_append, taken]
  case exhaustive =>
    intro frame
    rw [grants_snoc]
    simp only [List.mem_append, or_and_right, exists_or]
    rw [← partitioned.exhaustive]
    exact served.taken_iff frame
  case disjoint =>
    rw [grants_snoc, List.pairwise_append]
    refine ⟨partitioned.disjoint, ?_, ?_⟩
    · cases grant? turn <;> simp
    · intro run before other now frame inside insideOther
      have small := (partitioned.exhaustive frame).mpr ⟨run, before, inside⟩
      rw [(served.eq_of_granted (Option.mem_toList.mp now)).1] at insideOther
      exact Nat.not_lt.mpr insideOther.1 small
  case limited =>
    refine List.forall_mem_append.mpr ⟨partitioned.limited, ?_⟩
    simp only [List.mem_singleton, forall_eq]
    intro run granted
    exact Nat.le_min.mp (served.eq_of_granted granted).2
  case within => exact within
  case remaining =>
    rw [after] at within ⊢
    exact Size.sub_of_le within
  case barred =>
    rw [after]
    refine List.forall_mem_append.mpr ⟨?_, ?_⟩
    · intro earlier member refused
      exact Nat.lt_of_lt_of_le (partitioned.barred earlier member refused) (by simp)
    · simp only [List.mem_singleton, forall_eq]
      intro refused
      exact Nat.lt_of_lt_of_le (served.refused_iff.mp refused) (by simp [turn])
  case refusals =>
    rw [List.pairwise_append]
    refine ⟨partitioned.refusals, List.pairwise_singleton _ _, ?_⟩
    simp only [List.mem_singleton, forall_eq]
    intro earlier member refused larger lower
    apply served.refused_iff.mpr
    have short := partitioned.barred earlier member refused
    simp only [turn] at larger lower ⊢
    omega

end Partitioned

/-- Any requests are answered by a pool that starts without taken frames, and partition it. -/
theorem requests_partition (sized : total < Size.limit) (requests : List Request) :
    ∃ past pool, Course serve (ofTotal total) past pool ∧ past.map (·.command) = requests ∧
      runAll serve (ofTotal total) requests = .ok (pool, past.map (·.report.result)) ∧
      Partitioned total past pool := by
  have returns : ∀ (pool : FramePool) (request : Request), True → True →
      (serve request).Returns pool :=
    fun pool request _ _ => serve_returns request pool
  obtain ⟨past, pool, course, rfl⟩ : ∃ past pool, Course serve (ofTotal total) past pool ∧
      past.map (·.command) = requests :=
    Course.exists_of_returns returns (fun _ _ _ _ _ => trivial) trivial (fun _ _ => trivial)
  refine ⟨past, pool, course, rfl, course.runAll_eq, ?_⟩
  induction course with
  | nil => exact .nil total
  | snoc _ ran inductionHypothesis => exact inductionHypothesis.snoc sized ran

/-- Among requests that are granted, one past its own limit, one for nothing behind its limit, and
one whose end is no machine size. -/
def mixedRequests : List Request :=
  [.reserve 3, .reserveWithin 4 5, .reserveWithin 0 2, .reserve (Size.limit - 1),
    .reserveWithin 2 5, .reserve 0, .reserve 5]

theorem requests_partition_mixed :
    ∃ past pool, Course serve (ofTotal 10) past pool ∧ past.map (·.command) = mixedRequests ∧
      past.map (·.report.result) =
        [.ok 0, .error ⟨4, 3, 5⟩, .error ⟨0, 3, 2⟩, .error ⟨Size.limit - 1, 3, 10⟩, .ok 3, .ok 5,
          .ok 5] ∧
      Partitioned 10 past pool := by
  obtain ⟨past, pool, course, requests, ran, partitioned⟩ :=
    requests_partition (by decide : 10 < Size.limit) mixedRequests
  have computed : (runAll serve (ofTotal 10) mixedRequests).map (·.2) =
      .ok [.ok 0, .error ⟨4, 3, 5⟩, .error ⟨0, 3, 2⟩, .error ⟨Size.limit - 1, 3, 10⟩, .ok 3, .ok 5,
        .ok 5] := by
    rfl
  rw [ran] at computed
  exact ⟨past, pool, course, requests, Except.ok.inj computed, partitioned⟩

end PagedKernel.FramePool
