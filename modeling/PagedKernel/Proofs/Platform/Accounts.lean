import Mathlib.Algebra.GroupWithZero.Nat
import PagedKernel.Proofs.Course
import PagedKernel.Proofs.Loading.Acceptance
import PagedKernel.Proofs.Platform.Requests

/-!
Contract: the frames that a platform gave out over a run.

Owns:
- runs of frames that have no frame in common (`FrameRun.Disjoint`);
- the frames granted and lost by the turns of a run;
- the balance of the pool after any turns (`Platform.Accounted`).

Does not own: what a single request takes (`Platform.Requests`).
-/

namespace PagedKernel

open PagedKernel.Action

/-! ### Runs of frames -/

namespace FrameRun

variable {run other : FrameRun}

/-- The first frame behind the run. -/
def past (run : FrameRun) : Nat := run.first + run.count

def Contains (run : FrameRun) (frame : Nat) : Prop := run.first ≤ frame ∧ frame < run.past

/-- No frame is in both runs. -/
def Disjoint (run other : FrameRun) : Prop := ∀ frame, run.Contains frame → ¬ other.Contains frame

theorem disjoint_of_past_le (ordered : run.past ≤ other.first) : run.Disjoint other := by
  rintro frame ⟨-, inside⟩ ⟨first, -⟩
  exact Nat.lt_irrefl _ (Nat.lt_of_lt_of_le inside (Nat.le_trans ordered first))

end FrameRun

namespace Platform

/-! ### A single booking -/

namespace Booking

variable {pool after : FramePool} {grant : Option FrameRun} {loss : Nat}
  (booking : Booking pool grant loss after)
include booking

theorem balance :
    after.committed = pool.committed + (grant.toList.map (·.count)).sum + loss := by
  cases booking <;> simp [FramePool.take]

theorem committed_le : pool.committed ≤ after.committed := by
  rw [booking.balance, Nat.add_assoc]
  exact Nat.le_add_right _ _

/-- The frames granted are the first free ones. -/
theorem first_eq {run : FrameRun} (member : run ∈ grant.toList) : run.first = pool.committed := by
  cases booking with
  | unchanged | lost => simp at member
  | granted =>
      rw [Option.toList_some, List.mem_singleton] at member
      rw [member]

theorem past_le {run : FrameRun} (member : run ∈ grant.toList) : run.past ≤ after.committed := by
  cases booking with
  | unchanged | lost => simp at member
  | granted =>
      rw [Option.toList_some, List.mem_singleton] at member
      rw [member]
      exact Nat.le_refl _

end Booking

/-! ### The frames of a run -/

/-- The turns that led to a platform. -/
abbrev Past : Type := List (Turn Command Platform Failure Answer)

/-- All frames granted, for spaces or for their own sake, in the order of the grants. -/
def grants (past : Past) : List FrameRun :=
  past.filterMap fun turn => grant? turn.command turn.report.result

/-- The numbers of frames that the turns lost. -/
def losses (shape : Nat → Option Geometry) (past : Past) : List Nat :=
  past.map fun turn => lost shape turn.command turn.report.result

/-- The numbers of taken frames after the turns. -/
def counts (past : Past) : List Nat := past.map (·.report.state.frames.committed)

theorem grants_snoc (past : Past) (turn : Turn Command Platform Failure Answer) :
    grants (past ++ [turn]) = grants past ++ (grant? turn.command turn.report.result).toList :=
  filterMap_snoc _ past turn

/-- The frames of a space that was built were granted. -/
theorem frameRun_mem_grants {past : Past} {turn : Turn Command Platform Failure Answer}
    (member : turn ∈ past) {position : Nat} {space : AddressSpace}
    (built : built? turn.command turn.report.result = some (position, space)) :
    space.frameRun ∈ grants past := by
  refine List.mem_filterMap.mpr ⟨turn, member, ?_⟩
  generalize turn.command = command at built ⊢
  cases command with
  | reserve => cases built
  | _ => simp [grant?, built]

/-- The accounts of a platform after the turns that led to it. The runs of frames granted, whether
their spaces still exist or not, have no frame in common and are all taken. Each space lies on the
machine that it was built on. The number of taken frames never went down and is within the pool, and
every one of them was taken at the start, or granted, or lost. -/
structure Accounted (initial : Platform) (past : Past) (platform : Platform) : Prop where
  shape : platform.geometryAt = initial.geometryAt
  disjoint : (grants past).Pairwise FrameRun.Disjoint
  taken : ∀ run ∈ grants past, run.past ≤ platform.frames.committed
  inside : ∀ turn ∈ past, ∀ position space,
    built? turn.command turn.report.result = some (position, space) →
      space.firstFrame + space.pages ≤ platform.frames.committed ∧
        ∃ geometry, initial.geometryAt position = some geometry ∧
          space.firstFrame + space.pages ≤ geometry.frames
  reached : ∀ count ∈ initial.frames.committed :: counts past, count ≤ platform.frames.committed
  monotone : (initial.frames.committed :: counts past).Pairwise (· ≤ ·)
  total : platform.frames.total = initial.frames.total
  within : platform.frames.committed ≤ platform.frames.total
  balance : platform.frames.committed = initial.frames.committed +
    ((grants past).map (·.count)).sum + (losses initial.geometryAt past).sum

namespace Accounted

variable {initial platform : Platform} {past : Past}

theorem nil (within : initial.frames.committed ≤ initial.frames.total) :
    Accounted initial [] initial where
  shape := rfl
  disjoint := List.Pairwise.nil
  taken := fun _ member => nomatch member
  inside := fun _ member => nomatch member
  reached := by simp [counts]
  monotone := List.pairwise_singleton _ _
  total := rfl
  within := within
  balance := by simp [grants, losses]

theorem snoc (accounted : Accounted initial past platform) {command : Command}
    {report : Report Platform Failure Answer} (ran : (step command).run platform = .ok report) :
    Accounted initial (past ++ [⟨command, report⟩]) report.state := by
  have booking := booking_of_step ran
  rw [accounted.shape] at booking
  have more := booking.committed_le
  -- The total and the geometries stay, and the frames taken stay within the total.
  have granted : FramePool.KeptByGrants fun pool =>
      pool.committed ≤ pool.total ∧ pool.total = initial.frames.total :=
    fun _ _ holds fits => ⟨fits, holds.2⟩
  obtain ⟨⟨⟨within, total⟩, shape⟩, -⟩ := abides_step granted command platform report
    ⟨⟨accounted.within, accounted.total⟩, accounted.shape⟩ ran
  have taken : ∀ run ∈ grants (past ++ [⟨command, report⟩]),
      run.past ≤ report.state.frames.committed := by
    intro run member
    rw [grants_snoc] at member
    rcases List.mem_append.mp member with before | now
    · exact Nat.le_trans (accounted.taken run before) more
    · exact booking.past_le now
  have inside : ∀ turn ∈ past ++ [⟨command, report⟩], ∀ position space,
      built? turn.command turn.report.result = some (position, space) →
        ∃ geometry, initial.geometryAt position = some geometry ∧
          space.firstFrame + space.pages ≤ geometry.frames := by
    intro turn member position space built
    rcases List.mem_append.mp member with before | now
    · exact (accounted.inside turn before position space built).2
    · rw [List.mem_singleton.mp now] at built
      rw [← accounted.shape]
      exact inside_of_step ran built
  constructor
  case shape => exact shape
  case disjoint =>
    rw [grants_snoc, List.pairwise_append]
    refine ⟨accounted.disjoint, ?_, ?_⟩
    · cases grant? command report.result <;> simp
    · -- Whatever was granted before ends where the free frames start.
      intro run before next now
      apply FrameRun.disjoint_of_past_le
      rw [booking.first_eq now]
      exact accounted.taken run before
  case taken => exact taken
  case inside =>
    intro turn member position space built
    exact ⟨taken _ (frameRun_mem_grants member built), inside turn member position space built⟩
  case reached =>
    simp only [counts, List.map_append, ← List.cons_append, List.mem_append, List.map_cons,
      List.map_nil, List.mem_singleton]
    rintro count (before | rfl)
    · exact Nat.le_trans (accounted.reached count before) more
    · exact Nat.le_refl _
  case monotone =>
    simp only [counts, List.map_append, ← List.cons_append, List.pairwise_append, List.map_cons,
      List.map_nil, List.mem_singleton]
    refine ⟨accounted.monotone, List.pairwise_singleton _ _, ?_⟩
    rintro count before next rfl
    exact Nat.le_trans (accounted.reached count before) more
  case total => exact total
  case within => exact within
  case balance =>
    rw [booking.balance, accounted.balance, grants_snoc]
    simp only [losses, List.map_append, List.sum_append, List.map_cons, List.map_nil,
      List.sum_singleton]
    omega

end Accounted

/-- Machines of any geometries that share a pool keep its accounts over every run. -/
theorem course_accounted {hosts : Array Host} {frames : FramePool}
    (within : frames.committed ≤ frames.total) {past : Past} {platform : Platform}
    (course : Course step (start hosts frames) past platform) :
    Accounted (start hosts frames) past platform := by
  induction course with
  | nil => exact .nil within
  | snoc _ ran inductionHypothesis => exact inductionHypothesis.snoc ran

/-- Two machines, of which the second has larger pages and keeps no stack. -/
def unlikeHosts : Array Host :=
  #[⟨{ pageSize := 4, frames := 6, stackSize := 4 }, AddressSpace.smallKernel.machine⟩,
    ⟨{ pageSize := 8, frames := 8, stackSize := 0 }, { usable := ⟨by decide, by decide⟩ }⟩]

/-- Spaces on both machines, frames of nobody's, a load that is torn, and a copy at the end. -/
def sharing : List Command :=
  [.load 0 AddressSpace.twoWordImage, .reserve 1, .load 1 AddressSpace.wordImage,
    .load 1 AddressSpace.misalignedImage, .drop 0, .duplicate 1 1 5]

theorem course_accounted_sharing :
    ∃ past platform, Course step (start unlikeHosts ⟨10, 1⟩) past platform ∧
      past.map (·.command) = sharing ∧ platform.frames = ⟨10, 8⟩ ∧
      Accounted (start unlikeHosts ⟨10, 1⟩) past platform := by
  have shown : ((start unlikeHosts ⟨10, 1⟩).run sharing).toOption.map (·.1.frames) =
      some ⟨10, 8⟩ := by
    decide +kernel
  obtain ⟨⟨platform, results⟩, ran, frames⟩ := exists_of_seen shown
  obtain ⟨past, course, taken, -⟩ := course_of_runAll ran
  have within : (⟨10, 1⟩ : FramePool).committed ≤ (⟨10, 1⟩ : FramePool).total := by decide
  exact ⟨past, platform, course, taken, frames, course_accounted within course⟩

end Platform

end PagedKernel
