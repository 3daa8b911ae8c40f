import PagedKernel.Proofs.Copying
import PagedKernel.Proofs.Platform.Accounts
import PagedKernel.Proofs.Platform.Effects

/-!
Contract: when frames can be copied, and what the copy is.

Owns:
- the conditions of a copy in the order in which they decide its error
  (`AddressSpace.copyConditions`), and the result of every copy that returns;
- the copies that stop the kernel, which are those whose parent ends past all
  machine sizes;
- all that is known of a kernel after a copy (`AddressSpace.Replica`), also
  where the copy lies over its parent;
- the spaces of a platform, which lie on frames that are taken, so that no fork
  writes to its parent.

Does not own: the single steps of a copy (`Copying`).
-/

namespace PagedKernel

open PagedKernel.Action

namespace AddressSpace

variable {geometry : Geometry} {kernel : Kernel geometry} {pages parentFrame : Nat}

/-! ### Which copies succeed -/

/-- The conditions of a copy, in the order in which they decide its error. -/
def copyConditions (pages parentFrame : Nat) (geometry : Geometry) (frames : FramePool) :
    List Condition :=
  [⟨pages ≤ geometry.frames, .programTooLarge pages geometry.frames⟩,
    ⟨parentFrame + pages ≤ geometry.frames, .badParent parentFrame pages⟩,
    ⟨frames.committed + pages ≤ min frames.total geometry.frames,
      .frames ⟨pages, frames.committed, min frames.total geometry.frames⟩⟩]

theorem bounded_of_run {report : Report (Kernel geometry) BuildError AddressSpace}
    (ran : (duplicate pages parentFrame).run kernel = .ok report)
    (small : pages ≤ geometry.frames) : parentFrame + pages < Size.limit := by
  apply Nat.lt_of_not_le
  intro large
  rw [run_duplicate_of_overflow small large] at ran
  cases ran

theorem unchanged_of_run {report : Report (Kernel geometry) BuildError AddressSpace}
    (ran : (duplicate pages parentFrame).run kernel = .ok report) {error : BuildError}
    (failed : report.result = .error error) : report.state = kernel := by
  cases duplication_of_run ran with
  | tooLarge | badParent | shortage => rfl
  | copied => cases failed

/-- A copy ends with the error of its first failing condition, and with a space if there is none,
unless the end of its parent stops the kernel. -/
theorem run_duplicate_of_bounded (kernel : Kernel geometry)
    (bounded : pages ≤ geometry.frames → parentFrame + pages < Size.limit) :
    ∃ report, (duplicate pages parentFrame).run kernel = .ok report ∧
      match Condition.firstFailing (copyConditions pages parentFrame geometry kernel.frames) with
      | none => ∃ space, report.result = .ok space
      | some error => report.result = .error error := by
  by_cases small : pages ≤ geometry.frames
  · by_cases parent : parentFrame + pages ≤ geometry.frames
    · by_cases free : kernel.frames.committed + pages ≤ kernel.frames.bound geometry.frames
      · refine ⟨_, run_duplicate_of_free kernel.machine.usable parent free, ?_⟩
        simp only [FramePool.bound] at free
        simp [Condition.firstFailing, copyConditions, small, parent, free]
      · have short := Nat.lt_of_not_le free
        refine ⟨_, run_duplicate_of_shortage small (bounded small) parent short, ?_⟩
        simp only [FramePool.bound] at free
        simp [Condition.firstFailing, copyConditions, small, parent, free, FramePool.shortage,
          FramePool.bound]
    · have outside := Nat.lt_of_not_le parent
      refine ⟨_, run_duplicate_of_badParent small (bounded small) outside, ?_⟩
      simp [Condition.firstFailing, copyConditions, small, parent]
  · refine ⟨_, run_duplicate_of_tooLarge (Nat.lt_of_not_le small), ?_⟩
    simp [Condition.firstFailing, copyConditions, small]

/-- A copy returns exactly if the end of its parent is a machine size, or if it has more pages than
the machine has frames, which is refused before that end is computed. If it returns, it makes a
space exactly if all its conditions hold. Otherwise it fails with the error of the first that does
not, and leaves the kernel as it was. -/
theorem duplicate_result (kernel : Kernel geometry) (pages parentFrame : Nat) :
    ((duplicate pages parentFrame).Returns kernel ↔
      (pages ≤ geometry.frames → parentFrame + pages < Size.limit)) ∧
    ∀ report, (duplicate pages parentFrame).run kernel = .ok report →
      ((∃ space, report.result = .ok space) ↔
        ∀ condition ∈ copyConditions pages parentFrame geometry kernel.frames, condition.holds) ∧
      (∀ error, report.result = .error error ↔
        Condition.firstFailing (copyConditions pages parentFrame geometry kernel.frames) =
          some error) ∧
      ∀ error, report.result = .error error → report.state = kernel := by
  constructor
  · constructor
    · rintro ⟨report, ran⟩
      exact bounded_of_run ran
    · intro bounded
      obtain ⟨report, ran, -⟩ := run_duplicate_of_bounded kernel bounded
      exact ⟨report, ran⟩
  · intro report ran
    obtain ⟨other, again, ended⟩ := run_duplicate_of_bounded kernel (bounded_of_run ran)
    cases ran.symm.trans again
    obtain ⟨made, refused⟩ := Condition.result_iff ended
    exact ⟨made.trans Condition.firstFailing_eq_none_iff, refused,
      fun error failed => unchanged_of_run ran failed⟩

/-- Four frames of the standard machine of which two do not exist, refused after others were
taken. -/
theorem duplicate_result_pastEnd :
    ∃ machine : Machine .standard, Machine.create .standard = .ok (.ok machine) ∧
      ∃ report, (duplicate 4 30).run { machine, frames := ⟨32, 7⟩ } = .ok report ∧
        report.result = .error (.badParent 30 4) ∧
        report.state = { machine, frames := ⟨32, 7⟩ } := by
  have usable : Geometry.standard.Usable := ⟨by decide, by decide⟩
  refine ⟨{ usable }, rfl, ?_⟩
  obtain ⟨returns, ended⟩ := duplicate_result { machine := { usable }, frames := ⟨32, 7⟩ } 4 30
  obtain ⟨report, ran⟩ := returns.mpr (by decide)
  obtain ⟨-, failing, unchanged⟩ := ended report ran
  have refused : report.result = .error (.badParent 30 4) := (failing _).mpr rfl
  exact ⟨report, ran, refused, unchanged _ refused⟩

/-- A parent of one frame whose end is no machine size is not refused. It stops the kernel of the
standard machine. -/
theorem duplicate_overflows :
    ∃ machine : Machine .standard, Machine.create .standard = .ok (.ok machine) ∧
      Condition.firstFailing (copyConditions 1 (Size.limit - 1) .standard (.ofGeometry .standard)) =
        some (.badParent (Size.limit - 1) 1) ∧
      (duplicate 1 (Size.limit - 1)).run { machine, frames := .ofGeometry .standard } =
        .error .overflow := by
  have usable : Geometry.standard.Usable := ⟨by decide, by decide⟩
  exact ⟨{ usable }, rfl, by decide, run_duplicate_of_overflow (by decide) (by decide)⟩

/-! ### What a copy is -/

/-- The kernel `after` has what it had before, and a copy of so many frames from `parentFrame` on.

The copy lies on the first free frames, its pages are in order and only valid, and its bytes are
those that the parent had before. No other byte changed. Frames that were all taken are not among
those of the copy, so the parent still has its bytes, and they are the ones of the copy. -/
structure Replica (before after : Kernel geometry) (pages parentFrame : Nat)
    (copy : AddressSpace) : Prop extends Built before after copy where
  size : copy.pages = pages
  source : parentFrame + pages ≤ geometry.frames
  entry : ∀ page, (after.tables.table copy.table).lookup page =
    if page < pages then some ⟨page, before.frames.committed + page, { valid := true }⟩ else none
  copied : ∀ offset < pages * geometry.pageSize,
    copy.byteAt? after offset =
      before.machine.memory[parentFrame * geometry.pageSize + offset]?
  apart : parentFrame + pages ≤ before.frames.committed →
    FrameRun.Disjoint ⟨parentFrame, pages⟩ copy.frameRun
  spared : parentFrame + pages ≤ before.frames.committed →
    ∀ offset < pages * geometry.pageSize,
      after.machine.memory[parentFrame * geometry.pageSize + offset]? =
          before.machine.memory[parentFrame * geometry.pageSize + offset]? ∧
        copy.byteAt? after offset =
          after.machine.memory[parentFrame * geometry.pageSize + offset]?

theorem replica_of_run {copy : AddressSpace} {after : Kernel geometry} {events : List Event}
    (ran : (duplicate pages parentFrame).run kernel = .ok ⟨.ok copy, after, events⟩) :
    Replica kernel after pages parentFrame copy := by
  have table := table_of_duplicate ran
  cases duplication_of_run ran with
  | copied parent free =>
      have child := inside_of_free free
      have copied : ∀ offset < pages * geometry.pageSize, _ :=
        fun _ inside => copiedKernel_inside parent child inside
      constructor
      case toBuilt => exact built_copied parent child
      case size => rfl
      case source => exact parent
      case entry =>
        intro page
        rw [table, PageTable.lookup_contiguous]
        rfl
      case copied => exact copied
      case apart => exact fun taken => FrameRun.disjoint_of_past_le taken
      case spared =>
        intro taken offset inside
        have before : parentFrame * geometry.pageSize + offset <
            kernel.frames.committed * geometry.pageSize := by
          have last := Nat.mul_le_mul_right geometry.pageSize taken
          rw [Nat.add_mul] at last
          omega
        have same : (copiedKernel kernel pages parentFrame).machine.memory[
            parentFrame * geometry.pageSize + offset]? = _ :=
          copiedKernel_outside parent (Or.inl before)
        exact ⟨same, (copied offset inside).trans same.symm⟩

end AddressSpace

/-! ### Copies on a platform -/

namespace Platform

variable {platform : Platform}

/-- All spaces that still exist lie on frames that are taken. -/
def Housed (platform : Platform) : Prop :=
  ∀ slot space, platform.space? slot = some space →
    space.frameRun.past ≤ platform.frames.committed

theorem housed_start (hosts : Array Host) (frames : FramePool) : Housed (start hosts frames) := by
  intro slot space found
  simp [start, space?] at found

theorem housed_step {command : Command} {report : Report Platform Failure Answer}
    (housed : Housed platform) (ran : (step command).run platform = .ok report) :
    Housed report.state := by
  have booking := booking_of_step ran
  intro slot space found
  rcases (effect_of_step ran).space_cases found with before | granted
  · exact Nat.le_trans (housed slot space before) booking.committed_le
  · apply booking.past_le
    rw [granted]
    exact List.mem_cons_self

theorem housed_of_course {hosts : Array Host} {frames : FramePool} {past : Past}
    (course : Course step (start hosts frames) past platform) : Housed platform := by
  induction course with
  | nil => exact housed_start hosts frames
  | snoc _ ran inductionHypothesis => exact housed_step inductionHypothesis ran

/-- A fork that answers with a space ran on one machine, for a space in a slot. -/
theorem fork_of_step {position slot new : Nat} {copy : AddressSpace} {reached : Platform}
    {events : List Event}
    (ran : (step (.fork position slot)).run platform =
      .ok ⟨.ok (.space new copy), reached, events⟩) :
    ∃ parent host after events, platform.space? slot = some parent ∧
      platform.hosts[position]? = some host ∧
      parent.fork.run (platform.kernel host) = .ok ⟨.ok copy, after, events⟩ ∧
      reached = { platform.put position after with slots := platform.slots.push (some copy) } := by
  rw [step, run_bind_findSpace] at ran
  cases found : platform.space? slot with
  | none =>
      rw [found] at ran
      cases ran
  | some parent =>
      rw [found] at ran
      obtain ⟨host, ⟨result, after, events⟩, placed, forked, same⟩ := occupySlot_cases ran
      cases result with
      | error error => cases same
      | ok space =>
          cases same
          exact ⟨parent, host, after, events, rfl, placed, forked, rfl⟩

/-- A copy of frames that succeeds is a replica of them, wherever they lie. So is a copy of a space
that a platform built, whatever was done to its table since; its frames were taken, and so are none
of those of the copy. -/
theorem duplicate_replicates :
    (∀ {geometry : Geometry} (kernel : Kernel geometry) (pages parentFrame : Nat)
      (copy : AddressSpace) (after : Kernel geometry) (events : List Event),
      (AddressSpace.duplicate pages parentFrame).run kernel = .ok ⟨.ok copy, after, events⟩ →
        AddressSpace.Replica kernel after pages parentFrame copy) ∧
    ∀ (hosts : Array Host) (frames : FramePool) (past : Past) (platform reached : Platform)
      (position slot new : Nat) (copy : AddressSpace) (events : List Event),
      Course step (start hosts frames) past platform →
      (step (.fork position slot)).run platform =
          .ok ⟨.ok (.space new copy), reached, events⟩ →
        ∃ parent host after, platform.space? slot = some parent ∧
          platform.hosts[position]? = some host ∧
          reached =
            { platform.put position after with slots := platform.slots.push (some copy) } ∧
          parent.firstFrame + parent.pages ≤ platform.frames.committed ∧
          AddressSpace.Replica (platform.kernel host) after parent.pages parent.firstFrame
            copy := by
  constructor
  · intro geometry kernel pages parentFrame copy after events ran
    exact AddressSpace.replica_of_run ran
  · intro hosts frames past platform reached position slot new copy events course ran
    have housed := housed_of_course course
    obtain ⟨parent, host, after, inner, found, placed, forked, rfl⟩ := fork_of_step ran
    exact ⟨parent, host, after, found, placed, rfl, housed slot parent found,
      AddressSpace.replica_of_run forked⟩

/-- A machine of five frames of four bytes, all of them different, with three frames taken. -/
def stripedKernel : Kernel { pageSize := 4, frames := 5, stackSize := 0 } where
  machine := {
    usable := ⟨by decide, by decide⟩
    memory := Vector.ofFn fun position => UInt8.ofNat position.val
  }
  frames := { total := 10, committed := 3 }

/-- The second frame of the parent is the first of the copy. A space whose first page is no longer
valid is copied with a valid one. -/
theorem duplicate_replicates_overlapping :
    (∃ copy after events,
      (AddressSpace.duplicate 2 2).run stripedKernel = .ok ⟨.ok copy, after, events⟩ ∧
      AddressSpace.Replica stripedKernel after 2 2 copy ∧
      copy.byteAt? after 0 = some 8 ∧ copy.byteAt? after 4 = some 12) ∧
    ∃ past platform reached events copy, Course step (start unlikeHosts ⟨10, 0⟩) past platform ∧
      past.map (·.command) = [.load 0 AddressSpace.twoWordImage, .edit 0 0 (.valid false)] ∧
      (step (.fork 0 0)).run platform = .ok ⟨.ok (.space 1 copy), reached, events⟩ ∧
      ∃ parent host after, platform.space? 0 = some parent ∧ platform.hosts[0]? = some host ∧
        reached = { platform.put 0 after with slots := platform.slots.push (some copy) } ∧
        AddressSpace.Replica (platform.kernel host) after parent.pages parent.firstFrame copy := by
  obtain ⟨anywhere, forked⟩ := duplicate_replicates
  constructor
  · have ran : (AddressSpace.duplicate 2 2).run stripedKernel = _ :=
      AddressSpace.run_duplicate_of_free stripedKernel.machine.usable (by decide) (by decide)
    have replica := anywhere _ _ _ _ _ _ ran
    exact ⟨_, _, _, ran, replica, replica.copied 0 (by decide), replica.copied 4 (by decide)⟩
  · have shown : ((start unlikeHosts ⟨10, 0⟩).run
        [.load 0 AddressSpace.twoWordImage, .edit 0 0 (.valid false)]).toOption.map
          (fun reached => ((step (.fork 0 0)).run reached.1).toOption.map (·.result.toOption)) =
        some (some (some (.space 1 ⟨⟨1⟩, 3, 3⟩))) := by
      decide +kernel
    obtain ⟨⟨platform, results⟩, ran, seen⟩ := exists_of_seen shown
    obtain ⟨past, course, taken, -⟩ := course_of_runAll ran
    obtain ⟨⟨failure | answer, reached, events⟩, copied, answered⟩ := exists_of_seen seen
    · cases answered
    cases answered
    obtain ⟨parent, host, after, found, placed, same, -, replica⟩ :=
      forked _ _ _ _ _ _ _ _ _ _ course copied
    exact ⟨past, platform, reached, events, _, course, taken, copied, parent, host, after, found,
      placed, same, replica⟩

end Platform

end PagedKernel
