import PagedKernel.Proofs.Course
import PagedKernel.Proofs.Loading.Acceptance
import PagedKernel.Proofs.Scheduling.Shifts
import PagedKernel.Proofs.Scheduling.Steps

/-!
Contract: what the past of a scheduler says of its processes.

Owns:
- the processes that a program was started for, and those that have had the
  machine, by the turns of a run (`Scheduler.Executed`, `Scheduler.HasRun`);
- the process that a command made, if any (`Scheduler.created?`), and the count
  of the processes made along a run (`Scheduler.Counted`);
- everything that holds of a scheduler after any turns from a new machine
  (`Scheduler.Consistent`).

Does not own: the memory that the processes see (`Isolation`).
-/

namespace PagedKernel.Scheduler

open PagedKernel.Action

variable {geometry : Geometry} {scheduler after : Scheduler geometry} {process : Process}
  {command : Command} {result : Except Failure Answer}

/-! ### The count after a command -/

@[simp] theorem nextPid_admitted (scheduler : Scheduler geometry) (newcomer : Process) :
    (scheduler.admitted newcomer).nextPid = scheduler.nextPid := by
  cases current : scheduler.current with
  | none => rw [admitted_of_idle current, given]
  | some running => rw [admitted_of_running current, queued]

@[simp] theorem nextPid_yielded (scheduler : Scheduler geometry) :
    scheduler.yielded.nextPid = scheduler.nextPid := by
  cases queue : scheduler.ready with
  | nil => rw [yielded_of_nil queue]
  | cons next rest => rw [yielded_of_cons queue, given]

@[simp] theorem nextPid_vacated (scheduler : Scheduler geometry) :
    scheduler.vacated.nextPid = scheduler.nextPid := by
  cases queue : scheduler.ready with
  | nil => rw [vacated_of_nil queue]
  | cons next rest => rw [vacated_of_cons queue, given]

/-- The process that a command made, by its answer. -/
def created? : Command → Except Failure Answer → Option Pid
  | .exec _ _, .ok (.process pid) => some pid
  | .fork, .ok (.process pid) => some pid
  | _, _ => none

/-- A new process gets the place in the count that is next, and only a new process uses it up. -/
theorem created_of_outcome (outcome : Outcome scheduler command result after) :
    (created? command result = none ∧ after.nextPid = scheduler.nextPid) ∨
      (created? command result = some ⟨scheduler.nextPid⟩ ∧
        after.nextPid = scheduler.nextPid + 1) := by
  cases outcome with
  | executed | forked => exact Or.inr ⟨rfl, by simp [numbered]⟩
  | yielded => exact Or.inl ⟨rfl, nextPid_yielded scheduler⟩
  | exited => exact Or.inl ⟨rfl, nextPid_vacated scheduler⟩
  | _ => exact Or.inl ⟨rfl, rfl⟩

theorem nextPid_le_of_outcome (outcome : Outcome scheduler command result after) :
    scheduler.nextPid ≤ after.nextPid := by
  rcases created_of_outcome outcome with ⟨-, same⟩ | ⟨-, next⟩
  · exact Nat.le_of_eq same.symm
  · rw [next]
    exact Nat.le_succ _

theorem pid_of_executed {name : String} {file : File} {pid : Pid}
    (outcome : Outcome scheduler (.exec name file) (.ok (.process pid)) after) :
    pid.serial = scheduler.nextPid ∧ after.nextPid = scheduler.nextPid + 1 := by
  rcases created_of_outcome outcome with ⟨none, -⟩ | ⟨some, next⟩
  · cases none
  · cases some
    exact ⟨rfl, next⟩

/-! ### The past of a process -/

/-- The turns that led to a scheduler. -/
abbrev Past (geometry : Geometry) : Type :=
  List (Turn Command (Scheduler geometry) Failure Answer)

/-- The process was started from a file. -/
def Executed (past : Past geometry) (pid : Pid) : Prop :=
  ∃ turn ∈ past, ∃ name file, turn.command = .exec name file ∧
    turn.report.result = .ok (.process pid)

/-- The process had the machine after some turn. A command gives the machine to one process at
most, as the last thing that it does. -/
def HasRun (past : Past geometry) (pid : Pid) : Prop :=
  ∃ turn ∈ past, ∃ process, turn.report.state.current = some process ∧ process.pid = pid

section Snoc

variable {past : Past geometry} {turn : Turn Command (Scheduler geometry) Failure Answer}
  {pid : Pid}

theorem executed_snoc :
    Executed (past ++ [turn]) pid ↔ Executed past pid ∨
      ∃ name file, turn.command = .exec name file ∧ turn.report.result = .ok (.process pid) := by
  simp [Executed, or_and_right, exists_or]

theorem hasRun_snoc :
    HasRun (past ++ [turn]) pid ↔ HasRun past pid ∨
      ∃ process, turn.report.state.current = some process ∧ process.pid = pid := by
  simp [HasRun, or_and_right, exists_or]

end Snoc

/-! ### The count of processes -/

/-- The processes made along the turns, in their order. -/
def created (past : Past geometry) : List Pid :=
  past.filterMap fun turn => created? turn.command turn.report.result

theorem created_snoc (past : Past geometry)
    (turn : Turn Command (Scheduler geometry) Failure Answer) :
    created (past ++ [turn]) =
      created past ++ (created? turn.command turn.report.result).toList :=
  filterMap_snoc _ past turn

/-- New processes are counted without a gap, and each process was there from the start or was made
on the way. -/
structure Counted (initial : Scheduler geometry) (past : Past geometry)
    (scheduler : Scheduler geometry) : Prop where
  next : scheduler.nextPid = initial.nextPid + (created past).length
  serials : created past = (List.range' initial.nextPid (created past).length).map Pid.mk
  known : ∀ tenant ∈ scheduler.tenants, tenant ∈ initial.tenants ∨ tenant.pid ∈ created past

/-- A process after a command was there before, or the command made it. -/
theorem tenant_of_outcome (orderly : scheduler.Orderly)
    (outcome : Outcome scheduler command result after) {tenant : Tenant}
    (member : tenant ∈ after.tenants) :
    tenant ∈ scheduler.tenants ∨ created? command result = some tenant.pid := by
  cases outcome with
  | @executed _ _ _ _ _ kernel | @forked _ _ kernel =>
      have empty : (scheduler.numbered kernel).current = none →
          (scheduler.numbered kernel).ready = [] := fun idle => (orderly.idle idle).1
      rw [tenants_admitted empty] at member
      rcases List.mem_append.mp member with old | new
      · exact Or.inl old
      · rw [List.mem_singleton.mp new]
        exact Or.inr rfl
  | yielded => exact Or.inl (scheduler.tenants_yielded.mem_iff.mp member)
  | exited running =>
      rw [tenants_vacated] at member
      rw [tenants_of_running running]
      exact Or.inl (List.mem_cons_of_mem _ member)
  | _ => exact Or.inl member

/-- A process that was not there from the start has one of the places of the count since then. -/
theorem Counted.within {initial : Scheduler geometry} {past : Past geometry}
    (counted : Counted initial past scheduler) (empty : initial.tenants = [])
    (member : process ∈ scheduler.live) :
    initial.nextPid ≤ process.pid.serial ∧ process.pid.serial < scheduler.nextPid := by
  rcases counted.known process.tenant (List.mem_map_of_mem member) with old | new
  · rw [empty] at old
    cases old
  · rw [counted.serials, List.mem_map] at new
    obtain ⟨serial, listed, same⟩ := new
    have place : serial = process.pid.serial := congrArg Pid.serial same
    rw [← place, counted.next]
    exact List.mem_range'_1.mp listed

theorem Counted.snoc {initial : Scheduler geometry} {past : Past geometry}
    (counted : Counted initial past scheduler) (orderly : scheduler.Orderly) {events : List Event}
    (outcome : Outcome scheduler command result after) :
    Counted initial (past ++ [⟨command, result, after, events⟩]) after := by
  have made := created_of_outcome outcome
  constructor
  case next =>
    rw [created_snoc]
    rcases made with ⟨made, same⟩ | ⟨made, next⟩
    · simpa [made, same] using counted.next
    · simp [made, next, counted.next, Nat.add_assoc]
  case serials =>
    rw [created_snoc]
    rcases made with ⟨made, -⟩ | ⟨made, -⟩
    · simpa [made] using counted.serials
    · simp [made, counted.next, List.range'_concat, ← counted.serials]
  case known =>
    intro tenant member
    rw [created_snoc, List.mem_append, Option.mem_toList]
    rcases tenant_of_outcome orderly outcome member with old | new
    · exact (counted.known tenant old).imp_right Or.inl
    · exact Or.inr (Or.inr new)

theorem counted_of_course (orderly : scheduler.Orderly) {past : Past geometry}
    (course : Course step scheduler past after) :
    after.Orderly ∧ Counted scheduler past after := by
  induction course with
  | nil => exact ⟨orderly, rfl, rfl, fun _ member => Or.inl member⟩
  | snoc _ ran inductionHypothesis =>
      obtain ⟨orderly, counted⟩ := inductionHypothesis
      exact ⟨orderly_step orderly ran, counted.snoc orderly (outcome_of_step orderly ran)⟩

/-! ### What the registers tell -/

/-- The scheduler is in order, and the registers of a waiting process tell its past. -/
structure Chronicled (past : Past geometry) (scheduler : Scheduler geometry) : Prop where
  orderly : scheduler.Orderly
  executed : ∀ pid, Executed past pid → pid.serial < scheduler.nextPid
  hasRun : ∀ pid, HasRun past pid → pid.serial < scheduler.nextPid
  running : ∀ process, scheduler.current = some process → HasRun past process.pid
  waiting : ∀ process ∈ scheduler.ready,
    process.saved = none ↔ Executed past process.pid ∧ ¬ HasRun past process.pid

namespace Chronicled

variable {past : Past geometry}

theorem nil (orderly : scheduler.Orderly) (idle : scheduler.current = none) :
    Chronicled [] scheduler where
  orderly := orderly
  executed := fun _ executed => by simp [Executed] at executed
  hasRun := fun _ run => by simp [HasRun] at run
  running := fun _ running => nomatch idle.symm.trans running
  waiting := by
    rw [(orderly.idle idle).1]
    exact fun _ member => nomatch member

/-- A process of the queue has its registers from where it comes from. -/
theorem waiting_of_origin (chronicled : Chronicled past scheduler) (kept : after.Orderly)
    {events : List Event} (outcome : Outcome scheduler command result after)
    (origin : Origin scheduler command result process) (member : process ∈ after.ready) :
    process.saved = none ↔ Executed (past ++ [⟨command, result, after, events⟩]) process.pid ∧
      ¬ HasRun (past ++ [⟨command, result, after, events⟩]) process.pid := by
  -- The process does not run after the turn, so the turn adds nothing to the runs it had.
  have runs : HasRun (past ++ [⟨command, result, after, events⟩]) process.pid ↔
      HasRun past process.pid := by
    rw [hasRun_snoc, or_iff_left]
    rintro ⟨running, current, same⟩
    exact kept.pid_ne current member same
  rw [runs, executed_snoc]
  cases origin with
  | waited old =>
      rw [chronicled.waiting process old, or_iff_left]
      rintro ⟨name, file, rfl, rfl⟩
      have taken := (pid_of_executed outcome).1
      have below := chronicled.orderly.serial_lt (List.mem_append_right _ old)
      omega
  | @suspended _ _ running current =>
      have run : HasRun past running.pid := chronicled.running running current
      simp [suspend, run]
  | executed =>
      have unrun : ¬ HasRun past ⟨scheduler.nextPid⟩ :=
        fun run => Nat.lt_irrefl _ (chronicled.hasRun _ run)
      simp [newcomer, unrun]
  | forked =>
      have unexecuted : ¬ Executed past ⟨scheduler.nextPid⟩ :=
        fun executed => Nat.lt_irrefl _ (chronicled.executed _ executed)
      simp [newcomer, unexecuted]

theorem snoc (chronicled : Chronicled past scheduler)
    {report : Report (Scheduler geometry) Failure Answer}
    (ran : (step command).run scheduler = .ok report) :
    Chronicled (past ++ [⟨command, report⟩]) report.state := by
  obtain ⟨result, after, events⟩ := report
  have outcome := outcome_of_step chronicled.orderly ran
  have orderly := orderly_of_outcome chronicled.orderly outcome
  have counted := nextPid_le_of_outcome outcome
  constructor
  case orderly => exact orderly
  case executed =>
    intro pid executed
    rcases executed_snoc.mp executed with before | ⟨name, file, rfl, rfl⟩
    · exact Nat.lt_of_lt_of_le (chronicled.executed pid before) counted
    · obtain ⟨number, next⟩ := pid_of_executed outcome
      rw [number, next]
      exact Nat.lt_succ_self _
  case hasRun =>
    intro pid run
    rcases hasRun_snoc.mp run with before | ⟨process, current, rfl⟩
    · exact Nat.lt_of_lt_of_le (chronicled.hasRun pid before) counted
    · exact orderly.serial_lt (by simp_all [live])
  case running => exact fun process current => hasRun_snoc.mpr (Or.inr ⟨process, current, rfl⟩)
  case waiting =>
    intro process member
    have shift := shift_of_step chronicled.orderly.bytes_lt_limit ran
    exact chronicled.waiting_of_origin orderly outcome (shift.origin member) member

end Chronicled

theorem chronicled_of_course {initial : Scheduler geometry} {past : Past geometry}
    (orderly : initial.Orderly) (idle : initial.current = none)
    (course : Course step initial past scheduler) : Chronicled past scheduler := by
  induction course with
  | nil => exact .nil orderly idle
  | snoc _ ran inductionHypothesis => exact inductionHypothesis.snoc ran

/-! ### Consistency -/

/-- All that holds of a scheduler after the turns of its past. Nothing waits for an idle machine.
The running process has the machine, which translates through its table, and its registers are
there. A waiting process has registers unless it was started and has not had the machine yet. No
two processes share a place in the count, nor a number as long as no more were made than there are
numbers, and the table of each maps its pages to its frames in order. -/
structure Consistent (past : Past geometry) (scheduler : Scheduler geometry) : Prop where
  idle : scheduler.current = none →
    scheduler.ready = [] ∧ scheduler.kernel.machine.installed = none
  running : ∀ process, scheduler.current = some process →
    scheduler.kernel.machine.installed = some ⟨process.space.table, process.space.pages⟩ ∧
      (scheduler.kernel.tables.table process.space.table).size = process.space.pages ∧
      process.state = .running ∧ process.saved = none
  waiting : ∀ process ∈ scheduler.ready, process.state = .ready ∧
    (process.saved = none ↔ Executed past process.pid ∧ ¬ HasRun past process.pid)
  distinct : (scheduler.live.map (·.pid)).Nodup
  numbers : (created past).length ≤ UInt64.size → (scheduler.live.map (·.pid.number)).Nodup
  mapped : ∀ process ∈ scheduler.live, (scheduler.kernel.tables.table process.space.table).Linear
    process.space.firstFrame process.space.pages

/-- A scheduler on a new machine is consistent after any turns, wherever the count of processes
stood at its start. -/
theorem course_consistent {machine : Machine geometry}
    (created : Machine.create geometry = .ok (.ok machine)) {frames : FramePool} {nextPid : Nat}
    {past : Past geometry} (course : Course step (start machine frames nextPid) past scheduler) :
    scheduler.Consistent past := by
  have started := orderly_created created frames nextPid
  have chronicled := chronicled_of_course started rfl course
  have orderly := chronicled.orderly
  have mapped : ∀ process ∈ scheduler.live, (scheduler.kernel.tables.table
      process.space.table).Linear process.space.firstFrame process.space.pages :=
    fun process live => (orderly.backed live).linear
  constructor
  case idle => exact orderly.idle
  case running =>
    intro process current
    obtain ⟨installed, state, saved⟩ := orderly.running process current
    have live : process ∈ scheduler.live := by simp [live, current]
    exact ⟨installed, (mapped process live).size_eq, state, saved⟩
  case waiting =>
    exact fun process member =>
      ⟨orderly.waiting process member, chronicled.waiting process member⟩
  case distinct => exact orderly.nodup_pids
  case numbers =>
    intro few
    have counted := (counted_of_course started course).2
    have bounded : scheduler.nextPid ≤ nextPid + UInt64.size := by
      rw [counted.next]
      exact Nat.add_le_add_left few nextPid
    have within : ∀ pid ∈ scheduler.live.map (·.pid),
        nextPid ≤ pid.serial ∧ pid.serial < scheduler.nextPid := by
      intro pid member
      obtain ⟨process, live, rfl⟩ := List.mem_map.mp member
      exact counted.within rfl live
    have numbers := Pid.nodup_numbers bounded within orderly.nodup_pids
    rwa [List.map_map] at numbers
  case mapped => exact mapped

/-- A program of nothing but its header. -/
def headerImage : File where
  contents := Header.encode { magic := imageMagic } .native

/-- A process is forked and another one started while it runs, and then it gives way. -/
def relay : List Command := [.exec "first" headerImage, .fork, .exec "second" headerImage, .yield]

theorem course_consistent_relay :
    Machine.create { pageSize := 4, frames := 6, stackSize := 4 } =
        .ok (.ok AddressSpace.smallKernel.machine) ∧
      ∃ past final,
        Course step (start AddressSpace.smallKernel.machine (.ofTotal 6)) past final ∧
        past.map (·.command) = relay ∧
        final.live.map (fun process => (process.pid, process.saved.isSome)) =
          [(⟨2⟩, false), (⟨3⟩, false), (⟨1⟩, true)] ∧
        final.Consistent past := by
  have created : Machine.create { pageSize := 4, frames := 6, stackSize := 4 } =
      .ok (.ok AddressSpace.smallKernel.machine) := rfl
  have ended : ((start AddressSpace.smallKernel.machine (.ofTotal 6)).run relay).toOption.map
      (fun ended => ended.1.live.map fun process => (process.pid, process.saved.isSome)) =
        some [(⟨2⟩, false), (⟨3⟩, false), (⟨1⟩, true)] := by
    decide +kernel
  obtain ⟨⟨final, results⟩, ran, queue⟩ := exists_of_seen ended
  obtain ⟨past, course, taken, -⟩ := course_of_runAll ran
  exact ⟨created, past, final, course, taken, queue, course_consistent created course⟩

end PagedKernel.Scheduler
