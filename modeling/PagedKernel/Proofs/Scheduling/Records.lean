import PagedKernel.Proofs.Scheduling.Fairness

/-!
Contract: what the past of a scheduler says of its processes, whatever happened
to its kernel.

Owns:
- the processes that a program was loaded for, and those that have had the
  machine, by the occurrences of a history (`Scheduler.Loaded`,
  `Scheduler.Ran`);
- the registers and states of processes by their past (`Scheduler.Recorded`);
- how the running process came to run, and the table in use, which is its own as
  long as nobody from outside installs another (`Occurrence.Steady`).

Does not own: runs of commands alone from a new machine, of which more is true
(`Scheduling.Chronicle`).
-/

namespace PagedKernel.Scheduler

open PagedKernel.Action

variable {geometry : Geometry} {scheduler after : Scheduler geometry} {process : Process}

/-! ### The running process after a command -/

/-- The machine translates through the table of the running process. -/
def InContext (scheduler : Scheduler geometry) : Prop :=
  ∀ process, scheduler.current = some process →
    scheduler.kernel.machine.installed = some ⟨process.space.table, process.space.pages⟩

/-- How a process comes to run after a change of the scheduler: it did before, and the table in use
stayed, or it waited and got the machine with its own table. -/
inductive Tenure (before after : Scheduler geometry) : Process → Prop where
  | stayed {process : Process} (current : before.current = some process)
      (installed : after.kernel.machine.installed = before.kernel.machine.installed) :
      Tenure before after process
  | given {waiting : Process}
      (installed : after.kernel.machine.installed =
        some ⟨waiting.space.table, waiting.space.pages⟩) :
      Tenure before after waiting.dispatched

theorem tenure_given {before : Scheduler geometry} {chosen : Process}
    (current : (scheduler.given chosen).current = some process) :
    Tenure before (scheduler.given chosen) process := by
  cases current
  exact .given rfl

theorem tenure_admitted {kernel : Kernel geometry} {newcomer : Process}
    (installed : kernel.machine.installed = scheduler.kernel.machine.installed)
    (current : ((scheduler.numbered kernel).admitted newcomer).current = some process) :
    Tenure scheduler ((scheduler.numbered kernel).admitted newcomer) process := by
  rcases Option.eq_none_or_eq_some scheduler.current with idle | ⟨running, led⟩
  · have still : (scheduler.numbered kernel).current = none := idle
    rw [admitted_of_idle still] at current ⊢
    exact tenure_given current
  · have still : (scheduler.numbered kernel).current = some running := led
    rw [admitted_of_running still] at current ⊢
    exact .stayed current installed

/-- What runs after a command either ran before it or was given the machine. -/
theorem Shift.tenure {command : Command} {result : Except Failure Answer}
    (shift : Shift scheduler command result after) (current : after.current = some process) :
    Tenure scheduler after process := by
  cases shift with
  | kept _ _ installed => exact .stayed current installed
  | executed _ installed | forked _ installed => exact tenure_admitted installed current
  | yielded =>
      cases queue : scheduler.ready with
      | nil =>
          rw [yielded_of_nil queue] at current ⊢
          exact .stayed current rfl
      | cons next rest =>
          rw [yielded_of_cons queue] at current ⊢
          exact tenure_given current
  | exitIdle => exact .stayed current rfl
  | exited =>
      cases queue : scheduler.ready with
      | nil =>
          rw [vacated_of_nil queue] at current
          cases current
      | cons next rest =>
          rw [vacated_of_cons queue] at current ⊢
          exact tenure_given current

theorem Tenure.inContext (tenure : Tenure scheduler after process) (context : scheduler.InContext) :
    after.kernel.machine.installed = some ⟨process.space.table, process.space.pages⟩ := by
  cases tenure with
  | stayed current installed =>
      rw [installed]
      exact context process current
  | given installed => exact installed

/-! ### The past of a process -/

section History

variable {past : History geometry} {occurrence : Occurrence geometry} {pid : Pid}
  {report : Report (Scheduler geometry) Failure Answer}

/-- The process was started from a file. -/
def Loaded (past : History geometry) (pid : Pid) : Prop :=
  ∃ turn ∈ past, ∃ name file, turn.command = .command (.exec name file) ∧
    turn.report.result = .ok (.process pid)

/-- The process had the machine after some occurrence. -/
def Ran (past : History geometry) (pid : Pid) : Prop :=
  ∃ turn ∈ past, ∃ process, turn.report.state.current = some process ∧ process.pid = pid

theorem loaded_snoc : Loaded (past ++ [⟨occurrence, report⟩]) pid ↔ Loaded past pid ∨
    ∃ name file, occurrence = .command (.exec name file) ∧ report.result = .ok (.process pid) := by
  simp [Loaded, or_and_right, exists_or]

theorem ran_snoc : Ran (past ++ [⟨occurrence, report⟩]) pid ↔ Ran past pid ∨
    ∃ process, report.state.current = some process ∧ process.pid = pid := by
  simp [Ran, or_and_right, exists_or]

theorem mem_made_of_loaded (loaded : Loaded past pid) : pid ∈ made past := by
  obtain ⟨turn, member, name, file, asked, answered⟩ := loaded
  refine List.mem_filterMap.mpr ⟨turn, member, ?_⟩
  rw [asked, answered]
  rfl

/-- A process that lives has none of the places in the count that are still to be given. -/
theorem Accounted.serial_lt {first : Nat} (accounted : Accounted first past scheduler)
    (member : process ∈ scheduler.live) : process.pid.serial < scheduler.nextPid := by
  have known := (accounted.mem_pids_iff process.pid).mp (List.mem_map_of_mem member)
  exact (accounted.numbered _ known.1).2

/-- The processes are marked as what they do, and their registers are where their past says. Those
of the running process are in the machine. A waiting process has its own, unless it was started from
a file and has not had the machine yet. -/
structure Recorded (past : History geometry) (scheduler : Scheduler geometry) : Prop where
  ran : ∀ pid, Ran past pid → pid.serial < scheduler.nextPid
  running : ∀ process, scheduler.current = some process →
    process.state = .running ∧ process.saved = none ∧ Ran past process.pid
  waiting : ∀ process ∈ scheduler.ready, process.state = .ready ∧
    (process.saved = none ↔ Loaded past process.pid ∧ ¬ Ran past process.pid)

namespace Recorded

theorem nil (idle : scheduler.current = none) (empty : scheduler.ready = []) :
    Recorded [] scheduler where
  ran := fun _ ran => by simp [Ran] at ran
  running := fun _ running => nomatch idle.symm.trans running
  waiting := by
    rw [empty]
    exact fun _ member => nomatch member

section Snoc

variable {first : Nat} (recorded : Recorded past scheduler) (sound : scheduler.Sound)
  (before : Accounted first past scheduler) (ran : (occur occurrence).run scheduler = .ok report)
include recorded sound before ran

/-- A process of the queue has its registers from where it comes from. -/
theorem waiting_of_occur (member : process ∈ report.state.ready) : process.state = .ready ∧
    (process.saved = none ↔
      Loaded (past ++ [⟨occurrence, report⟩]) process.pid ∧ ¬ Ran past process.pid) := by
  obtain ⟨result, after, events⟩ := report
  have numbering := (advance_of_occur sound ran).numbering
  -- Only a process that is new in the count is started now, so the past of an old one stays.
  have waited : process ∈ scheduler.ready → process.state = .ready ∧ (process.saved = none ↔
      Loaded (past ++ [⟨occurrence, result, after, events⟩]) process.pid ∧
        ¬ Ran past process.pid) := by
    intro old
    obtain ⟨state, saved⟩ := recorded.waiting process old
    refine ⟨state, ?_⟩
    rw [saved, loaded_snoc, or_iff_left]
    rintro ⟨name, file, rfl, answered⟩
    have known := before.serial_lt (List.mem_append_right _ old)
    cases answered
    have new := (numbering.2 process.pid rfl).1
    omega
  cases occurrence with
  | outside change numbers =>
      cases ran
      exact waited member
  | command command =>
      cases (shift_of_step sound.bytes_lt_limit ran).origin member with
      | waited old => exact waited old
      | @suspended _ _ running current =>
          have run := (recorded.running running current).2.2
          simp [suspend, run]
      | executed =>
          have unrun : ¬ Ran past ⟨scheduler.nextPid⟩ :=
            fun run => Nat.lt_irrefl _ (recorded.ran _ run)
          simp [newcomer, unrun, loaded_snoc]
      | forked =>
          have unloaded : ¬ Loaded past ⟨scheduler.nextPid⟩ := fun loaded =>
            Nat.lt_irrefl _ (before.numbered _ (mem_made_of_loaded loaded)).2
          simp [newcomer, unloaded, loaded_snoc]

theorem snoc (after : Accounted first (past ++ [⟨occurrence, report⟩]) report.state) :
    Recorded (past ++ [⟨occurrence, report⟩]) report.state := by
  constructor
  case ran =>
    intro pid run
    rcases ran_snoc.mp run with earlier | ⟨process, current, rfl⟩
    · exact Nat.lt_of_lt_of_le (recorded.ran pid earlier)
        (advance_of_occur sound ran).numbering.1
    · exact after.serial_lt (by simp [live, current])
  case running =>
    intro process current
    have run : Ran (past ++ [⟨occurrence, report⟩]) process.pid :=
      ran_snoc.mpr (.inr ⟨process, current, rfl⟩)
    cases occurrence with
    | outside change numbers =>
        cases ran
        obtain ⟨state, saved, -⟩ := recorded.running process current
        exact ⟨state, saved, run⟩
    | command command =>
        cases (shift_of_step sound.bytes_lt_limit ran).tenure current with
        | stayed led =>
            obtain ⟨state, saved, -⟩ := recorded.running process led
            exact ⟨state, saved, run⟩
        | given => exact ⟨rfl, rfl, run⟩
  case waiting =>
    intro process member
    have runs : Ran (past ++ [⟨occurrence, report⟩]) process.pid ↔ Ran past process.pid := by
      rw [ran_snoc, or_iff_left]
      rintro ⟨running, current, same⟩
      exact after.pid_ne_of_waiting current member same
    rw [runs]
    exact recorded.waiting_of_occur sound before ran member

end Snoc

end Recorded

/-- Whatever happened to a scheduler without processes at first, it is recorded. -/
theorem recorded_of_course {initial : Scheduler geometry} (idle : initial.current = none)
    (empty : initial.ready = []) (course : Course occur initial past scheduler) :
    Recorded past scheduler := by
  induction course with
  | nil => exact .nil idle empty
  | snoc course ran inductionHypothesis =>
      obtain ⟨sound, before⟩ := accounted_of_course idle empty course
      obtain ⟨-, after⟩ := accounted_of_course idle empty (course.snoc ran)
      exact inductionHypothesis.snoc sound before ran after

/-! ### The table in use over a history -/

/-- The occurrence is a command, or a change from outside that leaves the table in use. -/
def Occurrence.Steady : Occurrence geometry → Prop
  | .command _ => True
  | .outside change _ => ∀ kernel, (change kernel).machine.installed = kernel.machine.installed

theorem inContext_of_occur (sound : scheduler.Sound) (context : scheduler.InContext)
    (steady : occurrence.Steady) (ran : (occur occurrence).run scheduler = .ok report) :
    report.state.InContext := by
  cases occurrence with
  | outside change numbers =>
      cases ran
      intro process current
      rw [← context process current]
      exact steady scheduler.kernel
  | command command =>
      intro process current
      exact ((shift_of_step sound.bytes_lt_limit ran).tenure current).inContext context

/-- As long as nobody from outside installs another table, the one in use is that of the running
process. -/
theorem inContext_of_course {initial : Scheduler geometry} (idle : initial.current = none)
    (empty : initial.ready = []) (course : Course occur initial past scheduler)
    (steady : ∀ turn ∈ past, turn.command.Steady) : scheduler.InContext := by
  induction course with
  | nil => exact fun _ running => nomatch idle.symm.trans running
  | snoc course ran inductionHypothesis =>
      obtain ⟨earlier, now⟩ := List.forall_mem_append.mp steady
      have sound := (accounted_of_course idle empty course).1
      have last := now _ (List.mem_singleton.mpr rfl)
      exact inContext_of_occur sound (inductionHypothesis earlier) last ran

end History

end PagedKernel.Scheduler
