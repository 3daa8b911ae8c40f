import PagedKernel.Proofs.Scheduling.Occurrences

/-!
Contract: every process of the queue gets the machine in its turn, and none is
lost on the way.

Owns:
- the processes made and ended over a run of occurrences, and the switches of
  the run;
- the place of a waiting process after any number of switches;
- the balance of the processes made against those that live and those that
  ended (`Scheduler.Accounted`);
- all of this for every scheduler that occurrences lead to from one without
  processes (`Scheduler.Fair`).

Does not own: the registers with which a process goes on (`Scheduling.Runs`).
-/

namespace PagedKernel.Scheduler

open PagedKernel.Action
open scoped List

variable {geometry : Geometry} {scheduler final : Scheduler geometry} {process : Process}

/-! ### Runs of occurrences -/

/-- The occurrences that led to a scheduler, with their reports. -/
abbrev History (geometry : Geometry) : Type :=
  List (Turn (Occurrence geometry) (Scheduler geometry) Failure Answer)

/-- The processes that were made, in order. -/
def made (past : History geometry) : List Pid :=
  past.filterMap fun turn => turn.command.created? turn.report.result

/-- The processes that ended, in order. -/
def ended (past : History geometry) : List Pid :=
  past.filterMap fun turn => turn.command.ended? turn.report.result

/-- How often the machine was asked to run the first of the queue. -/
def switches (past : History geometry) : Nat :=
  past.countP fun turn => turn.command.Switches

section Snoc

variable {past : History geometry} {occurrence : Occurrence geometry}
  {report : Report (Scheduler geometry) Failure Answer}

theorem made_snoc : made (past ++ [⟨occurrence, report⟩]) =
    made past ++ (occurrence.created? report.result).toList :=
  filterMap_snoc _ past ⟨occurrence, report⟩

theorem ended_snoc : ended (past ++ [⟨occurrence, report⟩]) =
    ended past ++ (occurrence.ended? report.result).toList :=
  filterMap_snoc _ past ⟨occurrence, report⟩

theorem switches_snoc_of (switching : occurrence.Switches) :
    switches (past ++ [⟨occurrence, report⟩]) = switches past + 1 := by
  simp [switches, List.countP_append, switching]

theorem switches_snoc_of_not (passive : ¬ occurrence.Switches) :
    switches (past ++ [⟨occurrence, report⟩]) = switches past := by
  simp [switches, List.countP_append, passive]

end Snoc

/-! ### The place of a waiting process -/

theorem getElem?_of_extended {queue longer : List Process} {position : Nat}
    (extended : queue <+: longer) (found : queue[position]? = some process) :
    longer[position]? = some process := by
  obtain ⟨inside, held⟩ := List.getElem?_eq_some_iff.mp found
  rw [List.prefix_iff_getElem?.mp extended position inside, held]

section Step

variable {occurrence : Occurrence geometry} {result : Except Failure Answer} {position : Nat}
  (sound : scheduler.Sound) (advance : Advance scheduler occurrence result final)
include sound

/-- Something runs as long as something waits, and so something is first in the queue. -/
theorem Sound.exists_queue (found : scheduler.ready[position]? = some process) :
    ∃ running next rest, scheduler.current = some running ∧ scheduler.ready = next :: rest := by
  cases queue : scheduler.ready with
  | nil =>
      rw [queue] at found
      cases found
  | cons next rest =>
      rcases Option.eq_none_or_eq_some scheduler.current with idle | ⟨running, current⟩
      · cases queue.symm.trans (sound.idle idle)
      · exact ⟨running, next, rest, current, rfl⟩

include advance

theorem stays_of_not_switches (passive : ¬ occurrence.Switches)
    (found : scheduler.ready[position]? = some process) :
    final.ready[position]? = some process := by
  obtain ⟨running, next, rest, current, -⟩ := sound.exists_queue found
  exact getElem?_of_extended (advance.unswitched passive current).2 found

theorem moves_up_of_switches (switching : occurrence.Switches)
    (found : scheduler.ready[position + 1]? = some process) :
    final.ready[position]? = some process := by
  obtain ⟨running, next, rest, current, queue⟩ := sound.exists_queue found
  rw [queue, List.getElem?_cons_succ] at found
  exact getElem?_of_extended (advance.switched switching current queue).2 found

theorem runs_of_switches (switching : occurrence.Switches)
    (found : scheduler.ready[0]? = some process) : final.current = some process.dispatched := by
  obtain ⟨running, next, rest, current, queue⟩ := sound.exists_queue found
  rw [queue] at found
  cases found
  exact (advance.switched switching current queue).1

end Step

/-- A process that stands at a position of the queue moves up by one place with every switch, until
a switch from the first place gives it the machine, which it keeps until the next one. -/
theorem place_of_course {position : Nat} (sound : scheduler.Sound)
    (found : scheduler.ready[position]? = some process) {later : History geometry}
    (course : Course occur scheduler later final) :
    final.Sound ∧
      (switches later ≤ position → final.ready[position - switches later]? = some process) ∧
      (switches later = position + 1 → final.current = some process.dispatched) := by
  induction course with
  | nil => exact ⟨sound, fun _ => found, fun passed => absurd passed (Nat.succ_ne_zero _).symm⟩
  | @snoc past state occurrence report course ran inductionHypothesis =>
      obtain ⟨sound, waiting, running⟩ := inductionHypothesis
      have advance := advance_of_occur sound ran
      refine ⟨sound_of_advance sound advance, ?_⟩
      by_cases switching : occurrence.Switches
      · rw [switches_snoc_of switching]
        constructor
        · intro before
          have place := waiting (Nat.le_of_succ_le before)
          rw [← Nat.sub_add_cancel (Nat.sub_pos_of_lt before)] at place
          exact moves_up_of_switches sound advance switching place
        · intro reached
          have passed : position = switches past := (Nat.succ.inj reached).symm
          have first := waiting (Nat.le_of_eq passed.symm)
          rw [passed, Nat.sub_self] at first
          exact runs_of_switches sound advance switching first
      · rw [switches_snoc_of_not switching]
        constructor
        · exact fun before => stays_of_not_switches sound advance switching (waiting before)
        · exact fun reached => (advance.unswitched switching (running reached)).1

/-! ### The balance of processes -/

/-- The processes that have not ended, the running one first. -/
def pids (scheduler : Scheduler geometry) : List Pid :=
  scheduler.live.map (·.pid)

theorem map_tenants (scheduler : Scheduler geometry) :
    scheduler.tenants.map (·.pid) = scheduler.pids :=
  List.map_map

theorem pids_admitted (idle : scheduler.current = none → scheduler.ready = []) :
    (scheduler.admitted process).pids = scheduler.pids ++ [process.pid] := by
  rw [← map_tenants, tenants_admitted idle, List.map_append, map_tenants]
  rfl

theorem pids_yielded (scheduler : Scheduler geometry) :
    scheduler.yielded.pids.Perm scheduler.pids := by
  rw [← map_tenants, ← map_tenants]
  exact scheduler.tenants_yielded.map _

theorem pids_vacated (scheduler : Scheduler geometry) :
    scheduler.vacated.pids = scheduler.ready.map (·.pid) := by
  rw [← map_tenants, tenants_vacated, List.map_map]
  rfl

theorem pids_of_running (running : scheduler.current = some process) :
    scheduler.pids = process.pid :: scheduler.ready.map (·.pid) := by
  simp [pids, live, running]

section Step

variable {occurrence : Occurrence geometry} {result : Except Failure Answer}

/-- An occurrence adds the process that it made, and takes away the one that it ended. -/
theorem Advance.balance (sound : scheduler.Sound)
    (advance : Advance scheduler occurrence result final) :
    (final.pids ++ (occurrence.ended? result).toList).Perm
      (scheduler.pids ++ (occurrence.created? result).toList) := by
  cases advance with
  | kept passive unmade =>
      rw [Occurrence.ended?_of_not_switches passive, unmade]
      exact .refl _
  | @joined _ _ kernel _ passive made =>
      have idle : (scheduler.numbered kernel).current = none →
          (scheduler.numbered kernel).ready = [] := sound.idle
      rw [Occurrence.ended?_of_not_switches passive, made, pids_admitted idle, Option.toList_none,
        List.append_nil]
      exact .refl _
  | yielded => exact scheduler.pids_yielded.append_right []
  | exitIdle => exact .refl _
  | @exited finished running =>
      rw [pids_vacated, pids_of_running running]
      show (_ ++ [finished.pid]).Perm (finished.pid :: _ ++ [])
      rw [List.append_nil]
      exact List.perm_append_singleton _ _

/-- A process that an occurrence made has the place in the count that was next, which is used up
then. -/
theorem Advance.numbering (advance : Advance scheduler occurrence result final) :
    scheduler.nextPid ≤ final.nextPid ∧ ∀ pid, occurrence.created? result = some pid →
      pid.serial = scheduler.nextPid ∧ scheduler.nextPid < final.nextPid := by
  cases advance with
  | kept _ unmade counted => exact ⟨counted, fun _ made => nomatch unmade.symm.trans made⟩
  | joined _ made number =>
      rw [nextPid_admitted]
      refine ⟨Nat.le_succ _, ?_⟩
      intro pid again
      cases made.symm.trans again
      exact ⟨congrArg Pid.serial number, Nat.lt_succ_self _⟩
  | yielded => exact ⟨Nat.le_of_eq (nextPid_yielded scheduler).symm, fun _ made => nomatch made⟩
  | exitIdle => exact ⟨Nat.le_refl _, fun _ made => nomatch made⟩
  | exited => exact ⟨Nat.le_of_eq (nextPid_vacated scheduler).symm, fun _ made => nomatch made⟩

end Step

/-- The processes made are those that live and those that ended, and none was made twice. The count
stood at `first` before all of them. -/
structure Accounted (first : Nat) (past : History geometry) (scheduler : Scheduler geometry) :
    Prop where
  balance : (scheduler.pids ++ ended past).Perm (made past)
  distinct : (made past).Nodup
  begun : first ≤ scheduler.nextPid
  numbered : ∀ pid ∈ made past, first ≤ pid.serial ∧ pid.serial < scheduler.nextPid

namespace Accounted

variable {first : Nat} {past : History geometry}

theorem nil (idle : scheduler.current = none) (empty : scheduler.ready = []) :
    Accounted scheduler.nextPid [] scheduler where
  balance := by simp [pids, live, idle, empty, made, ended]
  distinct := List.nodup_nil
  begun := Nat.le_refl _
  numbered := fun _ member => nomatch member

theorem snoc (accounted : Accounted first past scheduler) (sound : scheduler.Sound)
    {occurrence : Occurrence geometry} {report : Report (Scheduler geometry) Failure Answer}
    (advance : Advance scheduler occurrence report.result report.state) :
    Accounted first (past ++ [⟨occurrence, report⟩]) report.state := by
  have moved := advance.balance sound
  obtain ⟨counted, numbering⟩ := advance.numbering
  constructor
  case balance =>
    rw [made_snoc, ended_snoc]
    calc report.state.pids ++ (ended past ++ (occurrence.ended? report.result).toList)
      _ ~ report.state.pids ++ (occurrence.ended? report.result).toList ++ ended past := by
        rw [List.append_assoc]
        exact List.perm_append_comm.append_left _
      _ ~ scheduler.pids ++ (occurrence.created? report.result).toList ++ ended past :=
        moved.append_right _
      _ ~ scheduler.pids ++ ended past ++ (occurrence.created? report.result).toList := by
        rw [List.append_assoc, List.append_assoc]
        exact List.perm_append_comm.append_left _
      _ ~ made past ++ (occurrence.created? report.result).toList :=
        accounted.balance.append_right _
  case distinct =>
    rw [made_snoc]
    cases created : occurrence.created? report.result with
    | none => simpa using accounted.distinct
    | some pid =>
        have number := (numbering pid created).1
        refine List.nodup_append.mpr ⟨accounted.distinct, List.pairwise_singleton _ _, ?_⟩
        intro old member new isNew same
        have below := (accounted.numbered old member).2
        rw [same, List.mem_singleton.mp isNew, number] at below
        exact Nat.lt_irrefl _ below
  case begun => exact Nat.le_trans accounted.begun counted
  case numbered =>
    rw [made_snoc]
    intro pid member
    rcases List.mem_append.mp member with old | new
    · obtain ⟨since, below⟩ := accounted.numbered pid old
      exact ⟨since, Nat.lt_of_lt_of_le below counted⟩
    · obtain ⟨number, below⟩ := numbering pid (Option.mem_toList.mp new)
      rw [number]
      exact ⟨accounted.begun, below⟩

variable (accounted : Accounted first past scheduler)
include accounted

theorem nodup_pids_append : (scheduler.pids ++ ended past).Nodup :=
  accounted.balance.nodup_iff.mpr accounted.distinct

theorem mem_pids_iff (pid : Pid) :
    pid ∈ scheduler.pids ↔ pid ∈ made past ∧ pid ∉ ended past := by
  have apart := (List.nodup_append.mp accounted.nodup_pids_append).2.2
  rw [← accounted.balance.mem_iff, List.mem_append]
  constructor
  · exact fun live => ⟨Or.inl live, fun done => apart pid live pid done rfl⟩
  · rintro ⟨live | done, notDone⟩
    · exact live
    · exact absurd done notDone

theorem nodup_pids : scheduler.pids.Nodup :=
  (List.nodup_append.mp accounted.nodup_pids_append).1

/-- As long as the count has not gone through all numbers, no two processes have had the same. -/
theorem nodup_numbers (few : scheduler.nextPid ≤ first + UInt64.size) :
    ((scheduler.pids ++ ended past).map Pid.number).Nodup := by
  have within : ∀ pid ∈ scheduler.pids ++ ended past,
      first ≤ pid.serial ∧ pid.serial < scheduler.nextPid :=
    fun pid member => accounted.numbered pid (accounted.balance.mem_iff.mp member)
  exact Pid.nodup_numbers few within accounted.nodup_pids_append

/-- The running process is none of those that wait. -/
theorem pid_ne_of_waiting {running : Process} (current : scheduler.current = some running)
    (member : process ∈ scheduler.ready) : running.pid ≠ process.pid := by
  have once := accounted.nodup_pids
  rw [pids_of_running current, List.nodup_cons] at once
  intro same
  rw [same] at once
  exact once.1 (List.mem_map_of_mem member)

end Accounted

/-- What occurrences lead to from a scheduler without processes is sound and accounted for. -/
theorem accounted_of_course {initial : Scheduler geometry} {past : History geometry}
    (idle : initial.current = none) (empty : initial.ready = [])
    (course : Course occur initial past scheduler) :
    scheduler.Sound ∧ Accounted initial.nextPid past scheduler := by
  induction course with
  | nil => exact ⟨sound_of_empty idle empty, .nil idle empty⟩
  | snoc _ ran inductionHypothesis =>
      obtain ⟨sound, accounted⟩ := inductionHypothesis
      have advance := advance_of_occur sound ran
      exact ⟨sound_of_advance sound advance, accounted.snoc sound advance⟩

/-! ### Switches that return -/

theorem run_step_yield (sound : scheduler.Sound) : ∃ events,
    (step .yield).run scheduler = .ok ⟨.ok .done, scheduler.yielded, events⟩ := by
  obtain ⟨events, ran⟩ := run_yield (ε := Failure) sound.bytes_lt_limit
  refine ⟨events, ?_⟩
  rw [step, run_map, ran]
  rfl

theorem run_step_exit_of_running (sound : scheduler.Sound)
    (running : scheduler.current = some process) : ∃ events,
    (step .exit).run scheduler = .ok ⟨.ok (.process process.pid), scheduler.vacated, events⟩ := by
  obtain ⟨events, ran⟩ := run_exit_of_running (ε := Failure) running sound.bytes_lt_limit
  refine ⟨events, ?_⟩
  rw [step, run_map, ran]
  rfl

theorem run_step_exit_of_idle (idle : scheduler.current = none) :
    (step .exit).run scheduler = .ok ⟨.ok .idle, scheduler, []⟩ := by
  rw [step, run_map, run_exit_of_idle idle]
  rfl

/-! ### Fairness -/

/-- What a scheduler owes to its processes. One that waits behind others runs after as many switches
as there are others before it and one more, and not earlier, whatever else happens in between. A
switch always comes to an end. The processes that live are those that were made and have not ended,
each of them once, and an exit ends the one that runs. Their numbers tell all of them apart until
the count has gone through all numbers from `first` on. -/
structure Fair (first : Nat) (past : History geometry) (scheduler : Scheduler geometry) : Prop
    extends Accounted first past scheduler where
  waits : ∀ {position : Nat} {process : Process} {later : History geometry}
      {final : Scheduler geometry}, scheduler.ready[position]? = some process →
    Course occur scheduler later final → switches later ≤ position →
      final.ready[position - switches later]? = some process ∧
        ∀ running, final.current = some running → running.pid ≠ process.pid
  runs : ∀ {position : Nat} {process : Process} {later : History geometry}
      {final : Scheduler geometry}, scheduler.ready[position]? = some process →
    Course occur scheduler later final → switches later = position + 1 →
      final.current = some process.dispatched
  yields : ∃ after events, (step .yield).run scheduler = .ok ⟨.ok .done, after, events⟩
  exits : ∀ running, scheduler.current = some running → ∃ after events,
    (step .exit).run scheduler = .ok ⟨.ok (.process running.pid), after, events⟩ ∧
      after.pids = scheduler.ready.map (·.pid)
  idles : scheduler.current = none → (step .exit).run scheduler = .ok ⟨.ok .idle, scheduler, []⟩
  once : scheduler.pids.Nodup
  live : ∀ pid, pid ∈ scheduler.pids ↔ pid ∈ made past ∧ pid ∉ ended past
  numbers : scheduler.nextPid ≤ first + UInt64.size →
    ((scheduler.pids ++ ended past).map Pid.number).Nodup

/-- A scheduler without processes at first is fair after anything that happens. -/
theorem course_fair {kernel : Kernel geometry} {nextPid : Nat} {past : History geometry}
    (course : Course occur { kernel, nextPid } past scheduler) : scheduler.Fair nextPid past := by
  obtain ⟨sound, accounted⟩ := accounted_of_course rfl rfl course
  constructor
  case toAccounted => exact accounted
  case waits =>
    intro position process later final found continued before
    have place := (place_of_course sound found continued).2.1 before
    have accountedThen := (accounted_of_course rfl rfl (course.append continued)).2
    exact ⟨place, fun running current =>
      accountedThen.pid_ne_of_waiting current (List.mem_of_getElem? place)⟩
  case runs =>
    intro position process later final found continued
    exact (place_of_course sound found continued).2.2
  case yields => exact ⟨_, run_step_yield sound⟩
  case exits =>
    intro running current
    obtain ⟨events, ran⟩ := run_step_exit_of_running sound current
    exact ⟨_, events, ran, scheduler.pids_vacated⟩
  case idles => exact run_step_exit_of_idle
  case once => exact accounted.nodup_pids
  case live => exact accounted.mem_pids_iff
  case numbers => exact accounted.nodup_numbers

/-- Two processes come to wait for the machine, while a start fails and memory and numbers are used
by others. -/
def crowd : List (Occurrence { pageSize := 4, frames := 6, stackSize := 4 }) :=
  [.command (.exec "first" headerImage), .command .fork,
    .outside (fun kernel => { kernel with machine := kernel.machine.fillMemory 0xaa }) 3,
    .command (.exec "second" headerImage), .command (.exec "torn" AddressSpace.misalignedImage)]

theorem course_fair_crowd :
    ∃ past scheduler,
      Course occur { kernel := AddressSpace.smallKernel } past scheduler ∧
      past.map (·.command) = crowd ∧ scheduler.ready.map (·.pid) = [⟨2⟩, ⟨6⟩] ∧
      scheduler.Fair 1 past ∧
      ∀ later final, Course occur scheduler later final → switches later = 2 →
        final.current.map (·.pid) = some ⟨6⟩ := by
  have shown : (runAll occur { kernel := AddressSpace.smallKernel } crowd).toOption.map
      (fun ended => ended.1.ready.map (·.pid)) = some [⟨2⟩, ⟨6⟩] := by
    decide +kernel
  obtain ⟨⟨scheduler, results⟩, ran, waiting⟩ := exists_of_seen shown
  obtain ⟨past, course, taken, -⟩ := course_of_runAll ran
  have fair := course_fair course
  refine ⟨past, scheduler, course, taken, waiting, fair, ?_⟩
  intro later final continued twice
  have last : (scheduler.ready.map (·.pid))[1]? = some ⟨6⟩ := by rw [waiting]; rfl
  rw [List.getElem?_map] at last
  obtain ⟨process, found, number⟩ := Option.map_eq_some_iff.mp last
  rw [fair.runs found continued twice]
  exact congrArg some number

end PagedKernel.Scheduler
