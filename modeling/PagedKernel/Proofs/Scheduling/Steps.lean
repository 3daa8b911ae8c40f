import PagedKernel.Proofs.Course
import PagedKernel.Proofs.Scheduling.Orderly

/-!
Contract: what a command can do to a scheduler in order.

Owns:
- every way in which a command can return (`Scheduler.Outcome`);
- the invariant after each command, and after a run of commands.

Does not own: what the processes see of the commands (`Isolation`).
-/

namespace PagedKernel.Scheduler

open PagedKernel.Action

variable {geometry : Geometry} {scheduler : Scheduler geometry}

/-- What a command gave and left, by what it found. -/
inductive Outcome (scheduler : Scheduler geometry) :
    Command → Except Failure Answer → Scheduler geometry → Prop where
  | execRefused {name : String} {file : File} {error : BuildError} {after : Kernel geometry}
      (grown : scheduler.kernel.Extends after)
      (readable : ∀ unreadable, Header.read file = .error unreadable →
        error = .image unreadable) :
      Outcome scheduler (.exec name file) (.error (.build error))
        { scheduler with kernel := after }
  | executed {name : String} {file : File} {header : Header} {order : ByteOrder}
      {space : AddressSpace} {after : Kernel geometry}
      (read : Header.read file = .ok (header, order))
      (holds : AddressSpace.Holds scheduler.kernel after file header space) :
      Outcome scheduler (.exec name file) (.ok (.process ⟨scheduler.nextPid⟩))
        ((scheduler.numbered after).admitted (scheduler.newcomer name space none))
  | forkIdle (idle : scheduler.current = none) : Outcome scheduler .fork (.ok .idle) scheduler
  | forkRefused {parent : Process} {error : BuildError}
      (running : scheduler.current = some parent) :
      Outcome scheduler .fork (.error (.build error)) scheduler
  | forked {parent : Process} {space : AddressSpace} {after : Kernel geometry}
      (running : scheduler.current = some parent)
      (built : AddressSpace.Built scheduler.kernel after space)
      (pages : space.pages = parent.space.pages)
      (bytes : ∀ offset < space.pages * geometry.pageSize,
        space.byteAt? after offset = parent.space.byteAt? scheduler.kernel offset) :
      Outcome scheduler .fork (.ok (.process ⟨scheduler.nextPid⟩))
        ((scheduler.numbered after).admitted
          (scheduler.newcomer parent.name space (some scheduler.kernel.machine.registers)))
  | yielded : Outcome scheduler .yield (.ok .done) scheduler.yielded
  | exitIdle (idle : scheduler.current = none) : Outcome scheduler .exit (.ok .idle) scheduler
  | exited {finished : Process} (running : scheduler.current = some finished) :
      Outcome scheduler .exit (.ok (.process finished.pid)) scheduler.vacated
  | accessIdle {request : Access} {result : Except Exception Access.Answer}
      {after : Kernel geometry} (idle : scheduler.current = none)
      (installed : after.machine.installed = none)
      (faulted : ∀ address, request.address? = some address → result = .error .addressError) :
      Outcome scheduler (.access request) ((result.map .access).mapError .exception)
        { scheduler with kernel := after }
  | accessed {running : Process} {request : Access} {result : Except Exception Access.Answer}
      {after : Kernel geometry} (current : scheduler.current = some running)
      (outcome : Kernel.Outcome scheduler.kernel running.space request result after) :
      Outcome scheduler (.access request) ((result.map .access).mapError .exception)
        { scheduler with kernel := after }

theorem outcome_of_step (orderly : scheduler.Orderly) {command : Command}
    {report : Report (Scheduler geometry) Failure Answer}
    (ran : (step command).run scheduler = .ok report) :
    Outcome scheduler command report.result report.state := by
  cases command with
  | exec name file =>
      obtain ⟨_, converted, rfl⟩ := run_map_eq_ok ran
      obtain ⟨inner, course, rfl⟩ := run_mapError_eq_ok converted
      rcases exec_cases course with
        ⟨error, after, -, grown, failed, reached, readable⟩ |
        ⟨header, order, space, after, read, holds, made, reached⟩
      · simp only [failed, reached]
        exact .execRefused grown readable
      · simp only [made, reached]
        exact .executed read holds
  | fork =>
      obtain ⟨_, converted, rfl⟩ := run_map_eq_ok ran
      obtain ⟨inner, course, rfl⟩ := run_mapError_eq_ok converted
      cases current : scheduler.current with
      | none =>
          cases (run_fork_of_idle current).symm.trans course
          exact .forkIdle current
      | some parent =>
          rcases fork_cases current course with
            ⟨error, -, failed, reached⟩ | ⟨space, after, built, pages, bytes, made, reached⟩
          · simp only [failed, reached]
            exact .forkRefused current
          · simp only [made, reached]
            exact .forked current built pages bytes
  | yield =>
      obtain ⟨inner, course, rfl⟩ := run_map_eq_ok ran
      obtain ⟨events, yielding⟩ := run_yield (ε := Failure) orderly.bytes_lt_limit
      cases yielding.symm.trans course
      exact .yielded
  | exit =>
      obtain ⟨inner, course, rfl⟩ := run_map_eq_ok ran
      cases current : scheduler.current with
      | none =>
          cases (run_exit_of_idle current).symm.trans course
          exact .exitIdle current
      | some finished =>
          obtain ⟨events, exiting⟩ :=
            run_exit_of_running (ε := Failure) current orderly.bytes_lt_limit
          cases exiting.symm.trans course
          exact .exited current
  | access request =>
      obtain ⟨_, converted, rfl⟩ := run_map_eq_ok ran
      obtain ⟨_, placed, rfl⟩ := run_mapError_eq_ok converted
      obtain ⟨inner, course, rfl⟩ := run_within_eq_ok placed
      have commuted : ∀ result : Except Exception Access.Answer,
          (result.mapError Failure.exception).map Answer.access =
            (result.map Answer.access).mapError .exception := by
        intro result
        cases result <;> rfl
      simp only [commuted]
      rcases Option.eq_none_or_eq_some scheduler.current with current | ⟨running, current⟩
      · have idle := (orderly.idle current).2
        obtain ⟨installed, faulted⟩ := Kernel.access_of_idle idle course
        exact .accessIdle current installed faulted
      · exact .accessed current (Kernel.outcome_of_access (orderly.active current) course)

/-! ### Order over a run -/

theorem orderly_of_outcome (orderly : scheduler.Orderly) {command : Command}
    {result : Except Failure Answer} {after : Scheduler geometry}
    (outcome : Outcome scheduler command result after) : after.Orderly := by
  cases outcome with
  | execRefused grown => exact orderly_kept orderly grown.installed fun _ => (·.extended grown)
  | executed _ holds => exact orderly_admitted orderly holds.toBuilt _ _
  | forked _ built => exact orderly_admitted orderly built _ _
  | forkIdle | forkRefused | exitIdle => exact orderly
  | yielded => exact orderly_yielded orderly
  | exited running => exact orderly_vacated orderly running
  | accessIdle idle installed =>
      rw [idle, (orderly.idle idle).1]
      exact orderly_idle installed
  | accessed current outcome =>
      have confined := Kernel.confined_of_outcome (orderly.active current) outcome
      exact orderly_kept orderly confined.installed confined.backed

theorem orderly_step (orderly : scheduler.Orderly) {command : Command}
    {report : Report (Scheduler geometry) Failure Answer}
    (ran : (step command).run scheduler = .ok report) : report.state.Orderly :=
  orderly_of_outcome orderly (outcome_of_step orderly ran)

end PagedKernel.Scheduler
