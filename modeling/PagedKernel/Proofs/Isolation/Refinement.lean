import PagedKernel.Proofs.Isolation.Simulation

/-!
Contract: processes are isolated from each other.

Owns:
- the answer to each command, as the private system expects it;
- the isolation of processes over every run.

Does not own: which commands are granted.
-/

namespace PagedKernel

variable {geometry : Geometry} {scheduler final : Scheduler geometry}
  {system : PrivateSystem geometry}

open Scheduler (Command Failure Answer)

namespace PrivateSystem

theorem meets_none (result : Except Failure Answer) : Meets none result :=
  fun _ expected => nomatch expected

theorem meets_self (result : Except Failure Answer) : Meets (some result) result :=
  fun _ expected => Option.some.inj expected

end PrivateSystem

/-- A command is answered as the private system expects it, and leaves the scheduler in the state
of the private system after it. -/
theorem meets_of_outcome (simulates : Simulates scheduler system) {command : Command}
    {result : Except Failure Answer} {after : Scheduler geometry}
    (outcome : Scheduler.Outcome scheduler command result after) :
    PrivateSystem.Meets (system.step result.isOk command).2 result ∧
      Simulates after (system.step result.isOk command).1 := by
  have freshPid : system.freshPid = ⟨scheduler.nextPid⟩ :=
    congrArg Pid.mk simulates.nextPid
  cases outcome with
  | @execRefused name file error after grown readable =>
      cases read : Header.read file with
      | error unreadable =>
          simp only [PrivateSystem.step, read]
          rw [readable unreadable read]
          exact ⟨PrivateSystem.meets_self _, simulates.extended grown⟩
      | ok found =>
          simp only [PrivateSystem.step, read]
          exact ⟨PrivateSystem.meets_none _, simulates.extended grown⟩
  | @executed name file header order space after read holds =>
      have mirrors := Mirrors.ofImage ⟨scheduler.nextPid⟩ name holds
      have admitted := simulates.admitted holds.toBuilt mirrors
      simp only [PrivateSystem.step, read, freshPid]
      exact ⟨PrivateSystem.meets_self _, admitted⟩
  | forkIdle idle =>
      simp only [PrivateSystem.step, simulates.current_of_idle idle]
      exact ⟨PrivateSystem.meets_self _, simulates⟩
  | forkRefused running =>
      obtain ⟨resident, found, -⟩ := simulates.current_of_running running
      simp only [PrivateSystem.step, found]
      exact ⟨PrivateSystem.meets_none _, simulates⟩
  | @forked parent space after running built pages bytes =>
      obtain ⟨resident, found, mirrors⟩ := simulates.current_of_running running
      have copied := mirrors.copied ⟨scheduler.nextPid⟩ parent.name pages bytes
      have admitted := simulates.admitted built copied
      simp only [PrivateSystem.step, found, freshPid]
      exact ⟨PrivateSystem.meets_self _, admitted⟩
  | yielded => exact ⟨PrivateSystem.meets_self _, simulates.yielded⟩
  | exitIdle idle =>
      simp only [PrivateSystem.step, simulates.current_of_idle idle]
      exact ⟨PrivateSystem.meets_self _, simulates⟩
  | exited running =>
      obtain ⟨resident, found, mirrors⟩ := simulates.current_of_running running
      simp only [PrivateSystem.step, found, mirrors.pid]
      exact ⟨PrivateSystem.meets_self _, simulates.vacated running⟩
  | @accessIdle request result after idle installed faulted =>
      simp only [PrivateSystem.step, simulates.current_of_idle idle]
      refine ⟨?_, simulates.idle idle installed⟩
      intro answer expected
      obtain ⟨address, named, rfl⟩ := Option.map_eq_some_iff.mp expected
      rw [faulted address named]
      rfl
  | @accessed running request result after current outcome =>
      obtain ⟨resident, found, mirrors⟩ := simulates.current_of_running current
      obtain ⟨answered, mirrors⟩ := mirrors.accessed (simulates.orderly.active current) outcome
      simp only [PrivateSystem.step, found]
      refine ⟨?_, simulates.accessed current outcome mirrors⟩
      intro answer expected
      obtain ⟨own, known, rfl⟩ := Option.map_eq_some_iff.mp expected
      rw [answered own known]

/-- The scheduler and the private system agree on every answer of a run, and in their states
after it. -/
theorem meets_of_run (simulates : Simulates scheduler system) {commands : List Command}
    {results : List (Except Failure Answer)} (ran : scheduler.run commands = .ok (final, results)) :
    List.Forall₂ PrivateSystem.Meets (system.run (commands.zip (results.map (·.isOk)))).2 results ∧
      Simulates final (system.run (commands.zip (results.map (·.isOk)))).1 := by
  induction commands generalizing scheduler system results with
  | nil =>
      cases ran
      exact ⟨.nil, simulates⟩
  | cons command rest inductionHypothesis =>
      obtain ⟨report, later, first, others, rfl⟩ := Action.runAll_cons_eq_ok ran
      -- The first command leaves related states, from which the others are answered alike.
      have outcome := Scheduler.outcome_of_step simulates.orderly first
      obtain ⟨meets, simulates⟩ := meets_of_outcome simulates outcome
      obtain ⟨meetsLater, simulates⟩ := inductionHypothesis simulates others
      exact ⟨.cons meets meetsLater, simulates⟩

namespace Scheduler

/-- Over any run from a new machine, the answers are those of processes that have memory and
registers of their own, which only the running process changes, by its own accesses. -/
theorem run_isolated {machine : Machine geometry}
    (created : Machine.create geometry = .ok (.ok machine)) (frames : FramePool) (nextPid : Nat)
    {commands : List Command} {results : List (Except Failure Answer)}
    (ran : (start machine frames nextPid).run commands = .ok (final, results)) :
    let expected := PrivateSystem.run { nextPid } (commands.zip (results.map (·.isOk)))
    List.Forall₂ PrivateSystem.Meets expected.2 results ∧ Simulates final expected.1 ∧
      ∀ system : PrivateSystem geometry, system.Private := by
  intro expected
  have orderly := orderly_created created frames nextPid
  have started : Simulates (start machine frames nextPid) { nextPid } :=
    ⟨orderly, rfl, .none, .nil⟩
  obtain ⟨answered, simulates⟩ := meets_of_run started ran
  exact ⟨answered, simulates, PrivateSystem.private_step⟩

/-- Room for two programs of three pages. -/
def twoProgramGeometry : Geometry := { pageSize := 4, frames := 6, stackSize := 4 }

def twoProgramMachine : Machine twoProgramGeometry where
  usable := ⟨by decide, by decide⟩

/-- A process writes a word and a register after its fork, which its child then reads. -/
def divergence : List Command :=
  [.exec "parent" AddressSpace.twoWordImage, .fork, .access (.writeWord 4 9),
    .access (.writeRegister 2 5), .yield, .access (.readWord 4), .access (.readRegister 2), .yield,
    .access (.readWord 4), .access (.readRegister 2)]

theorem run_isolated_divergence :
    Machine.create twoProgramGeometry = .ok (.ok twoProgramMachine) ∧
      ∃ final results,
        (start twoProgramMachine (.ofTotal 6)).run divergence = .ok (final, results) ∧
        results.map (·.toOption) =
          [some (.process ⟨1⟩), some (.process ⟨2⟩), some (.access .done), some (.access .done),
            some .done, some (.access (.word 0x08070605)), some (.access (.register 0)),
            some .done, some (.access (.word 9)), some (.access (.register 5))] ∧
        List.Forall₂ PrivateSystem.Meets
          (({} : PrivateSystem twoProgramGeometry).run
            (divergence.zip (results.map (·.isOk)))).2 results := by
  have created : Machine.create twoProgramGeometry = .ok (.ok twoProgramMachine) := rfl
  have given : ((start twoProgramMachine (.ofTotal 6)).run divergence).toOption.map
      (fun ended => ended.2.map (·.toOption)) =
        some [some (.process ⟨1⟩), some (.process ⟨2⟩), some (.access .done),
          some (.access .done), some .done, some (.access (.word 0x08070605)),
          some (.access (.register 0)), some .done, some (.access (.word 9)),
          some (.access (.register 5))] := by
    decide +kernel
  cases ran : (start twoProgramMachine (.ofTotal 6)).run divergence with
  | error cause =>
      rw [ran] at given
      cases given
  | ok ended =>
      obtain ⟨final, results⟩ := ended
      rw [ran] at given
      exact ⟨created, final, results, rfl, Option.some.inj given,
        (run_isolated created (.ofTotal 6) 1 ran).1⟩

end Scheduler

end PagedKernel
