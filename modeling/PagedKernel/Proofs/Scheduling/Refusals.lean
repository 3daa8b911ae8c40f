import PagedKernel.Proofs.Construction
import PagedKernel.Proofs.Scheduling.Chronicle

/-!
Contract: starts and forks that are refused.

Owns:
- the request for a space that a command makes (`Scheduler.construction?`);
- what a refused command leaves alone (`Scheduler.Spared`).

Does not own: which requests are refused (`Loading.Acceptance`).
-/

namespace PagedKernel

open PagedKernel.Action

variable {geometry : Geometry}

/-! ### Failures in other words -/

namespace Action

variable {σ ε δ α β : Type} {action : Action σ ε α} {state reached : σ} {events : List Event}

theorem run_eq_failure_of_map {convert : α → β} {failure : ε}
    (ran : (convert <$> action).run state = .ok ⟨.error failure, reached, events⟩) :
    action.run state = .ok ⟨.error failure, reached, events⟩ := by
  obtain ⟨⟨result, last, recorded⟩, course, same⟩ := run_map_eq_ok ran
  cases result with
  | error =>
      cases same
      exact course
  | ok value => cases same

theorem run_eq_failure_of_mapError {convert : ε → δ} {failure : δ}
    (ran : (action.mapError convert).run state = .ok ⟨.error failure, reached, events⟩) :
    ∃ cause, convert cause = failure ∧
      action.run state = .ok ⟨.error cause, reached, events⟩ := by
  obtain ⟨⟨result, last, recorded⟩, course, same⟩ := run_mapError_eq_ok ran
  cases result with
  | error cause =>
      cases same
      exact ⟨cause, rfl, course⟩
  | ok value => cases same

end Action

namespace Scheduler

variable {scheduler after : Scheduler geometry} {command : Command} {error : BuildError}
  {events : List Event}

/-! ### Refused commands -/

/-- The request for a space that a command makes. -/
def construction? (scheduler : Scheduler geometry) : Command → Option Construction
  | .exec _ file => some (.load file)
  | .fork => scheduler.current.map fun parent =>
      .duplicate parent.space.pages parent.space.firstFrame
  | _ => none

/-- A command that makes a request fails only with it, and leaves the rest alone. -/
theorem run_of_refused {construction : Construction}
    (requested : scheduler.construction? command = some construction)
    (ran : (step command).run scheduler = .ok ⟨.error (.build error), after, events⟩) :
    ∃ kernel, construction.action.run scheduler.kernel = .ok ⟨.error error, kernel, events⟩ ∧
      after = { scheduler with kernel } := by
  cases command with
  | exec name file =>
      cases requested
      obtain ⟨cause, same, refused⟩ := run_eq_failure_of_mapError (run_eq_failure_of_map ran)
      cases same
      rcases exec_cases refused with
        ⟨error, kernel, loaded, -, failed, kept, -⟩ | ⟨_, _, _, _, -, -, made, -⟩
      · cases failed
        exact ⟨kernel, loaded, kept⟩
      · cases made
  | fork =>
      obtain ⟨parent, current, rfl⟩ := Option.map_eq_some_iff.mp requested
      obtain ⟨cause, same, refused⟩ := run_eq_failure_of_mapError (run_eq_failure_of_map ran)
      cases same
      rcases fork_cases current refused with
        ⟨error, copied, failed, kept⟩ | ⟨_, _, -, -, -, made, -⟩
      · cases failed
        exact ⟨scheduler.kernel, copied, kept⟩
      · cases made
  | yield | exit | access => cases requested

/-! ### What is left alone -/

/-- The processes see the same memory, and the next ones get the places in the count, and with them
the numbers, that they would have got. -/
structure Spared (scheduler after : Scheduler geometry) : Prop where
  memory : ∀ process ∈ scheduler.live, ∀ offset < process.space.pages * geometry.pageSize,
    process.space.byteAt? after.kernel offset = process.space.byteAt? scheduler.kernel offset
  numbers : ∀ later final, Course step scheduler later final ∨ Course step after later final →
    created later = (List.range' scheduler.nextPid (created later).length).map Pid.mk

theorem spared_of_residue (orderly : scheduler.Orderly) {kernel : Kernel geometry}
    {construction : Construction} (residue : construction.Residue scheduler.kernel kernel error)
    (kept : { scheduler with kernel }.Orderly) : Spared scheduler { scheduler with kernel } where
  memory := by
    intro process live offset inside
    have past := (orderly.backed live).past_le
    apply residue.byte
    omega
  numbers := by
    rintro later final (course | course)
    · exact (counted_of_course orderly course).2.serials
    · exact (counted_of_course kept course).2.serials

/-- A load or copy that fails changes no byte outside the frames it took, no table and no
register, and takes frames only for an image whose segments it could not copy. A start or fork that
fails leaves the processes and their queue alone, and on a scheduler that was started on a new
machine also what they see and the numbers of the processes to come. -/
theorem refusal_effect :
    (∀ (construction : Construction) (kernel after : Kernel geometry) (error : BuildError)
        (events : List Event),
      construction.action.run kernel = .ok ⟨.error error, after, events⟩ →
        construction.Residue kernel after error) ∧
    ∀ (scheduler after : Scheduler geometry) (command : Command) (construction : Construction)
        (error : BuildError) (events : List Event),
      scheduler.construction? command = some construction →
      (step command).run scheduler = .ok ⟨.error (.build error), after, events⟩ →
        (∃ kernel, construction.Residue scheduler.kernel kernel error ∧
          after = { scheduler with kernel }) ∧
        ∀ (machine : Machine geometry) (frames : FramePool) (nextPid : Nat)
          (past : Past geometry), Machine.create geometry = .ok (.ok machine) →
          Course step (start machine frames nextPid) past scheduler →
          Spared scheduler after := by
  refine ⟨fun construction kernel after error events ran => Construction.residue_of_run ran rfl, ?_⟩
  intro scheduler after command construction error events requested ran
  obtain ⟨kernel, failed, rfl⟩ := run_of_refused requested ran
  have residue := Construction.residue_of_run failed rfl
  refine ⟨⟨kernel, residue, rfl⟩, ?_⟩
  intro machine frames nextPid past created course
  have started := orderly_created created frames nextPid
  have orderly := (counted_of_course started course).1
  exact spared_of_residue orderly residue (orderly_step orderly ran)

/-- Why a command was refused a space. -/
def refusal? : Except Failure Answer → Option BuildError
  | .error (.build error) => some error
  | _ => none

theorem refusal?_eq_some {result : Except Failure Answer} (refused : refusal? result = some error) :
    result = .error (.build error) := by
  unfold refusal? at refused
  split at refused
  · cases refused
    rfl
  · cases refused

theorem refusal_effect_misaligned :
    Machine.create { pageSize := 4, frames := 6, stackSize := 4 } =
        .ok (.ok AddressSpace.smallKernel.machine) ∧
      ∃ past scheduler after events,
        Course step (start AddressSpace.smallKernel.machine (.ofTotal 6)) past scheduler ∧
        (step (.exec "torn" AddressSpace.misalignedImage)).run scheduler =
          .ok ⟨.error (.build (.image (.segmentFault .initialized .addressError))), after,
            events⟩ ∧
        (Construction.load AddressSpace.misalignedImage).Residue scheduler.kernel after.kernel
          (.image (.segmentFault .initialized .addressError)) ∧
        Spared scheduler after := by
  have created : Machine.create { pageSize := 4, frames := 6, stackSize := 4 } =
      .ok (.ok AddressSpace.smallKernel.machine) := rfl
  have shown : ((start AddressSpace.smallKernel.machine (.ofTotal 6)).run
      [.exec "words" AddressSpace.twoWordImage,
        .exec "torn" AddressSpace.misalignedImage]).toOption.map
          (fun ended => ended.2.map refusal?) =
      some [none, some (.image (.segmentFault .initialized .addressError))] := by
    decide +kernel
  obtain ⟨⟨final, results⟩, ran, given⟩ := exists_of_seen shown
  obtain ⟨started, later, first, others, rfl⟩ := runAll_cons_eq_ok ran
  obtain ⟨⟨result, after, events⟩, rest, torn, -, rfl⟩ := runAll_cons_eq_ok others
  have course := Course.snoc .nil first
  simp only [List.map_cons, List.cons.injEq] at given
  cases refusal?_eq_some given.2.1
  have requested : started.state.construction? (.exec "torn" AddressSpace.misalignedImage) =
      some (.load AddressSpace.misalignedImage) := rfl
  obtain ⟨kernel, failed, rfl⟩ := run_of_refused requested torn
  obtain ⟨left, refused⟩ := @refusal_effect { pageSize := 4, frames := 6, stackSize := 4 }
  have spared := (refused _ _ _ _ _ _ requested torn).2 _ _ _ _ created course
  exact ⟨created, _, _, _, events, course, torn, left _ _ _ _ _ failed, spared⟩

end Scheduler

end PagedKernel
