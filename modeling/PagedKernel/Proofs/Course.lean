import PagedKernel.Action

/-!
Contract: runs of commands with everything that was reported on the way.

Owns:
- actions that come to an end (`Action.Returns`), and their results;
- the reports of converted actions, of sequences, and of actions on a part of a
  state, from those of the actions themselves;
- the turns of a run, each a command with its report, and what a list of them
  yields with one turn more;
- the states that a run reaches, command by command (`Action.Course`);
- what holds along a run, since every step keeps it, and runs that come to an
  end, since every step does;
- two actions that end alike from related states (`Action.Agree`), and the
  results of runs of such actions, which are the same;
- the answer of a computation of which something was seen, and the turns of a
  computed run (`Action.trace`);
- the agreement with `runAll`, which keeps of the reports only the results.

Does not own: any particular command.
-/

namespace PagedKernel.Action

variable {σ τ ε δ α β κ : Type}

/-- The action comes to an end, with an answer or a failure, when it starts in the state. -/
def Returns (action : Action σ ε α) (state : σ) : Prop :=
  ∃ report, action.run state = .ok report

/-- What the action gives when it starts in the state, without its record and its effect. -/
def result (action : Action σ ε α) (state : σ) : Checked (Except ε α) :=
  (action.run state).map (·.result)

namespace Returns

variable {action : Action σ ε α} {state : σ}

theorem map (returns : action.Returns state) (convert : α → β) :
    (convert <$> action).Returns state := by
  obtain ⟨report, ran⟩ := returns
  rw [Returns, run_map, ran]
  exact ⟨_, rfl⟩

theorem mapError (returns : action.Returns state) (convert : ε → δ) :
    (action.mapError convert).Returns state := by
  obtain ⟨report, ran⟩ := returns
  rw [Returns, run_mapError, ran]
  exact ⟨_, rfl⟩

end Returns

/-! ### Reports of actions in other words -/

theorem run_map_eq_ok {convert : α → β} {action : Action σ ε α} {state : σ}
    {report : Report σ ε β} (ran : (convert <$> action).run state = .ok report) :
    ∃ inner, action.run state = .ok inner ∧
      report = { inner with result := inner.result.map convert } := by
  rw [run_map] at ran
  cases course : action.run state with
  | error cause => simp [course, Except.map] at ran
  | ok inner =>
      rw [course] at ran
      cases ran
      exact ⟨inner, rfl, rfl⟩

theorem run_mapError_eq_ok {convert : ε → δ} {action : Action σ ε α} {state : σ}
    {report : Report σ δ α} (ran : (action.mapError convert).run state = .ok report) :
    ∃ inner, action.run state = .ok inner ∧
      report = { inner with result := inner.result.mapError convert } := by
  rw [run_mapError] at ran
  cases course : action.run state with
  | error cause => simp [course, Except.map] at ran
  | ok inner =>
      rw [course] at ran
      cases ran
      exact ⟨inner, rfl, rfl⟩

/-- An action in two parts ended with the failure of the first, or as the second did. -/
theorem run_bind_eq_ok {first : Action σ ε α} {next : α → Action σ ε β} {state : σ}
    {report : Report σ ε β} (ran : (first >>= next).run state = .ok report) :
    ∃ opening, first.run state = .ok opening ∧
      ((∃ failure, opening.result = .error failure ∧ report.result = .error failure ∧
          report.state = opening.state) ∨
        ∃ value closing, opening.result = .ok value ∧
          (next value).run opening.state = .ok closing ∧
          report.result = closing.result ∧ report.state = closing.state) := by
  rw [run_bind] at ran
  cases course : first.run state with
  | error cause => simp [course] at ran
  | ok opening =>
      refine ⟨opening, rfl, ?_⟩
      rcases opening with ⟨failure | value, reached, events⟩
      · rw [course] at ran
        cases ran
        exact Or.inl ⟨failure, rfl, rfl, rfl⟩
      · simp only [course] at ran
        cases continued : (next value).run reached with
        | error cause => simp [continued, Except.map] at ran
        | ok closing =>
            rw [continued] at ran
            cases ran
            exact Or.inr ⟨value, closing, rfl, continued, rfl, rfl⟩

theorem run_within_eq_ok {part : σ → τ} {place : τ → σ → σ} {action : Action τ ε α} {state : σ}
    {report : Report σ ε α} (ran : (action.within part place).run state = .ok report) :
    ∃ inner, action.run (part state) = .ok inner ∧
      report = { inner with state := place inner.state state } := by
  rw [run_within] at ran
  cases course : action.run (part state) with
  | error cause => simp [course, Except.map] at ran
  | ok inner =>
      rw [course] at ran
      cases ran
      exact ⟨inner, rfl, rfl⟩

/-! ### Runs -/

/-- A command that was taken, and its report. -/
structure Turn (κ σ ε α : Type) where
  command : κ
  report : Report σ ε α

/-- What the members of a list yield, if anything, with one member more. -/
theorem filterMap_snoc (yields : α → Option β) (past : List α) (last : α) :
    (past ++ [last]).filterMap yields = past.filterMap yields ++ (yields last).toList := by
  rw [List.filterMap_append]
  cases yielded : yields last <;> simp [yielded]

/-- The commands of the turns, taken one after the other from the initial state on, gave the
reports of the turns and led to another state. -/
inductive Course (step : κ → Action σ ε α) (initial : σ) : List (Turn κ σ ε α) → σ → Prop where
  | nil : Course step initial [] initial
  | snoc {past : List (Turn κ σ ε α)} {state : σ} {command : κ} {report : Report σ ε α}
      (course : Course step initial past state) (ran : (step command).run state = .ok report) :
      Course step initial (past ++ [⟨command, report⟩]) report.state

variable {step : κ → Action σ ε α} {initial state final : σ} {commands : List κ} {command : κ}
  {report : Report σ ε α} {results : List (Except ε α)}

namespace Course

theorem cons {later : List (Turn κ σ ε α)} (ran : (step command).run initial = .ok report)
    (course : Course step report.state later final) :
    Course step initial (⟨command, report⟩ :: later) final := by
  induction course with
  | nil => exact .snoc .nil ran
  | snoc _ next inductionHypothesis => exact .snoc inductionHypothesis next

theorem append {past later : List (Turn κ σ ε α)} (course : Course step initial past state)
    (continued : Course step state later final) : Course step initial (past ++ later) final := by
  induction continued with
  | nil =>
      rw [List.append_nil]
      exact course
  | snoc _ ran inductionHypothesis =>
      rw [← List.append_assoc]
      exact .snoc inductionHypothesis ran

/-- What every step keeps holds at the end of a run, and what every step from there gives holds of
all its turns. -/
theorem invariant {invariant : σ → Prop} {fits : Turn κ σ ε α → Prop}
    (kept : ∀ state (turn : Turn κ σ ε α), invariant state →
      (step turn.command).run state = .ok turn.report →
        invariant turn.report.state ∧ fits turn)
    (holds : invariant initial) {past : List (Turn κ σ ε α)}
    (course : Course step initial past final) : invariant final ∧ ∀ turn ∈ past, fits turn := by
  induction course with
  | nil => exact ⟨holds, fun _ member => nomatch member⟩
  | snoc _ ran inductionHypothesis =>
      obtain ⟨holds, fitting⟩ := inductionHypothesis
      obtain ⟨holdsAfter, fit⟩ := kept _ ⟨_, _⟩ holds ran
      refine ⟨holdsAfter, List.forall_mem_append.mpr ⟨fitting, ?_⟩⟩
      simpa using fit

/-- Each turn of a run is a step from some state. -/
theorem exists_run_of_mem {past : List (Turn κ σ ε α)} (course : Course step initial past final)
    {turn : Turn κ σ ε α} (member : turn ∈ past) :
    ∃ state, (step turn.command).run state = .ok turn.report := by
  have kept : ∀ state (turn : Turn κ σ ε α), True →
      (step turn.command).run state = .ok turn.report →
        True ∧ ∃ state, (step turn.command).run state = .ok turn.report :=
    fun state _ _ ran => ⟨trivial, state, ran⟩
  exact (course.invariant kept trivial).2 turn member

/-- A step that returns from every state of an invariant can be taken any number of times. -/
theorem exists_of_returns {invariant : σ → Prop} {admissible : κ → Prop}
    (returns : ∀ state command, invariant state → admissible command → (step command).Returns state)
    (kept : ∀ state command report, invariant state → (step command).run state = .ok report →
      invariant report.state)
    (holds : invariant initial) (allowed : ∀ command ∈ commands, admissible command) :
    ∃ past final, Course step initial past final ∧ past.map (·.command) = commands := by
  induction commands generalizing initial with
  | nil => exact ⟨[], initial, .nil, rfl⟩
  | cons command rest inductionHypothesis =>
      obtain ⟨report, ran⟩ := returns initial command holds (allowed command (by simp))
      obtain ⟨later, final, course, taken⟩ := inductionHypothesis (kept _ _ _ holds ran)
        fun other member => allowed other (by simp [member])
      exact ⟨⟨command, report⟩ :: later, final, course.cons ran, by simp [taken]⟩

end Course

/-! ### Runs that agree -/

/-- Two computations give the same result and leave related states, or both stop the kernel in the
same way. -/
def Agree (related : σ → τ → Prop) :
    Checked (Report σ ε α) → Checked (Report τ ε α) → Prop
  | .ok first, .ok second => first.result = second.result ∧ related first.state second.state
  | .error first, .error second => first = second
  | _, _ => False

/-- Runs from related states give the same results, if each command agrees in all related states. -/
theorem results_eq_of_agree {otherStep : κ → Action τ ε α} {related : σ → τ → Prop}
    {admissible : κ → Prop}
    (agree : ∀ state other command, related state other → admissible command →
      Agree related ((step command).run state) ((otherStep command).run other))
    {other : τ} (start : related initial other)
    (allowed : ∀ command ∈ commands, admissible command) :
    (runAll step initial commands).map (·.2) = (runAll otherStep other commands).map (·.2) := by
  induction commands generalizing initial other with
  | nil => rfl
  | cons command rest inductionHypothesis =>
      have first := agree initial other command start (allowed command List.mem_cons_self)
      rw [runAll, runAll]
      cases ran : (step command).run initial with
      | error cause =>
          cases otherRan : (otherStep command).run other with
          | error otherCause =>
              rw [ran, otherRan] at first
              cases first
              rfl
          | ok otherReport =>
              rw [ran, otherRan] at first
              cases first
      | ok report =>
          cases otherRan : (otherStep command).run other with
          | error otherCause =>
              rw [ran, otherRan] at first
              cases first
          | ok otherReport =>
              rw [ran, otherRan] at first
              obtain ⟨result, related⟩ := first
              have later := inductionHypothesis related
                fun next member => allowed next (List.mem_cons_of_mem command member)
              cases others : runAll step report.state rest <;>
                cases otherOthers : runAll otherStep otherReport.state rest <;>
                  simp_all [bind, Except.bind, pure, Except.pure, Except.map]

/-! ### Computed runs -/

/-- What is seen of a computation that ends belongs to its answer. -/
theorem exists_of_seen {outcome : Checked α} {look : α → β} {seen : β}
    (shown : outcome.toOption.map look = some seen) :
    ∃ answer, outcome = .ok answer ∧ look answer = seen := by
  cases outcome with
  | error cause => cases shown
  | ok answer => exact ⟨answer, rfl, Option.some.inj shown⟩

/-- Takes the commands one after the other, and keeps all their reports. -/
def trace (step : κ → Action σ ε α) (state : σ) :
    List κ → Checked (List (Turn κ σ ε α) × σ)
  | [] => .ok ([], state)
  | command :: rest => do
      let report ← (step command).run state
      let (later, final) ← trace step report.state rest
      return (⟨command, report⟩ :: later, final)

theorem course_of_trace {past : List (Turn κ σ ε α)}
    (traced : trace step initial commands = .ok (past, final)) :
    Course step initial past final ∧ past.map (·.command) = commands := by
  induction commands generalizing initial past with
  | nil =>
      cases traced
      exact ⟨.nil, rfl⟩
  | cons command rest inductionHypothesis =>
      rw [trace] at traced
      cases ran : (step command).run initial with
      | error cause =>
          rw [ran] at traced
          cases traced
      | ok report =>
          cases others : trace step report.state rest with
          | error cause =>
              rw [ran] at traced
              simp only [bind, Except.bind, others] at traced
              cases traced
          | ok following =>
              rw [ran] at traced
              simp only [bind, Except.bind, others, pure, Except.pure] at traced
              cases traced
              obtain ⟨course, taken⟩ := inductionHypothesis others
              exact ⟨course.cons ran, by rw [List.map_cons, taken]⟩

/-! ### Agreement with runs that keep the results -/

theorem runAll_snoc (earlier : runAll step initial commands = .ok (state, results))
    (ran : (step command).run state = .ok report) :
    runAll step initial (commands ++ [command]) =
      .ok (report.state, results ++ [report.result]) := by
  induction commands generalizing initial results with
  | nil =>
      cases earlier
      simp [runAll, ran, bind, Except.bind, pure, Except.pure]
  | cons first rest inductionHypothesis =>
      obtain ⟨opening, later, started, others, rfl⟩ := runAll_cons_eq_ok earlier
      simp [runAll, started, inductionHypothesis others, bind, Except.bind, pure, Except.pure]

theorem Course.runAll_eq {past : List (Turn κ σ ε α)} (course : Course step initial past final) :
    runAll step initial (past.map (·.command)) = .ok (final, past.map (·.report.result)) := by
  induction course with
  | nil => rfl
  | snoc _ ran inductionHypothesis =>
      rw [List.map_append, List.map_append]
      exact runAll_snoc inductionHypothesis ran

/-- A run that ends has a course, whose results it keeps. -/
theorem course_of_runAll (ran : runAll step initial commands = .ok (final, results)) :
    ∃ past, Course step initial past final ∧ past.map (·.command) = commands ∧
      past.map (·.report.result) = results := by
  induction commands generalizing initial results with
  | nil =>
      cases ran
      exact ⟨[], .nil, rfl, rfl⟩
  | cons command rest inductionHypothesis =>
      obtain ⟨report, later, first, others, rfl⟩ := runAll_cons_eq_ok ran
      obtain ⟨past, course, taken, given⟩ := inductionHypothesis others
      exact ⟨⟨command, report⟩ :: past, course.cons first, by simp [taken], by simp [given]⟩

end PagedKernel.Action
