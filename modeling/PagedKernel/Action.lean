import PagedKernel.Event

/-!
Contract: kernel operations that change a state, record events, and may fail.

Owns:
- actions and their sequencing: a failure keeps the state and the events up to
  it, a crash keeps nothing;
- actions on a part of a state (`within`);
- the equations of every way to combine actions, which is all that proofs
  about actions need.

Does not own: any particular state or operation.
-/

namespace PagedKernel

/-- How an action ended: its answer or failure, the state, and the events in order. -/
structure Report (σ ε α : Type) where
  result : Except ε α
  state : σ
  events : List Event

/-- The report of an action that ran after the given events. -/
def Report.after {σ ε α : Type} (report : Report σ ε α) (earlier : List Event) : Report σ ε α :=
  { report with events := earlier ++ report.events }

/-- An operation on a state of type `σ` that answers with an `α` or fails with an `ε`. -/
structure Action (σ ε α : Type) where
  run : σ → Checked (Report σ ε α)

namespace Action

variable {σ τ ε δ α β : Type}

@[ext] theorem ext {first second : Action σ ε α}
    (agree : ∀ state, first.run state = second.run state) : first = second := by
  cases first
  cases second
  congr
  exact funext agree

protected def pure (value : α) : Action σ ε α :=
  ⟨fun state => .ok ⟨.ok value, state, []⟩⟩

protected def bind (first : Action σ ε α) (next : α → Action σ ε β) : Action σ ε β :=
  ⟨fun state =>
    match first.run state with
    | .error crash => .error crash
    | .ok ⟨.error failure, reached, events⟩ => .ok ⟨.error failure, reached, events⟩
    | .ok ⟨.ok value, reached, events⟩ => ((next value).run reached).map (·.after events)⟩

instance : Monad (Action σ ε) where
  pure := Action.pure
  bind := Action.bind

def fail (failure : ε) : Action σ ε α :=
  ⟨fun state => .ok ⟨.error failure, state, []⟩⟩

def crash (cause : Crash) : Action σ ε α :=
  ⟨fun _ => .error cause⟩

def emit (event : Event) : Action σ ε Unit :=
  ⟨fun state => .ok ⟨.ok (), state, [event]⟩⟩

/-- Answers with a view of the state. -/
def view (look : σ → α) : Action σ ε α :=
  ⟨fun state => .ok ⟨.ok (look state), state, []⟩⟩

def update (change : σ → σ) : Action σ ε Unit :=
  ⟨fun state => .ok ⟨.ok (), change state, []⟩⟩

/-- Answers with a checked value. -/
def check (value : Checked α) : Action σ ε α :=
  ⟨fun state => value.map fun answer => ⟨.ok answer, state, []⟩⟩

/-- Fails unless a condition holds. -/
def ensure (condition : Prop) [Decidable condition] (failure : ε) : Action σ ε Unit :=
  if condition then pure () else fail failure

/-- Crashes unless a condition holds. -/
def require (condition : Prop) [Decidable condition] (cause : Crash) : Action σ ε Unit :=
  if condition then pure () else crash cause

/-- Ends with a given answer or failure. -/
def ofResult : Except ε α → Action σ ε α
  | .ok value => pure value
  | .error failure => fail failure

/-- Says a failure in other words. -/
def mapError (convert : ε → δ) (action : Action σ ε α) : Action σ δ α :=
  ⟨fun state => (action.run state).map fun report =>
    { report with result := report.result.mapError convert }⟩

/-- Records an event after a failure. -/
def emitOnError (event : ε → Event) (action : Action σ ε α) : Action σ ε α :=
  ⟨fun state => (action.run state).map fun report =>
    match report.result with
    | .ok _ => report
    | .error failure => { report with events := report.events ++ [event failure] }⟩

/-- Changes the state in view of how the action ended. -/
def settle (change : Except ε α → σ → σ) (action : Action σ ε α) : Action σ ε α :=
  ⟨fun state => (action.run state).map fun report =>
    { report with state := change report.result report.state }⟩

/-- Runs an action on the part of the state that `part` shows and `place` puts back. -/
def within (part : σ → τ) (place : τ → σ → σ) (action : Action τ ε α) : Action σ ε α :=
  ⟨fun state => (action.run (part state)).map fun report =>
    { report with state := place report.state state }⟩

/-- Takes commands one after the other. A failure does not stop the run, a crash does. -/
def runAll {κ : Type} (step : κ → Action σ ε α) (state : σ) :
    List κ → Checked (σ × List (Except ε α))
  | [] => .ok (state, [])
  | command :: rest => do
      let report ← (step command).run state
      let (reached, results) ← runAll step report.state rest
      return (reached, report.result :: results)

/-! ### Equations of `run` -/

theorem run_bind (first : Action σ ε α) (next : α → Action σ ε β) (state : σ) :
    (first >>= next).run state =
      match first.run state with
      | .error crash => .error crash
      | .ok ⟨.error failure, reached, events⟩ => .ok ⟨.error failure, reached, events⟩
      | .ok ⟨.ok value, reached, events⟩ => ((next value).run reached).map (·.after events) := rfl

@[simp] theorem run_pure (value : α) (state : σ) :
    (pure value : Action σ ε α).run state = .ok ⟨.ok value, state, []⟩ := rfl

@[simp] theorem run_fail (failure : ε) (state : σ) :
    (fail failure : Action σ ε α).run state = .ok ⟨.error failure, state, []⟩ := rfl

@[simp] theorem run_crash (cause : Crash) (state : σ) :
    (crash cause : Action σ ε α).run state = .error cause := rfl

@[simp] theorem run_emit (event : Event) (state : σ) :
    (emit event : Action σ ε Unit).run state = .ok ⟨.ok (), state, [event]⟩ := rfl

@[simp] theorem run_view (look : σ → α) (state : σ) :
    (view look : Action σ ε α).run state = .ok ⟨.ok (look state), state, []⟩ := rfl

@[simp] theorem run_update (change : σ → σ) (state : σ) :
    (update change : Action σ ε Unit).run state = .ok ⟨.ok (), change state, []⟩ := rfl

@[simp] theorem run_check_ok (value : α) (state : σ) :
    (check (.ok value) : Action σ ε α).run state = .ok ⟨.ok value, state, []⟩ := rfl

@[simp] theorem run_check_error (cause : Crash) (state : σ) :
    (check (.error cause) : Action σ ε α).run state = .error cause := rfl

theorem run_map (convert : α → β) (action : Action σ ε α) (state : σ) :
    (convert <$> action).run state =
      (action.run state).map fun report => { report with result := report.result.map convert } := by
  show (action >>= fun value => pure (convert value)).run state = _
  rw [run_bind]
  rcases action.run state with cause | ⟨result, reached, events⟩
  · rfl
  · cases result <;> simp [Except.map, Report.after]

theorem map_after_nil (outcome : Checked (Report σ ε α)) :
    outcome.map (·.after []) = outcome := by
  cases outcome <;> rfl

instance : LawfulMonad (Action σ ε) := LawfulMonad.mk' (Action σ ε)
  (by
    intro α action
    ext state
    show (action >>= fun value => pure value).run state = action.run state
    rw [run_bind]
    rcases action.run state with cause | ⟨result, reached, events⟩
    · rfl
    · cases result <;> simp [Except.map, Report.after])
  (by
    intro α β value next
    ext state
    exact map_after_nil _)
  (by
    intro α β γ first second third
    ext state
    simp only [run_bind]
    rcases first.run state with cause | ⟨result, reached, events⟩
    · rfl
    · cases result with
      | error failure => rfl
      | ok value =>
          dsimp only
          rcases (second value).run reached with cause | ⟨result, reached, events⟩
          · rfl
          · cases result with
            | error failure => rfl
            | ok value =>
                simp only [Except.map, Report.after]
                rcases (third value).run reached with cause | report
                · rfl
                · simp)

@[simp] theorem run_ofResult (result : Except ε α) (state : σ) :
    (ofResult result).run state = .ok ⟨result, state, []⟩ := by
  cases result <;> rfl

theorem ensure_of {condition : Prop} [Decidable condition] {failure : ε} (holds : condition) :
    (ensure condition failure : Action σ ε Unit) = pure () := by
  simp [ensure, holds]

theorem ensure_of_not {condition : Prop} [Decidable condition] {failure : ε}
    (fails : ¬ condition) : (ensure condition failure : Action σ ε Unit) = fail failure := by
  simp [ensure, fails]

theorem run_ensure (condition : Prop) [Decidable condition] (failure : ε) (state : σ) :
    (ensure condition failure : Action σ ε Unit).run state =
      .ok ⟨if condition then .ok () else .error failure, state, []⟩ := by
  by_cases holds : condition <;> simp [ensure, holds]

theorem require_of {condition : Prop} [Decidable condition] {cause : Crash} (holds : condition) :
    (require condition cause : Action σ ε Unit) = pure () := by
  simp [require, holds]

theorem require_of_not {condition : Prop} [Decidable condition] {cause : Crash}
    (fails : ¬ condition) : (require condition cause : Action σ ε Unit) = crash cause := by
  simp [require, fails]

theorem run_within (part : σ → τ) (place : τ → σ → σ) (action : Action τ ε α) (state : σ) :
    (action.within part place).run state =
      (action.run (part state)).map fun report =>
        { report with state := place report.state state } := rfl

@[simp] theorem mapError_ok (convert : ε → δ) (value : α) :
    (Except.ok value : Except ε α).mapError convert = .ok value := rfl

@[simp] theorem mapError_error (convert : ε → δ) (failure : ε) :
    (Except.error failure : Except ε α).mapError convert = .error (convert failure) := rfl

theorem run_mapError (convert : ε → δ) (action : Action σ ε α) (state : σ) :
    (action.mapError convert).run state =
      (action.run state).map fun report =>
        { report with result := report.result.mapError convert } := rfl

/-- A run that ends took its first command, and then the others from where that one ended. -/
theorem runAll_cons_eq_ok {κ : Type} {step : κ → Action σ ε α} {state final : σ} {command : κ}
    {rest : List κ} {results : List (Except ε α)}
    (ran : runAll step state (command :: rest) = .ok (final, results)) :
    ∃ report later, (step command).run state = .ok report ∧
      runAll step report.state rest = .ok (final, later) ∧ results = report.result :: later := by
  rw [runAll] at ran
  cases first : (step command).run state with
  | error cause => simp [first, bind, Except.bind] at ran
  | ok report =>
      cases others : runAll step report.state rest with
      | error cause => simp [first, others, bind, Except.bind] at ran
      | ok reached =>
          obtain ⟨reached, later⟩ := reached
          simp only [first, others, bind, Except.bind, pure, Except.pure] at ran
          cases ran
          exact ⟨report, later, rfl, others, rfl⟩

/-! ### Sequencing, by the end of the first action -/

section Sequencing

variable {first : Action σ ε α} {next : α → Action σ ε β} {state reached : σ}
  {events : List Event}

theorem run_bind_of_ok {value : α} (ran : first.run state = .ok ⟨.ok value, reached, events⟩) :
    (first >>= next).run state = ((next value).run reached).map (·.after events) := by
  rw [run_bind, ran]

theorem run_bind_of_failure {failure : ε}
    (ran : first.run state = .ok ⟨.error failure, reached, events⟩) :
    (first >>= next).run state = .ok ⟨.error failure, reached, events⟩ := by
  rw [run_bind, ran]

theorem run_bind_of_crash {cause : Crash} (ran : first.run state = .error cause) :
    (first >>= next).run state = .error cause := by
  rw [run_bind, ran]

/-- Two actions that both answer, one after the other. -/
theorem run_bind_of_ok_of_ok {value : α} {final : σ} {result : Except ε β} {later : List Event}
    (ran : first.run state = .ok ⟨.ok value, reached, events⟩)
    (continued : (next value).run reached = .ok ⟨result, final, later⟩) :
    (first >>= next).run state = .ok ⟨result, final, events ++ later⟩ := by
  rw [run_bind_of_ok ran, continued]
  rfl

end Sequencing

end Action

end PagedKernel
