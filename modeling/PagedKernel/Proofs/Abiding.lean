import PagedKernel.Action

/-!
Contract: what an action keeps and records in every state.

Owns:
- actions that keep to an invariant, record events of a kind and last, if they
  fail, what their failure owes to the log (`Action.Owes`);
- actions that owe nothing: they keep to an invariant and record only events of
  a kind (`Action.Abides`);
- a rule for each way to build an action, so that this is shown along the text
  of an action, without its course.

Does not own: invariants of a particular state, or facts that hold only in some
states (their owners show them on the course of the action).
-/

namespace PagedKernel.Action

variable {σ τ ε δ α β : Type} {invariant : σ → Prop} {fits weaker : Event → Prop}
  {owed : ε → List Event} {action : Action σ ε α}

/-- From a state of the invariant the action ends in one, and it records only events that fit. -/
def Abides (invariant : σ → Prop) (fits : Event → Prop) (action : Action σ ε α) : Prop :=
  ∀ state report, invariant state → action.run state = .ok report →
    invariant report.state ∧ ∀ event ∈ report.events, fits event

/-- The records that the end of an action owes: those of the failure, if it is one. -/
def owedBy (owed : ε → List Event) : Except ε α → List Event
  | .ok _ => []
  | .error failure => owed failure

/-- From a state of the invariant the action ends in one. It records events that fit, and after them
what its end owes. -/
def Owes (invariant : σ → Prop) (fits : Event → Prop) (owed : ε → List Event)
    (action : Action σ ε α) : Prop :=
  ∀ state report, invariant state → action.run state = .ok report →
    invariant report.state ∧ ∃ earlier,
      (∀ event ∈ earlier, fits event) ∧ report.events = earlier ++ owedBy owed report.result

theorem owedBy_nothing (result : Except ε α) : owedBy (fun _ => []) result = [] := by
  cases result <;> rfl

/-- An action abides if it owes nothing. -/
theorem abides_iff_owes :
    Abides invariant fits action ↔ Owes invariant fits (fun _ => []) action := by
  constructor
  · intro abides state report holds ran
    obtain ⟨kept, fitting⟩ := abides state report holds ran
    exact ⟨kept, report.events, fitting, by rw [owedBy_nothing, List.append_nil]⟩
  · intro owes state report holds ran
    obtain ⟨kept, earlier, fitting, recorded⟩ := owes state report holds ran
    rw [owedBy_nothing, List.append_nil] at recorded
    exact ⟨kept, recorded ▸ fitting⟩

/-! ### Actions that may owe something -/

namespace Owes

/-- An action that changes and records nothing keeps to every invariant. -/
theorem of_still
    (still : ∀ state report, action.run state = .ok report →
      report.state = state ∧ report.events = [] ∧ owedBy owed report.result = []) :
    Owes invariant fits owed action := by
  intro state report holds ran
  obtain ⟨same, silent, nothing⟩ := still state report ran
  rw [same, silent, nothing]
  exact ⟨holds, [], List.forall_mem_nil _, rfl⟩

theorem pure (value : α) : Owes invariant fits owed (pure value : Action σ ε α) := by
  apply of_still
  intro state report ran
  cases ran
  exact ⟨rfl, rfl, rfl⟩

theorem fail {failure : ε} (nothing : owed failure = []) :
    Owes invariant fits owed (fail failure : Action σ ε α) := by
  apply of_still
  intro state report ran
  cases ran
  exact ⟨rfl, rfl, nothing⟩

theorem crash (cause : Crash) : Owes invariant fits owed (crash cause : Action σ ε α) := by
  apply of_still
  intro state report ran
  cases ran

theorem view (look : σ → α) : Owes invariant fits owed (view look : Action σ ε α) := by
  apply of_still
  intro state report ran
  cases ran
  exact ⟨rfl, rfl, rfl⟩

theorem check (value : Checked α) : Owes invariant fits owed (check value : Action σ ε α) := by
  cases value with
  | error cause => exact crash cause
  | ok value => exact pure value

theorem require (condition : Prop) [Decidable condition] (cause : Crash) :
    Owes invariant fits owed (require condition cause : Action σ ε Unit) := by
  by_cases holds : condition
  · rw [require_of holds]
    exact pure ()
  · rw [require_of_not holds]
    exact crash cause

theorem ensure (condition : Prop) [Decidable condition] {failure : ε}
    (nothing : owed failure = []) :
    Owes invariant fits owed (ensure condition failure : Action σ ε Unit) := by
  by_cases holds : condition
  · rw [ensure_of holds]
    exact pure ()
  · rw [ensure_of_not holds]
    exact fail nothing

theorem ofResult {result : Except ε α} (nothing : owedBy owed result = []) :
    Owes invariant fits owed (ofResult result : Action σ ε α) := by
  cases result with
  | ok value => exact pure value
  | error failure => exact fail nothing

theorem emit {event : Event} (fit : fits event) :
    Owes invariant fits owed (emit event : Action σ ε Unit) := by
  intro state report holds ran
  cases ran
  exact ⟨holds, [event], by simpa using fit, rfl⟩

/-- A failure that is recorded as it happens. -/
theorem emit_fail {event : Event} {failure : ε} (due : owed failure = [event]) :
    Owes invariant fits owed
      (Action.emit event >>= fun _ => Action.fail failure : Action σ ε α) := by
  intro state report holds ran
  cases ran
  exact ⟨holds, [], List.forall_mem_nil _, due.symm⟩

theorem update {change : σ → σ} (kept : ∀ state, invariant state → invariant (change state)) :
    Owes invariant fits owed (update change : Action σ ε Unit) := by
  intro state report holds ran
  cases ran
  exact ⟨kept state holds, [], List.forall_mem_nil _, rfl⟩

/-- What the first action records before it answers fits, since only a failure owes something. -/
theorem bind {next : α → Action σ ε β} (first : Owes invariant fits owed action)
    (later : ∀ value, Owes invariant fits owed (next value)) :
    Owes invariant fits owed (action >>= next) := by
  intro state report holds ran
  rw [run_bind] at ran
  cases opening : action.run state with
  | error cause => simp [opening] at ran
  | ok reached =>
      obtain ⟨kept, earlier, fitting, recorded⟩ := first state reached holds opening
      obtain ⟨result, middle, events⟩ := reached
      rw [opening] at ran
      cases result with
      | error failure =>
          cases ran
          exact ⟨kept, earlier, fitting, recorded⟩
      | ok value =>
          cases closing : (next value).run middle with
          | error cause => simp [closing, Except.map] at ran
          | ok last =>
              obtain ⟨keptLast, between, fittingLast, recordedLast⟩ :=
                later value middle last kept closing
              have calm : events = earlier := recorded.trans (List.append_nil earlier)
              simp only [closing, Except.map] at ran
              cases ran
              refine ⟨keptLast, earlier ++ between, ?_, ?_⟩
              · exact List.forall_mem_append.mpr ⟨fitting, fittingLast⟩
              · simp only [Report.after, calm, recordedLast, List.append_assoc]

/-- An action whose reports are those of another one, up to the result, owes the same if its ends
do. -/
theorem of_map {other : Action σ δ β} {convert : Except ε α → Except δ β}
    {others : δ → List Event} (owes : Owes invariant fits owed action)
    (same : ∀ state, other.run state = (action.run state).map fun report =>
      { report with result := convert report.result })
    (due : ∀ result, owedBy others (convert result) = owedBy owed result) :
    Owes invariant fits others other := by
  intro state report holds ran
  rw [same] at ran
  cases course : action.run state with
  | error cause => simp [course, Except.map] at ran
  | ok reached =>
      simp only [course, Except.map] at ran
      cases ran
      simp only [due]
      exact owes state reached holds course

theorem map (owes : Owes invariant fits owed action) (convert : α → β) :
    Owes invariant fits owed (convert <$> action) :=
  owes.of_map (run_map convert action) fun result => by cases result <;> rfl

theorem mapError {others : δ → List Event} (owes : Owes invariant fits owed action)
    {convert : ε → δ} (due : ∀ failure, others (convert failure) = owed failure) :
    Owes invariant fits others (action.mapError convert) :=
  owes.of_map (run_mapError convert action) fun result => by
    cases result with
    | ok => rfl
    | error failure => exact due failure

/-- A record of the failure is one more that it owes. -/
theorem emitOnError (owes : Owes invariant fits owed action) (event : ε → Event) :
    Owes invariant fits (fun failure => owed failure ++ [event failure])
      (action.emitOnError event) := by
  intro state report holds ran
  rw [Action.emitOnError] at ran
  cases course : action.run state with
  | error cause => simp [course, Except.map] at ran
  | ok reached =>
      obtain ⟨kept, earlier, fitting, recorded⟩ := owes state reached holds course
      obtain ⟨result, last, events⟩ := reached
      have recorded : events = earlier ++ owedBy owed result := recorded
      simp only [course, Except.map] at ran
      cases result with
      | ok value =>
          cases ran
          exact ⟨kept, earlier, fitting, recorded⟩
      | error failure =>
          cases ran
          refine ⟨kept, earlier, fitting, ?_⟩
          show events ++ [event failure] = earlier ++ (owed failure ++ [event failure])
          rw [recorded, List.append_assoc]
          rfl

/-- An action on a part of the state keeps what holds of the whole, if that gives the invariant of
the part and is kept by every part of the invariant that is put back. -/
theorem within {whole : τ → Prop} {part : τ → σ} {place : σ → τ → τ}
    (owes : Owes invariant fits owed action)
    (opens : ∀ state, whole state → invariant (part state))
    (closes : ∀ value state, whole state → invariant value → whole (place value state)) :
    Owes whole fits owed (action.within part place) := by
  intro state report holds ran
  rw [run_within] at ran
  cases course : action.run (part state) with
  | error cause => simp [course, Except.map] at ran
  | ok reached =>
      obtain ⟨kept, recorded⟩ := owes (part state) reached (opens state holds) course
      simp only [course, Except.map] at ran
      cases ran
      exact ⟨closes reached.state state holds kept, recorded⟩

theorem mono (owes : Owes invariant fits owed action)
    (implies : ∀ event, fits event → weaker event) : Owes invariant weaker owed action := by
  intro state report holds ran
  obtain ⟨kept, earlier, fitting, recorded⟩ := owes state report holds ran
  exact ⟨kept, earlier, fun event member => implies event (fitting event member), recorded⟩

end Owes

/-! ### Actions that owe nothing -/

namespace Abides

theorem owes (abides : Abides invariant fits action) :
    Owes invariant fits (fun _ => []) action :=
  abides_iff_owes.mp abides

theorem pure (value : α) : Abides invariant fits (pure value : Action σ ε α) :=
  abides_iff_owes.mpr (.pure value)

theorem fail (failure : ε) : Abides invariant fits (fail failure : Action σ ε α) :=
  abides_iff_owes.mpr (.fail rfl)

theorem crash (cause : Crash) : Abides invariant fits (crash cause : Action σ ε α) :=
  abides_iff_owes.mpr (.crash cause)

theorem view (look : σ → α) : Abides invariant fits (view look : Action σ ε α) :=
  abides_iff_owes.mpr (.view look)

theorem check (value : Checked α) : Abides invariant fits (check value : Action σ ε α) :=
  abides_iff_owes.mpr (.check value)

theorem require (condition : Prop) [Decidable condition] (cause : Crash) :
    Abides invariant fits (require condition cause : Action σ ε Unit) :=
  abides_iff_owes.mpr (.require condition cause)

theorem ensure (condition : Prop) [Decidable condition] (failure : ε) :
    Abides invariant fits (ensure condition failure : Action σ ε Unit) :=
  abides_iff_owes.mpr (.ensure condition rfl)

theorem emit {event : Event} (fit : fits event) :
    Abides invariant fits (emit event : Action σ ε Unit) :=
  abides_iff_owes.mpr (.emit fit)

theorem update {change : σ → σ} (kept : ∀ state, invariant state → invariant (change state)) :
    Abides invariant fits (update change : Action σ ε Unit) :=
  abides_iff_owes.mpr (.update kept)

theorem bind {next : α → Action σ ε β} (first : Abides invariant fits action)
    (later : ∀ value, Abides invariant fits (next value)) :
    Abides invariant fits (action >>= next) :=
  abides_iff_owes.mpr (first.owes.bind fun value => (later value).owes)

theorem map (abides : Abides invariant fits action) (convert : α → β) :
    Abides invariant fits (convert <$> action) :=
  abides_iff_owes.mpr (abides.owes.map convert)

theorem mapError (abides : Abides invariant fits action) (convert : ε → δ) :
    Abides invariant fits (action.mapError convert) :=
  abides_iff_owes.mpr (abides.owes.mapError fun _ => rfl)

theorem within {whole : τ → Prop} {part : τ → σ} {place : σ → τ → τ}
    (abides : Abides invariant fits action)
    (opens : ∀ state, whole state → invariant (part state))
    (closes : ∀ value state, whole state → invariant value → whole (place value state)) :
    Abides whole fits (action.within part place) :=
  abides_iff_owes.mpr (abides.owes.within opens closes)

theorem mono (abides : Abides invariant fits action)
    (implies : ∀ event, fits event → weaker event) : Abides invariant weaker action :=
  abides_iff_owes.mpr (abides.owes.mono implies)

end Abides

end PagedKernel.Action
