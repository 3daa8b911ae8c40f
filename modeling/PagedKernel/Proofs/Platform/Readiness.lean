import PagedKernel.Proofs.Launching
import PagedKernel.Proofs.Platform.Accounts
import PagedKernel.Proofs.Platform.Effects

/-!
Contract: spaces of a platform whose programs can start at any time.

Owns:
- platforms whose spaces have handles of their own, and tables as they were
  built unless somebody edits them (`Platform.View.Intact`), kept by every
  request and so by every run;
- the machine that a space was built on, which has its frames for good;
- the start of the program of a space, right after its construction or later.

Does not own: the state that a program starts in (`Launching`).
-/

namespace PagedKernel

open PagedKernel.Action

namespace Platform

variable {platform initial : Platform} {position slot : Nat} {command : Command}
  {report : Report Platform Failure Answer} {space : AddressSpace}

/-! ### Tables that nobody edits -/

/-- The spaces in the slots have handles of their own. The tables of the spared ones have their
pages in order. -/
structure View.Intact (spared : Nat → Prop) (view : View) : Prop where
  issued : ∀ slot space, view.space? slot = some space → view.tables.Issued space.table
  injective : ∀ slot other space rival, view.space? slot = some space →
    view.space? other = some rival → space.table = rival.table → slot = other
  linear : ∀ slot space, view.space? slot = some space → spared slot →
    (view.tables.table space.table).Linear space.firstFrame space.pages

namespace View.Intact

variable {spared : Nat → Prop} {view after : View} (intact : view.Intact spared)
include intact

/-- Slots that lost spaces, or got more of them without a space. -/
theorem shrunk {slots : Array (Option AddressSpace)}
    (fewer : ∀ slot space, slots[slot]?.join = some space → view.space? slot = some space) :
    ({ view with slots } : View).Intact spared where
  issued := fun slot space found => intact.issued slot space (fewer slot space found)
  injective := fun slot other space rival found otherFound =>
    intact.injective slot other space rival (fewer slot space found)
      (fewer other rival otherFound)
  linear := fun slot space found => intact.linear slot space (fewer slot space found)

/-- A table of no space that was added. -/
theorem grown {tables : TableStore} {id : TableId} (grows : view.tables.Grows tables id) :
    ({ view with tables } : View).Intact spared where
  issued := fun slot space found => (grows.kept _ (intact.issued slot space found)).1
  injective := intact.injective
  linear := by
    intro slot space found spares
    show (tables.table space.table).Linear _ _
    rw [(grows.kept _ (intact.issued slot space found)).2]
    exact intact.linear slot space found spares

/-- A new space, with a table under a handle that no other space has. -/
theorem built {tables : TableStore} (grows : view.tables.Grows tables space.table)
    (linear : (tables.table space.table).Linear space.firstFrame space.pages) :
    ({ view with tables, slots := view.slots.push (some space) } : View).Intact spared := by
  have grown := intact.grown grows
  have fresh : ∀ slot other, view.space? slot = some other → other.table ≠ space.table :=
    fun slot other found same => grows.fresh (same ▸ intact.issued slot other found)
  constructor
  case issued =>
    intro slot other found
    rcases slot_of_push found with ⟨-, new⟩ | ⟨-, before⟩
    · cases new
      exact grows.issued
    · exact grown.issued slot other before
  case injective =>
    intro slot other first second found otherFound same
    rcases slot_of_push found with ⟨last, new⟩ | ⟨-, before⟩
    · cases new
      rcases slot_of_push otherFound with ⟨otherLast, -⟩ | ⟨-, otherBefore⟩
      · rw [last, otherLast]
      · exact (fresh other second otherBefore same.symm).elim
    · rcases slot_of_push otherFound with ⟨-, otherNew⟩ | ⟨-, otherBefore⟩
      · cases otherNew
        exact (fresh slot first before same).elim
      · exact intact.injective slot other first second before otherBefore same
  case linear =>
    intro slot other found spares
    rcases slot_of_push found with ⟨-, new⟩ | ⟨-, before⟩
    · cases new
      exact linear
    · exact grown.linear slot other before spares

/-- A table that was replaced by one with its pages in the same order, or that is the table of no
spared space. -/
theorem replaced {id : TableId} {table : PageTable}
    (linear : ∀ slot space, view.space? slot = some space → spared slot → space.table = id →
      table.Linear space.firstFrame space.pages) :
    ({ view with tables := view.tables.put id table } : View).Intact spared where
  issued := fun slot space found => TableStore.issued_put.mpr (intact.issued slot space found)
  injective := intact.injective
  linear := by
    intro slot space found spares
    show ((view.tables.put id table).table space.table).Linear _ _
    by_cases same : space.table = id
    · have issued : view.tables.Issued id := same ▸ intact.issued slot space found
      rw [TableStore.table_put _ _ _ _ issued, if_pos same]
      exact linear slot space found spares same
    · rw [TableStore.table_put_of_ne _ _ same]
      exact intact.linear slot space found spares

/-- A request that edits no spared space keeps the view intact, if a space that it builds has its
pages in order. -/
theorem effect {result : Except Failure Answer} (effect : Effect view command result after)
    (spares : ∀ slot page change, command = .edit slot page change → ¬ spared slot)
    (ordered : ∀ position space, built? command result = some (position, space) →
      (after.tables.table space.table).Linear space.firstFrame space.pages) :
    after.Intact spared := by
  cases effect with
  | refused | quiet | idle => exact intact
  | activated | uninstalled => exact ⟨intact.issued, intact.injective, intact.linear⟩
  | unbuilt =>
      refine intact.shrunk fun slot space found => ?_
      rcases slot_of_push found with ⟨-, new⟩ | ⟨-, before⟩
      · cases new
      · exact before
  | dropped => exact intact.shrunk fun _ _ found => slot_of_cleared found
  | built asks grows =>
      exact intact.built grows (ordered _ _ (built?_of_asks asks))
  | @installed _ pages firstFrame _ =>
      have grown := intact.grown (view.tables.grows_add (.contiguous pages firstFrame))
      exact ⟨grown.issued, grown.injective, grown.linear⟩
  | @edited slot page change target entry found =>
      refine intact.replaced fun other space present spared same => ?_
      cases intact.injective other slot space target present found same
      exact (spares _ page change rfl spared).elim
  | accessed =>
      refine intact.replaced fun slot space found spares same => ?_
      rw [← same]
      exact (intact.linear slot space found spares).referenced _ _

end View.Intact

/-- A space that was just built has its pages in order. -/
theorem linear_of_step (ran : (step command).run platform = .ok report)
    (built : built? command report.result = some (position, space)) :
    (report.state.tables.table space.table).Linear space.firstFrame space.pages := by
  rcases asks_of_step ran with
    frugal | ⟨count, rfl⟩ | rfl | ⟨other, construction, asks, building⟩
  · cases command <;> first | exact frugal.elim | cases built
  · cases built
  · cases command <;> cases built
  · obtain ⟨host, ⟨result, after, events⟩, found, constructed, rfl⟩ := occupySlot_cases building
    cases result with
    | error => cases asks <;> cases built
    | ok made =>
        cases (built?_of_asks asks).symm.trans built
        exact (Construction.built_of_run constructed rfl).linear

/-! ### Runs -/

/-- No request of the run edited the space in the slot. -/
def Unedited (past : Past) (slot : Nat) : Prop :=
  ∀ page change, Command.edit slot page change ∉ past.map (·.command)

theorem unedited_snoc {past : Past} {turn : Turn Command Platform Failure Answer} :
    Unedited (past ++ [turn]) slot ↔
      Unedited past slot ∧ ∀ page change, turn.command ≠ .edit slot page change := by
  simp only [Unedited, List.map_append, List.map_cons, List.map_nil, List.mem_append,
    List.mem_singleton, not_or, forall_and, ne_eq, eq_comm]

/-- Whoever is spared by a whole run is spared by each of its requests. -/
theorem intact_of_course {spared : Nat → Prop} (intact : initial.view.Intact spared) {past : Past}
    (course : Course step initial past platform)
    (spares : ∀ slot, spared slot → Unedited past slot) : platform.view.Intact spared := by
  induction course with
  | nil => exact intact
  | snoc _ ran inductionHypothesis =>
      have before := inductionHypothesis fun slot spared =>
        (unedited_snoc.mp (spares slot spared)).1
      refine before.effect (effect_of_step ran) ?_ fun _ _ built => linear_of_step ran built
      intro slot page change edits spared
      exact (unedited_snoc.mp (spares slot spared)).2 page change edits

theorem intact_start (hosts : Array Host) (frames : FramePool) (spared : Nat → Prop) :
    (start hosts frames).view.Intact spared := by
  have empty : ∀ slot space, (start hosts frames).view.space? slot ≠ some space :=
    fun _ _ => nofun
  exact ⟨fun _ _ found => (empty _ _ found).elim, fun _ _ _ _ found => (empty _ _ found).elim,
    fun _ _ found => (empty _ _ found).elim⟩

/-- The machine that a space was built on still has its frames. -/
theorem inside_of_course {past : Past} (course : Course step initial past platform)
    {turn : Turn Command Platform Failure Answer} (member : turn ∈ past)
    (built : built? turn.command turn.report.result = some (position, space)) :
    ∃ host, platform.hosts[position]? = some host ∧
      space.firstFrame + space.pages ≤ host.geometry.frames := by
  have kept : ∀ state (turn : Turn Command Platform Failure Answer),
      state.geometryAt = initial.geometryAt → (step turn.command).run state = .ok turn.report →
        turn.report.state.geometryAt = initial.geometryAt ∧ ∀ position space,
          built? turn.command turn.report.result = some (position, space) →
            ∃ geometry, initial.geometryAt position = some geometry ∧
              space.firstFrame + space.pages ≤ geometry.frames := by
    intro state turn shape ran
    have granted : FramePool.KeptByGrants fun _ => True := fun _ _ _ _ => trivial
    obtain ⟨⟨-, kept⟩, -⟩ := abides_step granted turn.command state turn.report
      ⟨trivial, shape⟩ ran
    refine ⟨kept, fun position space built => ?_⟩
    rw [← shape]
    exact inside_of_step ran built
  obtain ⟨shape, inside⟩ := course.invariant kept rfl
  obtain ⟨geometry, shaped, room⟩ := inside turn member position space built
  rw [← shape, geometryAt, Option.map_eq_some_iff] at shaped
  obtain ⟨host, found, rfl⟩ := shaped
  exact ⟨host, found, room⟩

/-! ### Starts -/

/-- The requests that start the program of a space on a machine. -/
def startRequests (position slot : Nat) : List Command :=
  [.initRegisters position slot, .activate position slot]

variable {host : Host}

/-- A request that has an action run on one machine and answers nothing. -/
theorem run_onHost_done (action : (geometry : Geometry) → Action (Kernel geometry) Failure Unit)
    {after : Kernel host.geometry} {events : List Event}
    (found : platform.hosts[position]? = some host)
    (ran : (action host.geometry).run (platform.kernel host) = .ok ⟨.ok (), after, events⟩) :
    (onHost position action >>= fun _ => pure Answer.done).run platform =
      .ok ⟨.ok .done, platform.put position after, events⟩ := by
  have course : (onHost position action).run platform =
      .ok ⟨.ok (), platform.put position after, events⟩ := by
    simp only [onHost, found, ran, Except.map]
  rw [run_bind_of_ok course]
  simp [Except.map, Report.after]

theorem getElem?_put (found : platform.hosts[position]? = some host)
    (after : Kernel host.geometry) :
    (platform.put position after).hosts[position]? = some ⟨host.geometry, after.machine⟩ := by
  have inside := (Array.getElem?_eq_some_iff.mp found).1
  rw [put, Array.getElem?_setIfInBounds, if_pos rfl, if_pos inside]

theorem put_put (platform : Platform) (position : Nat) {geometry : Geometry}
    (first second : Kernel geometry) :
    (platform.put position first).put position second = platform.put position second := by
  simp [put]

theorem run_startRequests (found : platform.hosts[position]? = some host)
    (present : platform.space? slot = some space)
    (bounded : space.pages * host.geometry.pageSize < Size.limit) :
    platform.run (startRequests position slot) =
      .ok (platform.put position (AddressSpace.launched (platform.kernel host) space),
        [.ok .done, .ok .done]) := by
  let middle := AddressSpace.primed (platform.kernel host) space
  let primed := platform.put position middle
  have registers : (step (.initRegisters position slot)).run platform =
      .ok ⟨.ok .done, primed, [.stackSet (space.stackTop host.geometry.pageSize)]⟩ := by
    rw [step, run_bind_findSpace, present]
    exact run_onHost_done (fun _ => space.initRegisters) found
      (AddressSpace.run_initRegisters bounded)
  have table : (step (.activate position slot)).run primed =
      .ok ⟨.ok .done, platform.put position (AddressSpace.launched (platform.kernel host) space),
        []⟩ := by
    have still : primed.space? slot = some space := present
    have activated := run_onHost_done (fun _ => space.activate) (getElem?_put found middle)
      AddressSpace.run_activate_primed
    rw [put_put] at activated
    rw [step, run_bind_findSpace, still]
    exact activated
  simp only [startRequests, run, runAll, registers, table, bind, Except.bind, pure, Except.pure]

/-- The program of a space can start whenever nobody edited the table of the space, right after
the construction or later, and also on machines that share frames with others. -/
theorem spaces_startable :
    (∀ {geometry : Geometry} {ε : Type} (construction : Construction)
      (kernel built later : Kernel geometry) (space : AddressSpace) (events : List Event),
      construction.action.run kernel = .ok ⟨.ok space, built, events⟩ →
      (built.tables.table space.table).Unedited (later.tables.table space.table) →
        ∃ started recorded,
          (space.start : Action (Kernel geometry) ε Unit).run later =
            .ok ⟨.ok (), started, recorded⟩ ∧ space.Poised started) ∧
    ∀ (hosts : Array Host) (frames : FramePool) (past : Past) (platform : Platform)
      (turn : Turn Command Platform Failure Answer) (position slot : Nat) (space : AddressSpace),
      Course step (start hosts frames) past platform → turn ∈ past →
      built? turn.command turn.report.result = some (position, space) →
      platform.space? slot = some space → Unedited past slot →
        ∃ reached host,
          platform.run (startRequests position slot) = .ok (reached, [.ok .done, .ok .done]) ∧
            reached.hosts[position]? = some host ∧ space.Poised (reached.kernel host) := by
  constructor
  · intro geometry ε construction kernel built later space events ran unedited
    have whole := Construction.built_of_run ran rfl
    have linear := whole.linear.unedited unedited
    exact ⟨_, _, AddressSpace.run_start (whole.backed.bytes_lt_limit later.machine.usable),
      AddressSpace.poised_launched linear whole.inside⟩
  · intro hosts frames past platform turn position slot space course member built present unedited
    have intact := intact_of_course (intact_start hosts frames (Unedited past)) course
      fun _ unedited => unedited
    have linear := intact.linear slot space present unedited
    obtain ⟨host, found, inside⟩ := inside_of_course course member built
    have bounded := host.machine.usable.run_lt_limit
      (Nat.le_trans (Nat.le_add_left space.pages space.firstFrame) inside)
    have poised : space.Poised (AddressSpace.launched (platform.kernel host) space) :=
      AddressSpace.poised_launched linear inside
    exact ⟨_, _, run_startRequests found present bounded, getElem?_put found _, poised⟩

/-- Two frames, each of which is by a few bytes too large for 32 bits. -/
def oversizedKernel : Kernel { pageSize := UInt32.size + 8, frames := 2, stackSize := 0 } :=
  ⟨{ usable := ⟨by decide, by decide⟩ }, ⟨2, 0⟩, {}⟩

/-- Three spaces on two machines, of which the first is edited, used and dropped. -/
def furnished : List Command :=
  [.load 0 AddressSpace.twoWordImage, .fork 0 0, .duplicate 1 2 0, .edit 0 0 (.valid false),
    .activate 0 0, .access 0 (.translate 4), .activate 1 1, .access 1 (.translate 4), .drop 0]

theorem spaces_startable_furnished :
    (∃ built events started recorded,
      (AddressSpace.duplicate 1 1).run oversizedKernel = .ok ⟨.ok ⟨⟨0⟩, 1, 0⟩, built, events⟩ ∧
      (AddressSpace.start ⟨⟨0⟩, 1, 0⟩ : Action _ Unit Unit).run built =
        .ok ⟨.ok (), started, recorded⟩ ∧
      AddressSpace.Poised started ⟨⟨0⟩, 1, 0⟩ ∧ ∃ pointer,
        started.machine.registers[Registers.stack]? = some pointer ∧
          pointer.toUInt32.toNat = 0xfffffff8) ∧
    ∃ past platform, Course step (start unlikeHosts ⟨10, 0⟩) past platform ∧
      past.map (·.command) = furnished ∧
      (∃ reached host,
        platform.run (startRequests 0 1) = .ok (reached, [.ok .done, .ok .done]) ∧
          reached.hosts[0]? = some host ∧
          AddressSpace.Poised (reached.kernel host) ⟨⟨1⟩, 3, 3⟩) ∧
      ∃ reached host,
        platform.run (startRequests 1 2) = .ok (reached, [.ok .done, .ok .done]) ∧
          reached.hosts[1]? = some host ∧
          AddressSpace.Poised (reached.kernel host) ⟨⟨2⟩, 2, 6⟩ := by
  obtain ⟨alone, shared⟩ := spaces_startable
  constructor
  · have ran : (AddressSpace.duplicate 1 1).run oversizedKernel = _ :=
      AddressSpace.run_duplicate_of_free oversizedKernel.machine.usable (by decide) (by decide)
    obtain ⟨started, recorded, start, poised⟩ := alone (.duplicate 1 1) oversizedKernel
      _ _ _ _ ran (PageTable.Unedited.refl _)
    obtain ⟨pointer, found, size⟩ := poised.stack (by decide)
    exact ⟨_, _, started, recorded, ran, start, poised, pointer, found, size⟩
  · have shown : (trace step (start unlikeHosts ⟨10, 0⟩) furnished).toOption.map
        (fun reached => (reached.1.map fun turn => built? turn.command turn.report.result,
          reached.2.space? 1, reached.2.space? 2)) =
        some ([some (0, ⟨⟨0⟩, 3, 0⟩), some (0, ⟨⟨1⟩, 3, 3⟩), some (1, ⟨⟨2⟩, 2, 6⟩), none, none,
          none, none, none, none], some ⟨⟨1⟩, 3, 3⟩, some ⟨⟨2⟩, 2, 6⟩) := by
      decide +kernel
    obtain ⟨⟨past, platform⟩, traced, seen⟩ := exists_of_seen shown
    obtain ⟨course, taken⟩ := course_of_trace traced
    simp only [Prod.mk.injEq] at seen
    obtain ⟨builds, first, second⟩ := seen
    have member : ∀ position space, some (position, space) ∈ past.map (fun turn =>
        built? turn.command turn.report.result) → ∃ turn ∈ past,
          built? turn.command turn.report.result = some (position, space) :=
      fun _ _ member => List.mem_map.mp member
    rw [builds] at member
    obtain ⟨turn, forked, copy⟩ := member 0 ⟨⟨1⟩, 3, 3⟩ (by simp)
    obtain ⟨other, copied, twin⟩ := member 1 ⟨⟨2⟩, 2, 6⟩ (by simp)
    have unedited : ∀ slot, slot ≠ 0 → Unedited past slot := by
      intro slot different page change
      rw [taken]
      simp [furnished, different]
    exact ⟨past, platform, course, taken,
      shared _ _ past platform turn 0 1 _ course forked copy first (unedited 1 (by decide)),
      shared _ _ past platform other 1 2 _ course copied twin second (unedited 2 (by decide))⟩

end Platform

end PagedKernel
