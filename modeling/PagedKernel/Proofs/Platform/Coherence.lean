import PagedKernel.Proofs.Platform.Ledger

/-!
Contract: what the machines of a platform translate through.

Owns:
- the results of translations on a platform whose handles stand for the owners
  of a ledger;
- platforms that translate as their ledger says, and on which a change of the
  table of one space shows in that table alone (`Platform.Coherent`);
- the coherence of every platform that a run leads to (`course_coherent`).

A space that was dropped keeps its place in the ledger, so a machine that still
translates through its table is covered like any other.
-/

namespace PagedKernel.Platform

open PagedKernel.Action

variable {platform : Platform} {position slot : Nat} {host : Host} {ε α : Type}

/-! ### Translations on a platform -/

theorem result_onHost {action : (geometry : Geometry) → Action (Kernel geometry) ε α}
    (found : platform.hosts[position]? = some host) :
    (onHost position action).result platform =
      (action host.geometry).result (platform.kernel host) := by
  simp only [result, onHost, found]
  cases (action host.geometry).run (platform.kernel host) <;> rfl

/-- What a machine of the platform would translate an address to. -/
def translation (platform : Platform) (position : Nat) (address : UInt32) :
    Checked (Except Exception Nat) :=
  (onHost position fun _ => Kernel.translate address).result platform

/-- Translations do not depend on the spaces that exist. -/
theorem translation_congr {other : Platform} (hosts : other.hosts = platform.hosts)
    (frames : other.frames = platform.frames) (tables : other.tables = platform.tables)
    (address : UInt32) :
    other.translation position address = platform.translation position address := by
  unfold translation
  cases found : platform.hosts[position]? with
  | none =>
      have missing : other.hosts[position]? = none := by rw [hosts, found]
      simp only [result, onHost, found, missing]
  | some host =>
      have present : other.hosts[position]? = some host := by rw [hosts, found]
      have same : other.kernel host = platform.kernel host := by
        rw [kernel, frames, tables, kernel]
      rw [result_onHost found, result_onHost present, same]

/-- The request changes no entry of a table. -/
def Command.Steady : Command → Prop
  | .edit _ _ _ => False
  | .access _ request => request.address? = none
  | _ => True

/-- A platform at one with the ledger of its requests.

The table of a space is the one that the ledger has for its slot, and a machine has the table that
it uses according to the ledger, whether the space of that table still exists or not. It translates
an address as that table does, and without a table it translates none. The mark that an access
leaves, and an edit of an entry, show in the table of one space and in no other. A copy of a space
starts with a table of its own, whatever the table of its parent holds. Other requests leave the
tables of all spaces as they were, and the end of a space leaves even the translations as they
were. -/
structure Coherent (platform : Platform) (ledger : Ledger) : Prop where
  shown : ∀ slot space, platform.space? slot = some space →
    platform.tables.table space.table = ledger.tables (.space slot)
  installed : ∀ position host, platform.hosts[position]? = some host →
    (platform.kernel host).installedTable? = ledger.current position
  returns : ∀ position host address, platform.hosts[position]? = some host →
    ∃ answer, platform.translation position address = .ok answer
  translated : ∀ position host address, platform.hosts[position]? = some host →
    platform.translation position address =
      match ledger.current position with
      | none => .ok (.error .addressError)
      | some table => (PageTable.translate host.geometry address).result table
  marked : ∀ position host request address report, platform.hosts[position]? = some host →
    request.address? = some address → (step (.access position request)).run platform = .ok report →
      ∀ slot space, platform.space? slot = some space →
        report.state.tables.table space.table =
          if ledger.uses position = some (.space slot) then
            (platform.tables.table space.table).referenced host.geometry address
          else platform.tables.table space.table
  edited : ∀ slot page change report,
    (step (.edit slot page change)).run platform = .ok report →
      ∀ other space, platform.space? other = some space →
        report.state.tables.table space.table =
          if other = slot then (platform.tables.table space.table).change page change
          else platform.tables.table space.table
  forked : ∀ position slot report new copy, (step (.fork position slot)).run platform = .ok report →
    report.result = .ok (.space new copy) →
      platform.space? new = none ∧ report.state.space? new = some copy ∧
        report.state.tables.table copy.table = .contiguous copy.pages copy.firstFrame
  steady : ∀ command report, command.Steady → (step command).run platform = .ok report →
    ∀ slot space, platform.space? slot = some space →
      report.state.tables.table space.table = platform.tables.table space.table
  dropped : ∀ slot report, (step (.drop slot)).run platform = .ok report →
    report.state.hosts = platform.hosts ∧ report.state.frames = platform.frames ∧
      ∀ position address,
        report.state.translation position address = platform.translation position address

/-- A copy takes a slot that no space had, with a fresh table. -/
theorem forked_of_step {report : Report Platform Failure Answer} {new : Nat} {copy : AddressSpace}
    (ran : (step (.fork position slot)).run platform = .ok report)
    (made : report.result = .ok (.space new copy)) :
    platform.space? new = none ∧ report.state.space? new = some copy ∧
      report.state.tables.table copy.table = .contiguous copy.pages copy.firstFrame := by
  have effect := effect_of_step ran
  have tables : report.state.view.tables = report.state.tables := rfl
  have slots : report.state.view.slots = report.state.slots := rfl
  rw [made] at effect
  generalize report.state.view = after at effect tables slots
  cases effect with
  | quiet quiet => exact quiet.elim
  | built asks grows size fresh =>
      have table := fresh.resolve_left (by cases asks; exact nofun)
      rw [space?, space?, ← tables, ← slots]
      refine ⟨?_, ?_, table⟩
      · show platform.slots[platform.slots.size]?.join = none
        rw [Array.getElem?_size]
        rfl
      · show (platform.slots.push (some copy))[platform.slots.size]?.join = some copy
        rw [Array.getElem?_push_size]
        rfl

/-! ### Platforms with handles -/

namespace Ledger.Tracks

variable {ids : Owner → Option TableId} {ledger : Ledger} {view : View} {owner : Owner}
  {id : TableId} {space : AddressSpace}

/-- A change of the table of an owner shows in the space of this owner and in no other. -/
theorem table_put_change (tracks : Tracks ids ledger view) (known : ids owner = some id)
    (found : view.space? slot = some space) (change : PageTable → PageTable) :
    (view.tables.put id (change (view.tables.table id))).table space.table =
      if some owner = some (.space slot) then change (view.tables.table space.table)
      else view.tables.table space.table := by
  have own := (tracks.space slot space found).1
  rw [TableStore.table_put _ _ _ _ (tracks.issued owner id known)]
  by_cases same : owner = .space slot
  · have handle : space.table = id := by
      rw [same, own] at known
      exact Option.some.inj known
    rw [if_pos (congrArg some same), if_pos handle, handle]
  · have other : space.table ≠ id := by
      rintro rfl
      exact same (tracks.injective owner _ _ known own)
    rw [if_neg (fun equal => same (Option.some.inj equal)), if_neg other]

variable (tracks : Tracks ids ledger platform.view)
include tracks

theorem installedTable?_eq (found : platform.hosts[position]? = some host) :
    (platform.kernel host).installedTable? = ledger.current position := by
  have installed := installed_view found
  rw [Kernel.installedTable?, current]
  show host.machine.installed.map (platform.tables.table ·.table) = _
  cases held : host.machine.installed with
  | none => rw [tracks.not_uses_of_idle (installed.trans held), Option.map_none, Option.map_none]
  | some mapping =>
      obtain ⟨owner, used, known, -⟩ := tracks.uses_of_held (installed.trans held)
      rw [used, Option.map_some, Option.map_some, ← tracks.table owner mapping.table known]
      rfl

theorem translation_eq (found : platform.hosts[position]? = some host) (address : UInt32) :
    platform.translation position address =
      match ledger.current position with
      | none => .ok (.error .addressError)
      | some table => .ok (table.resolve host.geometry address) := by
  have installed := installed_view found
  rw [translation, result_onHost found, current]
  cases held : host.machine.installed with
  | none =>
      rw [tracks.not_uses_of_idle (installed.trans held), result,
        Kernel.run_translate_of_idle held]
      rfl
  | some mapping =>
      obtain ⟨owner, used, known, pages⟩ := tracks.uses_of_held (installed.trans held)
      have table := tracks.table owner mapping.table known
      have through : (platform.kernel host).Through mapping := by
        refine ⟨held, tracks.issued owner mapping.table known, ?_⟩
        rw [pages, ← table]
        rfl
      rw [through.result_translate, used, Option.map_some, ← table]
      rfl

theorem steady {command : Command} {report : Report Platform Failure Answer}
    (kept : command.Steady) (ran : (step command).run platform = .ok report) {space : AddressSpace}
    (found : platform.space? slot = some space) :
    report.state.tables.table space.table = platform.tables.table space.table := by
  have issued := tracks.issued _ _ (tracks.space slot space found).1
  have effect := effect_of_step ran
  show report.state.view.tables.table space.table = platform.view.tables.table space.table
  generalize report.state.view = after at effect ⊢
  generalize report.result = result at effect
  cases effect with
  | refused | unbuilt | quiet | activated | uninstalled | dropped | idle => rfl
  | built asks grows => exact (grows.kept space.table issued).2
  | installed => exact ((TableStore.grows_add _ _).kept space.table issued).2
  | edited => exact kept.elim
  | accessed shaped held named =>
      have nameless : _ = none := kept
      rw [named] at nameless
      cases nameless

theorem marked {request : Access} {address : UInt32} {report : Report Platform Failure Answer}
    (found : platform.hosts[position]? = some host) (named : request.address? = some address)
    (ran : (step (.access position request)).run platform = .ok report) {space : AddressSpace}
    (present : platform.space? slot = some space) :
    report.state.tables.table space.table =
      if ledger.uses position = some (.space slot) then
        (platform.tables.table space.table).referenced host.geometry address
      else platform.tables.table space.table := by
  have shape := shape_view found
  have effect := effect_of_step ran
  show report.state.view.tables.table space.table = _
  generalize report.state.view = after at effect ⊢
  generalize report.result = result at effect
  cases effect with
  | refused kind | unbuilt kind => exact (kind trivial).elim
  | quiet quiet => exact quiet.elim
  | built asks => cases asks
  | idle idle =>
      have unused : ledger.uses position = none := by
        rcases idle with nothing | nameless
        · exact tracks.not_uses_of_idle nothing
        · rw [named] at nameless
          cases nameless
      rw [unused, if_neg nofun]
      rfl
  | accessed shaped held otherNamed =>
      cases shape.symm.trans shaped
      cases named.symm.trans otherNamed
      obtain ⟨owner, used, known, -⟩ := tracks.uses_of_held held
      rw [used]
      exact tracks.table_put_change known present (·.referenced host.geometry address)

theorem edited {page : Nat} {change : Entry.Change} {report : Report Platform Failure Answer}
    (ran : (step (.edit slot page change)).run platform = .ok report) {other : Nat}
    {space : AddressSpace} (present : platform.space? other = some space) :
    report.state.tables.table space.table =
      if other = slot then (platform.tables.table space.table).change page change
      else platform.tables.table space.table := by
  rw [step, run_bind_findSpace] at ran
  cases found : platform.space? slot with
  | none =>
      rw [found] at ran
      cases ran
      have different : other ≠ slot := by
        rintro rfl
        cases found.symm.trans present
      rw [if_neg different]
  | some target =>
      rw [found] at ran
      cases ran
      have changed := tracks.table_put_change (tracks.space slot target found).1 present
        (·.change page change)
      have here : some (Owner.space slot) = some (.space other) ↔ other = slot := by
        rw [Option.some.injEq, Owner.space.injEq, eq_comm]
      simp only [here] at changed
      exact changed

theorem coherent : Coherent platform ledger where
  shown := fun slot space found => tracks.table _ _ (tracks.space slot space found).1
  installed := fun _ _ found => tracks.installedTable?_eq found
  returns := by
    intro position host address found
    rw [tracks.translation_eq found]
    cases ledger.current position <;> exact ⟨_, rfl⟩
  translated := by
    intro position host address found
    rw [tracks.translation_eq found]
    cases ledger.current position with
    | none => rfl
    | some table =>
        obtain ⟨events, ran⟩ := table.run_translate host.machine.usable address
        simp only [result, ran]
        rfl
  marked := fun _ _ _ _ _ found named ran _ _ present => tracks.marked found named ran present
  edited := fun _ _ _ _ ran _ _ present => tracks.edited ran present
  forked := fun _ _ _ _ _ ran made => forked_of_step ran made
  steady := fun _ _ kept ran _ _ present => tracks.steady kept ran present
  dropped := by
    intro slot report ran
    rw [step, run_bind_findSpace] at ran
    cases found : platform.space? slot with
    | none =>
        rw [found] at ran
        cases ran
        exact ⟨rfl, rfl, fun _ _ => rfl⟩
    | some space =>
        rw [found] at ran
        cases ran
        refine ⟨rfl, rfl, fun position address => ?_⟩
        apply translation_congr <;> rfl

end Ledger.Tracks

/-! ### Runs -/

/-- Requests that tell the machines the sizes of their tables lead to platforms whose handles stand
for the owners of the ledger. -/
theorem tracks_of_course {hosts : Array Host} {frames : FramePool}
    (idle : ∀ host ∈ hosts, host.machine.installed = none) {past : Past} {platform : Platform}
    (course : Course step (start hosts frames) past platform)
    (plain : ∀ command ∈ past.map (·.command), command.Plain) :
    ∃ ids, Ledger.Tracks ids (ledger past) platform.view := by
  induction course with
  | nil =>
      refine ⟨_, .blank rfl ?_⟩
      intro position
      show (hosts[position]?.bind fun host => host.machine.installed) = none
      cases found : hosts[position]? with
      | none => rfl
      | some host => exact idle host (Array.mem_of_getElem? found)
  | @snoc past state command report _ ran inductionHypothesis =>
      rw [List.map_append, List.forall_mem_append] at plain
      obtain ⟨ids, tracks⟩ := inductionHypothesis plain.1
      rw [ledger_snoc]
      exact tracks.effect (plain.2 command List.mem_cons_self) (effect_of_step ran)

/-- What a machine translates through never departs from the table that its owner has, over every
run of machines without tables that share a pool. -/
theorem course_coherent {hosts : Array Host} {frames : FramePool}
    (idle : ∀ host ∈ hosts, host.machine.installed = none) {past : Past} {platform : Platform}
    (course : Course step (start hosts frames) past platform)
    (plain : ∀ command ∈ past.map (·.command), command.Plain) :
    Coherent platform (ledger past) := by
  obtain ⟨ids, tracks⟩ := tracks_of_course idle course plain
  exact tracks.coherent

/-- One space on two machines, copied, edited and dropped while both still use its table, and a
table of no space on the second machine. -/
def handedOver : List Command :=
  [.load 0 AddressSpace.twoWordImage, .activate 0 0, .activate 1 0, .access 1 (.translate 0),
    .fork 0 0, .edit 0 0 (.valid false), .drop 0, .access 0 (.translate 0),
    .install 1 2 0 2, .access 1 (.readWord 8), .uninstall 0, .access 0 (.translate 0)]

theorem course_coherent_handedOver :
    ∃ past platform, Course step (start unlikeHosts ⟨10, 0⟩) past platform ∧
      past.map (·.command) = handedOver ∧ platform.space? 0 = none ∧
      platform.space? 1 = some ⟨⟨1⟩, 3, 3⟩ ∧ Coherent platform (ledger past) := by
  have shown : ((start unlikeHosts ⟨10, 0⟩).run handedOver).toOption.map
      (fun reached => (reached.1.space? 0, reached.1.space? 1)) =
        some (none, some ⟨⟨1⟩, 3, 3⟩) := by
    decide +kernel
  obtain ⟨⟨platform, results⟩, ran, seen⟩ := exists_of_seen shown
  obtain ⟨past, course, taken, -⟩ := course_of_runAll ran
  have idle : ∀ host ∈ unlikeHosts, host.machine.installed = none := by
    simp [unlikeHosts, AddressSpace.smallKernel]
  have plain : ∀ command ∈ past.map (·.command), command.Plain := by
    rw [taken]
    simp [handedOver, Command.Plain]
  exact ⟨past, platform, course, taken, congrArg Prod.fst seen, congrArg Prod.snd seen,
    course_coherent idle course plain⟩

end PagedKernel.Platform
