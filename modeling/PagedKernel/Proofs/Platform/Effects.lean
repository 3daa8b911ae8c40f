import Mathlib.Logic.Function.Basic
import PagedKernel.Proofs.Platform.Requests
import PagedKernel.Proofs.Resolution

/-!
Contract: what a request does to the page tables of a platform.

Owns:
- the tables of a platform, the spaces in its slots, and the tables that its
  machines translate through (`Platform.View`);
- stores that grew by the table of a new handle (`TableStore.Grows`);
- every way in which a request can change these (`Platform.Effect`), and where
  the space in a slot comes from.

Does not own: the frame pool (`Platform.Requests`), or what the tables of a
platform tell about the requests so far (`Platform.Ledger`).
-/

namespace PagedKernel

open PagedKernel.Action

/-! ### Growing stores -/

/-- The store got a table under a new handle, and kept the others. -/
structure TableStore.Grows (before after : TableStore) (id : TableId) : Prop where
  fresh : ¬ before.Issued id
  issued : after.Issued id
  kept : ∀ other, before.Issued other →
    after.Issued other ∧ after.table other = before.table other

theorem TableStore.grows_add (store : TableStore) (added : PageTable) :
    store.Grows (store.add added) store.nextId where
  fresh := fun issued => ne_nextId_of_issued issued rfl
  issued := issued_add.mpr (Or.inr rfl)
  kept := fun other issued =>
    ⟨issued_add.mpr (Or.inl issued), by rw [table_add, if_neg (ne_nextId_of_issued issued)]⟩

theorem AddressSpace.Built.grows {geometry : Geometry} {before after : Kernel geometry}
    {space : AddressSpace} (built : Built before after space) :
    before.tables.Grows after.tables space.table where
  fresh := built.fresh
  issued := built.owned
  kept := fun other issued => ⟨built.issued other issued, built.table other issued⟩

namespace Platform

/-! ### Views -/

/-- Of a platform, all that its translations depend on. -/
@[ext] structure View where
  tables : TableStore
  slots : Array (Option AddressSpace)
  installed : Nat → Option Mapping
  shape : Nat → Option Geometry

def View.space? (view : View) (slot : Nat) : Option AddressSpace := view.slots[slot]?.join

section Slots

variable {slots : Array (Option AddressSpace)} {slot : Nat} {space : AddressSpace}

/-- A space in a slot was put there last, or was there before a slot was added. -/
theorem slot_of_push {added : Option AddressSpace}
    (found : (slots.push added)[slot]?.join = some space) :
    (slot = slots.size ∧ added = some space) ∨
      (slot ≠ slots.size ∧ slots[slot]?.join = some space) := by
  rw [Array.getElem?_push] at found
  by_cases last : slot = slots.size
  · rw [if_pos last] at found
    exact Or.inl ⟨last, found⟩
  · rw [if_neg last] at found
    exact Or.inr ⟨last, found⟩

theorem slot_of_cleared {cleared : Nat}
    (found : (slots.setIfInBounds cleared none)[slot]?.join = some space) :
    slots[slot]?.join = some space := by
  rw [Array.getElem?_setIfInBounds] at found
  split at found
  · split at found <;> cases found
  · exact found

end Slots

def view (platform : Platform) : View where
  tables := platform.tables
  slots := platform.slots
  installed := fun position => platform.hosts[position]?.bind (·.machine.installed)
  shape := platform.geometryAt

variable {platform : Platform} {position slot : Nat} {host : Host} {α : Type}

theorem installed_view (found : platform.hosts[position]? = some host) :
    platform.view.installed position = host.machine.installed := by
  simp only [view, found, Option.bind_some]

theorem shape_view (found : platform.hosts[position]? = some host) :
    platform.view.shape position = some host.geometry := by
  simp only [view, geometryAt, found, Option.map_some]

theorem view_put (found : platform.hosts[position]? = some host) (after : Kernel host.geometry) :
    (platform.put position after).view =
      { platform.view with
        tables := after.tables
        installed :=
          Function.update platform.view.installed position after.machine.installed } := by
  apply View.ext
  case tables | slots => rfl
  case shape => exact geometryAt_put found after
  case installed =>
    funext other
    simp only [view, put, Array.getElem?_setIfInBounds]
    by_cases here : position = other
    · subst here
      rw [Function.update_self, if_pos rfl, if_pos (Array.getElem?_eq_some_iff.mp found).1]
      rfl
    · rw [Function.update_of_ne (Ne.symm here), if_neg here]

/-- A machine that translates through the same table as before. -/
theorem view_put_of_installed (found : platform.hosts[position]? = some host)
    {after : Kernel host.geometry} (kept : after.machine.installed = host.machine.installed) :
    (platform.put position after).view = { platform.view with tables := after.tables } := by
  rw [view_put found, kept, ← installed_view found, Function.update_eq_self]

/-! ### Effects -/

/-- The request is none that changes tables, slots or the use of a table. -/
def Command.Quiet : Command → Prop
  | .initRegisters _ _ | .suspend _ | .reserve _ => True
  | _ => False

/-- The request is an access of a program. -/
def Command.IsAccess : Command → Prop
  | .access _ _ => True
  | _ => False

/-- The ways in which a request can change the tables and their use. -/
inductive Effect (view : View) : Command → Except Failure Answer → View → Prop where
  | refused {command : Command} {failure : Failure} (kind : ¬ command.IsAccess) :
      Effect view command (.error failure) view
  | unbuilt {command : Command} {failure : Failure} (kind : ¬ command.IsAccess) :
      Effect view command (.error failure) { view with slots := view.slots.push none }
  | quiet {command : Command} {answer : Answer} (quiet : command.Quiet)
      (done : ∀ slot space, answer ≠ .space slot space) : Effect view command (.ok answer) view
  | built {command : Command} {position : Nat} {construction : Construction}
      {space : AddressSpace} {tables : TableStore} (asks : command.Asks position construction)
      (grows : view.tables.Grows tables space.table)
      (size : (tables.table space.table).size = space.pages)
      (fresh : (∃ file, construction = .load file) ∨
        tables.table space.table = .contiguous space.pages space.firstFrame) :
      Effect view command (.ok (.space view.slots.size space))
        { view with tables, slots := view.slots.push (some space) }
  | activated {host slot : Nat} {space : AddressSpace} (found : view.space? slot = some space) :
      Effect view (.activate host slot) (.ok .done)
        { view with
          installed := Function.update view.installed host (some ⟨space.table, space.pages⟩) }
  | installed {host pages firstFrame expected : Nat} :
      Effect view (.install host pages firstFrame expected) (.ok .done)
        { view with
          tables := view.tables.add (.contiguous pages firstFrame)
          installed :=
            Function.update view.installed host (some ⟨view.tables.nextId, expected⟩) }
  | uninstalled {host : Nat} :
      Effect view (.uninstall host) (.ok .done)
        { view with installed := Function.update view.installed host none }
  | edited {slot page : Nat} {change : Entry.Change} {space : AddressSpace} {entry : Option Entry}
      (found : view.space? slot = some space) :
      Effect view (.edit slot page change) (.ok (.entry entry))
        { view with
          tables := view.tables.put space.table
            ((view.tables.table space.table).change page change) }
  | dropped {slot : Nat} :
      Effect view (.drop slot) (.ok .done)
        { view with slots := view.slots.setIfInBounds slot none }
  | idle {host : Nat} {request : Access} {result : Except Failure Answer}
      (idle : view.installed host = none ∨ request.address? = none)
      (done : ∀ slot space, result ≠ .ok (.space slot space)) :
      Effect view (.access host request) result view
  | accessed {host : Nat} {request : Access} {address : UInt32} {mapping : Mapping}
      {geometry : Geometry} {result : Except Failure Answer}
      (shaped : view.shape host = some geometry) (held : view.installed host = some mapping)
      (named : request.address? = some address)
      (done : ∀ slot space, result ≠ .ok (.space slot space)) :
      Effect view (.access host request) result
        { view with
          tables := view.tables.put mapping.table
            ((view.tables.table mapping.table).referenced geometry address) }

/-- A space in a slot was there before the request, or the request was granted its frames. -/
theorem Effect.space_cases {before after : View} {command : Command}
    {result : Except Failure Answer} (effect : Effect before command result after)
    {space : AddressSpace} (found : after.space? slot = some space) :
    before.space? slot = some space ∨ grant? command result = some space.frameRun := by
  cases effect with
  | built asks =>
      rcases slot_of_push found with ⟨-, new⟩ | ⟨-, before⟩
      · cases new
        exact Or.inr (grant?_of_asks asks)
      · exact Or.inl before
  | unbuilt =>
      rcases slot_of_push found with ⟨-, new⟩ | ⟨-, before⟩
      · cases new
      · exact Or.inl before
  | dropped => exact Or.inl (slot_of_cleared found)
  | _ => exact Or.inl found

/-! ### The effect of each request -/

variable {report : Report Platform Failure Answer}

/-- A request that has an action run on one machine and answers nothing. -/
theorem onHost_done_cases {action : (geometry : Geometry) → Action (Kernel geometry) Failure Unit}
    (ran : (onHost position action >>= fun _ => pure Answer.done).run platform = .ok report) :
    ∃ host inner, platform.hosts[position]? = some host ∧
      (action host.geometry).run (platform.kernel host) = .ok inner ∧
      report.result = inner.result.map (fun _ => Answer.done) ∧
      report.state = platform.put position inner.state := by
  obtain ⟨opening, course, ended⟩ := run_bind_eq_ok ran
  obtain ⟨host, inner, found, acted, rfl⟩ := onHost_cases course
  refine ⟨host, inner, found, acted, ?_⟩
  rcases ended with
    ⟨failure, failed, result, state⟩ | ⟨value, closing, answered, closed, result, state⟩
  · have failed : inner.result = .error failure := failed
    exact ⟨by rw [result, failed]; rfl, state⟩
  · have answered : inner.result = .ok value := answered
    cases closed
    exact ⟨by rw [result, answered]; rfl, state⟩

theorem effect_of_building {command : Command} {construction : Construction}
    (asks : command.Asks position construction)
    (ran : (occupySlot (onHost position fun _ => construction.action)).run platform =
      .ok report) :
    Effect platform.view command report.result report.state.view := by
  obtain ⟨host, ⟨result, after, events⟩, found, constructed, rfl⟩ := occupySlot_cases ran
  cases result with
  | error error =>
      have residue := Construction.residue_of_run constructed rfl
      have same : (platform.put position after).view = platform.view := by
        rw [view_put_of_installed found residue.installed, residue.tables]
        rfl
      have kind : ¬ command.IsAccess := by cases asks <;> exact id
      show Effect platform.view command (.error (.build error))
        { (platform.put position after).view with slots := platform.slots.push none }
      rw [same]
      exact .unbuilt kind
  | ok space =>
      have built := Construction.built_of_run constructed rfl
      have fresh : (∃ file, construction = .load file) ∨
          after.tables.table space.table = .contiguous space.pages space.firstFrame := by
        cases construction with
        | load file => exact Or.inl ⟨file, rfl⟩
        | duplicate pages parentFrame =>
            exact Or.inr (AddressSpace.table_of_duplicate constructed)
      show Effect platform.view command (.ok (.space platform.slots.size space))
        { (platform.put position after).view with slots := platform.slots.push (some space) }
      rw [view_put_of_installed found built.installed]
      exact .built asks built.grows built.linear.size_eq fresh

theorem effect_of_access {request : Access}
    (ran : (step (.access position request)).run platform = .ok report) :
    Effect platform.view (.access position request) report.result report.state.view := by
  obtain ⟨converted, mapped, rfl⟩ := run_map_eq_ok ran
  obtain ⟨inner, course, rfl⟩ := run_mapError_eq_ok mapped
  obtain ⟨host, ⟨result, after, events⟩, found, accessed, rfl⟩ := onHost_cases course
  have done : ∀ slot space, (result.mapError Failure.exception).map Answer.access ≠
      .ok (.space slot space) := by
    intro slot space
    cases result <;> exact nofun
  have installed := installed_view found
  show Effect platform.view _ _ (platform.put position after).view
  cases named : request.address? with
  | none =>
      have kept : after.tables = platform.tables ∧
          after.machine.installed = host.machine.installed := by
        cases request with
        | translate | readWord | writeWord => cases named
        | readRegister index =>
            obtain ⟨value, -, same⟩ := Kernel.readRegister_cases accessed
            cases same
            exact ⟨rfl, rfl⟩
        | writeRegister index value =>
            cases Kernel.writeRegister_cases accessed
            exact ⟨rfl, rfl⟩
      rw [view_put_of_installed found kept.2, kept.1]
      exact .idle (Or.inr named) done
  | some address =>
      obtain ⟨translated, course, tables, used⟩ := Kernel.translate_of_access named accessed
      rcases Kernel.translate_cases course with ⟨idle, same⟩ | ⟨mapping, held, same⟩
      · rw [same] at tables used
        rw [view_put_of_installed found used, tables]
        exact .idle (Or.inl (installed.trans idle)) done
      · rw [same] at tables used
        rw [view_put_of_installed found used, tables]
        exact .accessed (shape_view found) (installed.trans held) named done

theorem initRegisters_cases {geometry : Geometry} {kernel : Kernel geometry} {ε : Type}
    {space : AddressSpace} {report : Report (Kernel geometry) ε Unit}
    (ran : space.initRegisters.run kernel = .ok report) :
    report.result = .ok () ∧ report.state.tables = kernel.tables ∧
      report.state.machine.installed = kernel.machine.installed := by
  rw [AddressSpace.initRegisters, run_bind] at ran
  cases stack : space.initialStack geometry.pageSize with
  | error cause => simp [stack] at ran
  | ok stack =>
      rw [stack] at ran
      cases ran
      exact ⟨rfl, rfl, rfl⟩

theorem installContiguous_cases {geometry : Geometry} {kernel : Kernel geometry} {ε : Type}
    {pages firstFrame expected : Nat} {report : Report (Kernel geometry) ε Unit}
    (ran : (Kernel.installContiguous pages firstFrame expected).run kernel = .ok report) :
    report.result = .ok () ∧
      report.state.tables = kernel.tables.add (.contiguous pages firstFrame) ∧
      report.state.machine.installed = some ⟨kernel.tables.nextId, expected⟩ := by
  rw [Kernel.installContiguous, run_bind, PageTable.contiguousChecked] at ran
  by_cases fits : pages = 0 ∨ firstFrame + (pages - 1) < Size.limit
  · rw [if_pos fits] at ran
    cases ran
    exact ⟨rfl, rfl, rfl⟩
  · rw [if_neg fits] at ran
    cases ran

/-- Every request has one of the effects. -/
theorem effect_of_step {command : Command} (ran : (step command).run platform = .ok report) :
    Effect platform.view command report.result report.state.view := by
  -- A request about a space that is not there fails and changes nothing.
  have missing : ∀ {slot : Nat} {next : AddressSpace → Action Platform Failure Answer},
      ¬ command.IsAccess → (findSpace slot >>= next).run platform = .ok report →
        Effect platform.view command report.result report.state.view ∨
          ∃ space, platform.space? slot = some space ∧
            (next space).run platform = .ok report := by
    intro slot next kind ran
    rw [run_bind_findSpace] at ran
    cases found : platform.space? slot with
    | none =>
        rw [found] at ran
        cases ran
        exact Or.inl (.refused kind)
    | some space =>
        rw [found] at ran
        exact Or.inr ⟨space, rfl, ran⟩
  cases command with
  | load host file => exact effect_of_building .load ran
  | duplicate host pages parentFrame => exact effect_of_building .duplicate ran
  | fork host slot =>
      rcases missing id ran with effect | ⟨space, -, ran⟩
      · exact effect
      · have building : (occupySlot (onHost host fun _ =>
            (Construction.duplicate space.pages space.firstFrame).action)).run platform =
              .ok report := ran
        exact effect_of_building .fork building
  | initRegisters host slot =>
      rcases missing id ran with effect | ⟨space, -, ran⟩
      · exact effect
      · obtain ⟨machine, inner, found, acted, result, state⟩ := onHost_done_cases ran
        obtain ⟨answered, tables, installed⟩ := initRegisters_cases acted
        rw [result, state, answered, view_put_of_installed found installed, tables]
        exact .quiet trivial (fun _ _ => nofun)
  | activate host slot =>
      rcases missing id ran with effect | ⟨space, found, ran⟩
      · exact effect
      · obtain ⟨machine, inner, placed, acted, result, state⟩ := onHost_done_cases ran
        cases acted
        rw [result, state, view_put placed]
        exact .activated found
  | suspend slot =>
      rcases missing id ran with effect | ⟨space, -, ran⟩
      · exact effect
      · cases ran
        exact .quiet trivial (fun _ _ => nofun)
  | drop slot =>
      rcases missing id ran with effect | ⟨space, -, ran⟩
      · exact effect
      · cases ran
        exact .dropped
  | edit slot page change =>
      rcases missing id ran with effect | ⟨space, found, ran⟩
      · exact effect
      · cases ran
        exact .edited found
  | reserve count =>
      obtain ⟨converted, mapped, rfl⟩ := run_map_eq_ok ran
      obtain ⟨inner, course, rfl⟩ := run_mapError_eq_ok mapped
      obtain ⟨⟨result, after, events⟩, reserved, rfl⟩ := run_within_eq_ok course
      cases result with
      | error shortage => exact .refused id
      | ok first => exact .quiet trivial (fun _ _ => nofun)
  | install host pages firstFrame expected =>
      obtain ⟨machine, inner, placed, acted, result, state⟩ := onHost_done_cases ran
      obtain ⟨answered, tables, installed⟩ := installContiguous_cases acted
      rw [result, state, answered, view_put placed, tables, installed]
      exact .installed
  | uninstall host =>
      obtain ⟨machine, inner, placed, acted, result, state⟩ := onHost_done_cases ran
      cases acted
      rw [result, state, view_put placed]
      exact .uninstalled
  | access host request => exact effect_of_access ran

end Platform

end PagedKernel
