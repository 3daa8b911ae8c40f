import PagedKernel.Platform
import PagedKernel.Proofs.Bookkeeping
import PagedKernel.Proofs.Construction

/-!
Contract: what a request does to the frame pool that the machines share.

Owns:
- the courses of an action on one machine and of a request for a space;
- requests that take no frames (`Platform.Command.Frugal`), which leave the
  pool as it is;
- the machines, which keep their geometries under every request;
- the frames that a request was granted (`Platform.grant?`), and those that were
  taken for an image whose load then failed (`Platform.lost`);
- every way in which a request can change the pool (`Platform.Booking`).

Does not own: the frames given out over a run (`Platform.Accounts`).
-/

namespace PagedKernel

open PagedKernel.Action

/-- So many consecutive frames. -/
structure FrameRun where
  first : Nat
  count : Nat
deriving DecidableEq, Repr

def AddressSpace.frameRun (space : AddressSpace) : FrameRun := ⟨space.firstFrame, space.pages⟩

namespace Platform

variable {platform : Platform} {position : Nat} {ε α : Type}

/-! ### The course of a request -/

/-- The geometry of a machine of the platform. -/
def geometryAt (platform : Platform) (position : Nat) : Option Geometry :=
  platform.hosts[position]?.map (·.geometry)

/-- A machine that was changed keeps its geometry. -/
theorem geometryAt_put {host : Host} (found : platform.hosts[position]? = some host)
    (after : Kernel host.geometry) :
    (platform.put position after).geometryAt = platform.geometryAt := by
  funext other
  simp only [geometryAt, put, Array.getElem?_setIfInBounds]
  by_cases here : position = other
  · subst here
    obtain ⟨inside, rfl⟩ := Array.getElem?_eq_some_iff.mp found
    simp [inside]
  · simp [here]

theorem onHost_cases {action : (geometry : Geometry) → Action (Kernel geometry) ε α}
    {report : Report Platform ε α} (ran : (onHost position action).run platform = .ok report) :
    ∃ host inner, platform.hosts[position]? = some host ∧
      (action host.geometry).run (platform.kernel host) = .ok inner ∧
      report = { inner with state := platform.put position inner.state } := by
  simp only [onHost] at ran
  cases found : platform.hosts[position]? with
  | none => simp [found] at ran
  | some host =>
      rw [found] at ran
      cases course : (action host.geometry).run (platform.kernel host) with
      | error cause => simp [course, Except.map] at ran
      | ok inner =>
          simp only [course, Except.map] at ran
          cases ran
          exact ⟨host, inner, rfl, course, rfl⟩

/-- The next slot is taken whether the request succeeds or not. -/
theorem run_occupySlot (building : Action Platform BuildError AddressSpace) (platform : Platform) :
    (occupySlot building).run platform = (building.run platform).map fun inner =>
      ⟨(inner.result.map (Answer.space platform.slots.size)).mapError .build,
        { inner.state with slots := inner.state.slots.push inner.result.toOption },
        inner.events⟩ := by
  simp only [occupySlot, run_bind, run_view, run_mapError, settle]
  rcases building.run platform with cause | ⟨result, reached, events⟩
  · rfl
  · cases result <;> simp [Except.map, Report.after]

/-- A request for a space ran on one machine, and its result is the one of that run. -/
theorem occupySlot_cases
    {action : (geometry : Geometry) → Action (Kernel geometry) BuildError AddressSpace}
    {report : Report Platform Failure Answer}
    (ran : (occupySlot (onHost position action)).run platform = .ok report) :
    ∃ host inner, platform.hosts[position]? = some host ∧
      (action host.geometry).run (platform.kernel host) = .ok inner ∧
      report =
        ⟨(inner.result.map (Answer.space platform.slots.size)).mapError .build,
          { platform.put position inner.state with
            slots := platform.slots.push inner.result.toOption },
          inner.events⟩ := by
  rw [run_occupySlot] at ran
  cases course : (onHost position action).run platform with
  | error cause => simp [course, Except.map] at ran
  | ok inner =>
      rw [course] at ran
      cases ran
      obtain ⟨host, inner, found, acted, rfl⟩ := onHost_cases course
      exact ⟨host, inner, found, acted, rfl⟩

/-- A request about a space finds it in its slot, or fails. -/
theorem run_bind_findSpace {slot : Nat}
    (next : AddressSpace → Action Platform Failure α) :
    (findSpace slot >>= next).run platform =
      match platform.space? slot with
      | none => .ok ⟨.error .noSpace, platform, []⟩
      | some space => (next space).run platform := by
  cases found : platform.space? slot with
  | none =>
      have lacking : (findSpace slot).run platform = .ok ⟨.error .noSpace, platform, []⟩ := by
        simp [findSpace, run_bind, found, Except.map, Report.after]
      exact run_bind_of_failure lacking
  | some space =>
      have present : (findSpace slot).run platform = .ok ⟨.ok space, platform, []⟩ := by
        simp [findSpace, run_bind, found, Except.map, Report.after]
      rw [run_bind_of_ok present, map_after_nil]

/-! ### Requests that take no frames -/

variable {held : FramePool → Prop} {shape : Nat → Option Geometry}

/-- The action keeps what is held of the pool, and the geometries of the machines. -/
abbrev KeepsBooks (held : FramePool → Prop) (shape : Nat → Option Geometry)
    (action : Action Platform ε α) : Prop :=
  Abides (fun platform => held platform.frames ∧ platform.geometryAt = shape) (fun _ => True)
    action

theorem abides_onHost {action : (geometry : Geometry) → Action (Kernel geometry) ε α}
    (abides : ∀ geometry, Kernel.KeepsBooks held (action geometry)) :
    KeepsBooks held shape (onHost position action) := by
  rintro platform report ⟨holds, shaped⟩ ran
  obtain ⟨host, inner, found, course, rfl⟩ := onHost_cases ran
  refine ⟨⟨?_, ?_⟩, fun _ _ => trivial⟩
  · exact (abides host.geometry (platform.kernel host) inner holds course).1
  · rw [geometryAt_put found, shaped]

/-- The request takes no frames of the pool. -/
def Command.Frugal : Command → Prop
  | .load _ _ | .duplicate _ _ _ | .fork _ _ | .reserve _ => False
  | _ => True

theorem abides_findSpace (slot : Nat) :
    KeepsBooks held shape (findSpace slot) := by
  refine .bind (.view _) fun found => ?_
  cases found with
  | none => exact .fail _
  | some space => exact .pure _

theorem abides_installContiguous {geometry : Geometry} (pages firstFrame expected : Nat) :
    Kernel.KeepsBooks held
      (Kernel.installContiguous pages firstFrame expected : Action (Kernel geometry) ε Unit) := by
  refine .bind (.check _) fun table => ?_
  refine .bind ?_ fun id => Kernel.abides_updateMachine _
  exact .bind (.view _) fun _ => .bind (.update fun _ holds => holds) fun _ => .pure _

theorem abides_editTable (id : TableId) (page : Nat) (edit : Entry.Change) :
    KeepsBooks held shape
      (editTable id page edit : Action Platform ε (Option Entry)) :=
  .bind (.update fun _ holds => holds) fun _ => .view _

/-- A request without frames keeps all that the pool and the geometries have. -/
theorem abides_of_frugal {command : Command} (frugal : command.Frugal) :
    KeepsBooks held shape (step command) := by
  cases command with
  | load | duplicate | fork | reserve => exact frugal.elim
  | initRegisters host slot =>
      exact .bind (abides_findSpace slot) fun space =>
        .bind (abides_onHost fun _ => space.abides_initRegisters) fun _ => .pure _
  | activate host slot =>
      exact .bind (abides_findSpace slot) fun space =>
        .bind (abides_onHost fun _ => space.abides_activate) fun _ => .pure _
  | suspend slot => exact .bind (abides_findSpace slot) fun _ => .pure _
  | drop slot =>
      exact .bind (abides_findSpace slot) fun space => .bind (.emit trivial) fun _ =>
        .bind (.update fun _ holds => holds) fun _ => .pure _
  | edit slot page change =>
      exact .bind (abides_findSpace slot) fun space =>
        .map (abides_editTable space.table page change) _
  | install host pages firstFrame expected =>
      exact .bind (abides_onHost fun _ => abides_installContiguous pages firstFrame expected)
        fun _ => .pure _
  | uninstall host =>
      exact .bind (abides_onHost fun _ => Kernel.abides_updateMachine _) fun _ => .pure _
  | access host request =>
      have printable : ∀ event : Event, event.Placing → event.Printable :=
        fun _ => Event.Placing.printable
      exact .map (.mapError (abides_onHost fun _ => (Kernel.abides_access request).mono printable)
        _) _

/-! ### Requests that may take frames -/

section Granted

variable (granted : FramePool.KeptByGrants held)
include granted

theorem abides_reserve (count : Nat) :
    Abides held (fun _ => True) (FramePool.reserve count) := by
  intro pool report holds ran
  rw [FramePool.run_reserve] at ran
  rcases pool.reserveWithin_cases count pool.total with ⟨fits, course⟩ | course
  · cases course.symm.trans ran
    exact ⟨granted pool count holds (Nat.le_trans fits (Nat.min_le_left _ _)), by simp⟩
  · cases course.symm.trans ran
    exact ⟨holds, by simp⟩

theorem abides_occupySlot (position : Nat) (construction : Construction) :
    KeepsBooks held shape (occupySlot (onHost position fun _ => construction.action)) := by
  intro platform report holds ran
  rw [run_occupySlot] at ran
  cases course : (onHost position fun _ => construction.action).run platform with
  | error cause => simp [course, Except.map] at ran
  | ok inner =>
      have abides : KeepsBooks held shape
          (onHost position fun _ => construction.action) :=
        abides_onHost fun _ => Construction.abides_action granted construction
      simp only [course, Except.map] at ran
      cases ran
      exact abides platform inner holds course

/-- Every request keeps what every grant of frames keeps, and the geometries. -/
theorem abides_step (command : Command) :
    KeepsBooks held shape (step command) := by
  cases command with
  | load host file => exact abides_occupySlot granted host (.load file)
  | duplicate host pages parentFrame =>
      exact abides_occupySlot granted host (.duplicate pages parentFrame)
  | fork host slot =>
      exact .bind (abides_findSpace slot) fun space =>
        abides_occupySlot granted host (.duplicate space.pages space.firstFrame)
  | reserve count =>
      refine .map (.mapError ((abides_reserve granted count).within ?_ ?_) _) _
      · exact fun _ holds => holds.1
      · exact fun _ _ holds kept => ⟨kept, holds.2⟩
  | _ => exact abides_of_frugal trivial

end Granted

/-! ### What a request takes -/

/-- The space that a request built, and the position of the machine that it was built on. -/
def built? : Command → Except Failure Answer → Option (Nat × AddressSpace)
  | .load host _, .ok (.space _ space) => some (host, space)
  | .duplicate host _ _, .ok (.space _ space) => some (host, space)
  | .fork host _, .ok (.space _ space) => some (host, space)
  | _, _ => none

/-- The frames that a request was granted, for a space or for their own sake. -/
def grant? : Command → Except Failure Answer → Option FrameRun
  | .reserve count, .ok (.frame first) => some ⟨first, count⟩
  | command, result => (built? command result).map fun built => built.2.frameRun

/-- The number of frames that were taken for an image whose segments could not be copied. -/
def lost (shape : Nat → Option Geometry) : Command → Except Failure Answer → Nat
  | .load host file, .error (.build error) =>
      match error.keepsFrames, shape host, Header.read file with
      | true, some geometry, .ok (header, _) => header.pageCount geometry
      | _, _, _ => 0
  | _, _ => 0

/-- A request leaves the pool alone, or takes the next frames of it, which it is granted or which
are lost. -/
inductive Booking (pool : FramePool) : Option FrameRun → Nat → FramePool → Prop where
  | unchanged : Booking pool none 0 pool
  | granted (count : Nat) : Booking pool (some ⟨pool.committed, count⟩) 0 (pool.take count)
  | lost (count : Nat) : Booking pool none count (pool.take count)

/-- How a request for a space on a machine of some geometry can end. -/
inductive Building (pool : FramePool) (geometry : Geometry) (construction : Construction) :
    Except Failure Answer → FramePool → Prop where
  | built {slot : Nat} {space : AddressSpace} (first : space.firstFrame = pool.committed)
      (inside : space.firstFrame + space.pages ≤ geometry.frames) :
      Building pool geometry construction (.ok (.space slot space)) (pool.take space.pages)
  | refused {error : BuildError} (early : error.keepsFrames = false) :
      Building pool geometry construction (.error (.build error)) pool
  | torn {error : BuildError} {file : File} {header : Header} {order : ByteOrder}
      (late : error.keepsFrames = true) (loaded : construction = .load file)
      (read : Header.read file = .ok (header, order)) :
      Building pool geometry construction (.error (.build error))
        (pool.take (header.pageCount geometry))

theorem building_of_run {construction : Construction}
    {report : Report Platform Failure Answer}
    (ran : (occupySlot (onHost position fun _ => construction.action)).run platform =
      .ok report) :
    ∃ geometry, platform.geometryAt position = some geometry ∧
      Building platform.frames geometry construction report.result report.state.frames := by
  obtain ⟨host, ⟨result, after, events⟩, found, constructed, rfl⟩ := occupySlot_cases ran
  refine ⟨host.geometry, by simp [geometryAt, found], ?_⟩
  cases result with
  | ok space =>
      have built := Construction.built_of_run constructed rfl
      have taken : after.frames = platform.frames.take space.pages := by
        rcases frames : after.frames with ⟨total, committed⟩
        have same := built.total
        have more := built.taken
        simp only [frames] at same more
        rw [same, more]
        rfl
      simp only [put, taken]
      exact .built built.firstFrame built.inside
  | error error =>
      have residue := Construction.residue_of_run constructed rfl
      cases kept : error.keepsFrames with
      | false =>
          have same : after.frames = platform.frames := (residue.untouched kept).2
          simp only [put, same]
          exact .refused kept
      | true =>
          obtain ⟨file, header, order, loaded, read, taken⟩ := residue.taken kept
          have taken : after.frames =
              platform.frames.take (header.pageCount host.geometry) := taken
          simp only [put, taken]
          exact .torn kept loaded read

/-- The request asks for a space on a machine. -/
inductive Command.Asks : Command → Nat → Construction → Prop where
  | load {host : Nat} {file : File} : Asks (.load host file) host (.load file)
  | duplicate {host pages parentFrame : Nat} :
      Asks (.duplicate host pages parentFrame) host (.duplicate pages parentFrame)
  | fork {host slot pages parentFrame : Nat} :
      Asks (.fork host slot) host (.duplicate pages parentFrame)

/-- A request takes no frames, asks for frames alone, lacks the space to be copied, or asks for a
space. -/
theorem asks_of_step {command : Command} {report : Report Platform Failure Answer}
    (ran : (step command).run platform = .ok report) :
    command.Frugal ∨ (∃ count, command = .reserve count) ∨
      report = ⟨.error .noSpace, platform, []⟩ ∨
      ∃ position construction, command.Asks position construction ∧
        (occupySlot (onHost position fun _ => construction.action)).run platform = .ok report := by
  cases command with
  | load host file => exact Or.inr (Or.inr (Or.inr ⟨host, .load file, .load, ran⟩))
  | duplicate host pages parentFrame =>
      exact Or.inr (Or.inr (Or.inr ⟨host, .duplicate pages parentFrame, .duplicate, ran⟩))
  | fork host slot =>
      rw [step, run_bind_findSpace] at ran
      cases found : platform.space? slot with
      | none =>
          rw [found] at ran
          cases ran
          exact Or.inr (Or.inr (Or.inl rfl))
      | some space =>
          rw [found] at ran
          exact Or.inr (Or.inr (Or.inr
            ⟨host, .duplicate space.pages space.firstFrame, .fork, ran⟩))
  | reserve count => exact Or.inr (Or.inl ⟨count, rfl⟩)
  | _ => exact Or.inl trivial

section Asks

variable {command : Command} {construction : Construction} {answer : Answer} {failure : Failure}
  {slot : Nat} {space : AddressSpace} (asks : command.Asks position construction)
include asks

theorem built?_of_asks : built? command (.ok (.space slot space)) = some (position, space) := by
  cases asks <;> rfl

theorem grant?_of_asks : grant? command (.ok (.space slot space)) = some space.frameRun := by
  cases asks <;> rfl

theorem grant?_of_asks_failed : grant? command (.error failure) = none := by
  cases asks <;> rfl

theorem lost_of_asks : lost shape command (.ok answer) = 0 := by
  cases asks <;> rfl

theorem lost_of_asks_refused {error : BuildError} (early : error.keepsFrames = false) :
    lost shape command (.error (.build error)) = 0 := by
  cases asks <;> simp [lost, early]

theorem lost_of_asks_torn {error : BuildError} {file : File} {header : Header} {order : ByteOrder}
    {geometry : Geometry} (late : error.keepsFrames = true) (loaded : construction = .load file)
    (read : Header.read file = .ok (header, order)) (shaped : shape position = some geometry) :
    lost shape command (.error (.build error)) = header.pageCount geometry := by
  subst loaded
  cases asks
  simp [lost, late, read, shaped]

end Asks

variable {command : Command} {report : Report Platform Failure Answer}

theorem booking_of_reserve {count : Nat} (ran : (step (.reserve count)).run platform = .ok report) :
    Booking platform.frames (grant? (.reserve count) report.result)
      (lost platform.geometryAt (.reserve count) report.result) report.state.frames := by
  rw [step, run_map, run_mapError, run_within, FramePool.run_reserve] at ran
  rcases platform.frames.reserveWithin_cases count platform.frames.total with ⟨-, course⟩ | course
  · rw [course] at ran
    cases ran
    exact .granted count
  · rw [course] at ran
    cases ran
    exact .unchanged

theorem booking_of_frugal (frugal : command.Frugal)
    (ran : (step command).run platform = .ok report) :
    Booking platform.frames (grant? command report.result)
      (lost platform.geometryAt command report.result) report.state.frames := by
  have nothing : grant? command report.result = none ∧
      lost platform.geometryAt command report.result = 0 := by
    cases command with
    | load | duplicate | fork | reserve => exact frugal.elim
    | _ => exact ⟨rfl, rfl⟩
  have same : platform.frames = report.state.frames :=
    (abides_of_frugal frugal platform report ⟨rfl, rfl⟩ ran).1.1
  rw [nothing.1, nothing.2, ← same]
  exact .unchanged

/-- What a request is granted and what it loses is all that it takes. -/
theorem booking_of_step (ran : (step command).run platform = .ok report) :
    Booking platform.frames (grant? command report.result)
      (lost platform.geometryAt command report.result) report.state.frames := by
  rcases asks_of_step ran with
    frugal | ⟨count, rfl⟩ | rfl | ⟨position, construction, asks, building⟩
  · exact booking_of_frugal frugal ran
  · exact booking_of_reserve ran
  · cases command <;> exact .unchanged
  · obtain ⟨geometry, shaped, ended⟩ := building_of_run building
    generalize report.result = result at ended ⊢
    generalize report.state.frames = pool at ended ⊢
    cases ended with
    | built first =>
        rw [grant?_of_asks asks, lost_of_asks asks, AddressSpace.frameRun, first]
        exact .granted _
    | refused early =>
        rw [grant?_of_asks_failed asks, lost_of_asks_refused asks early]
        exact .unchanged
    | torn late loaded read =>
        rw [grant?_of_asks_failed asks, lost_of_asks_torn asks late loaded read shaped]
        exact .lost _

/-- A space lies on frames of the machine that it was built on. -/
theorem inside_of_step (ran : (step command).run platform = .ok report) {space : AddressSpace}
    (built : built? command report.result = some (position, space)) :
    ∃ geometry, platform.geometryAt position = some geometry ∧
      space.firstFrame + space.pages ≤ geometry.frames := by
  rcases asks_of_step ran with
    frugal | ⟨count, rfl⟩ | rfl | ⟨other, construction, asks, building⟩
  · cases command <;> first | exact frugal.elim | cases built
  · cases built
  · cases command <;> cases built
  · obtain ⟨geometry, shaped, ended⟩ := building_of_run building
    generalize report.result = result at ended built
    generalize report.state.frames = pool at ended
    cases ended with
    | built first inside =>
        rw [built?_of_asks asks] at built
        cases built
        exact ⟨geometry, shaped, inside⟩
    | refused | torn => cases asks <;> cases built

end Platform

end PagedKernel
