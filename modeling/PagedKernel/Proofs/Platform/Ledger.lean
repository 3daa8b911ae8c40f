import PagedKernel.Proofs.Platform.Accounts
import PagedKernel.Proofs.Platform.Effects

/-!
Contract: page tables by owner, as the requests so far made them.

Owns:
- who can have a table (`Platform.Owner`), and the tables of all owners with
  the owner whose table each machine uses (`Platform.Ledger`);
- the ledger of the turns of a run (`Platform.ledger`), which knows no handles;
- platforms whose handles stand for the owners of a ledger
  (`Platform.Ledger.Tracks`), kept by every request and so by every run.

The ledger has a table for each owner by itself, so a change to the table of one
is never a change to that of another. What has to be shown is that the handles
of the platform share its tables exactly as the ledger says.

Does not own: what follows for translations (`Platform.Coherence`).
-/

namespace PagedKernel.Platform

open PagedKernel.Action

/-! ### Ledgers -/

/-- Who has a table: the space of a slot, also after it was dropped, or a machine that got a table
of no space. -/
inductive Owner where
  | space (slot : Nat)
  | machine (position : Nat)
deriving DecidableEq

/-- The table of every owner, and the owner whose table each machine uses. -/
structure Ledger where
  tables : Owner → PageTable
  uses : Nat → Option Owner

namespace Ledger

def blank : Ledger := ⟨fun _ => .empty, fun _ => none⟩

/-- The ledger after an owner got a table. -/
def give (ledger : Ledger) (owner : Owner) (table : PageTable) : Ledger :=
  { ledger with tables := Function.update ledger.tables owner table }

/-- The ledger after the table of an owner was changed. -/
def revise (ledger : Ledger) (owner : Owner) (change : PageTable → PageTable) : Ledger :=
  ledger.give owner (change (ledger.tables owner))

/-- The ledger after a machine got another table to use, or none. -/
def assign (ledger : Ledger) (position : Nat) (owner : Option Owner) : Ledger :=
  { ledger with uses := Function.update ledger.uses position owner }

/-- The table that a machine uses. -/
def current (ledger : Ledger) (position : Nat) : Option PageTable :=
  (ledger.uses position).map ledger.tables

/-- The ledger after an access on a machine, if it was about an address. -/
def refer (ledger : Ledger) (position : Nat) (shape : Option Geometry) (address : Option UInt32) :
    Ledger :=
  match ledger.uses position, shape, address with
  | some owner, some geometry, some address => ledger.revise owner (·.referenced geometry address)
  | _, _, _ => ledger

/-- The ledger after a request that led to a platform. Only the table that a new space comes with
is looked up there. -/
def record (ledger : Ledger) : Command → Except Failure Answer → View → Ledger
  | _, .ok (.space slot space), after => ledger.give (.space slot) (after.tables.table space.table)
  | .activate host slot, .ok _, _ => ledger.assign host (some (.space slot))
  | .install host pages firstFrame _, .ok _, _ =>
      (ledger.give (.machine host) (.contiguous pages firstFrame)).assign host
        (some (.machine host))
  | .uninstall host, .ok _, _ => ledger.assign host none
  | .edit slot page change, .ok _, _ => ledger.revise (.space slot) (·.change page change)
  | .access host request, _, after => ledger.refer host (after.shape host) request.address?
  | _, _, _ => ledger

end Ledger

/-- The ledger after the turns of a run. -/
def ledger (past : Past) : Ledger :=
  past.foldl (fun ledger turn =>
    ledger.record turn.command turn.report.result turn.report.state.view) .blank

theorem ledger_snoc (past : Past) (turn : Turn Command Platform Failure Answer) :
    ledger (past ++ [turn]) =
      (ledger past).record turn.command turn.report.result turn.report.state.view := by
  rw [ledger, List.foldl_append]
  rfl

/-- A machine is told the size of the table that it gets. -/
def Command.Plain : Command → Prop
  | .install _ pages _ expected => expected = pages
  | _ => True

namespace Ledger

variable {ids : Owner → Option TableId} {ledger : Ledger} {view : View} {owner : Owner}
  {id : TableId} {position : Nat}

theorem record_of_error {command : Command} {failure : Failure} {after : View}
    (kind : ¬ command.IsAccess) : ledger.record command (.error failure) after = ledger := by
  cases command with
  | access => exact (kind trivial).elim
  | _ => rfl

theorem record_of_quiet {command : Command} {answer : Answer} {after : View}
    (quiet : command.Quiet) (done : ∀ slot space, answer ≠ .space slot space) :
    ledger.record command (.ok answer) after = ledger := by
  cases answer with
  | space slot space => exact (done slot space rfl).elim
  | _ =>
      cases command with
      | initRegisters | suspend | reserve => rfl
      | _ => exact quiet.elim

theorem record_of_access {request : Access} {result : Except Failure Answer} {after : View}
    (done : ∀ slot space, result ≠ .ok (.space slot space)) :
    ledger.record (.access position request) result after =
      ledger.refer position (after.shape position) request.address? := by
  cases result with
  | error => rfl
  | ok answer =>
      cases answer with
      | space slot space => exact (done slot space rfl).elim
      | _ => rfl

theorem refer_of_idle {shape : Option Geometry} {address : Option UInt32}
    (idle : ledger.uses position = none ∨ address = none) :
    ledger.refer position shape address = ledger := by
  rcases idle with unused | nameless
  · simp only [refer, unused]
  · subst nameless
    unfold refer
    split
    · cases ‹none = some _›
    · rfl

/-! ### Handles of owners -/

/-- A machine has the handle of the owner whose table it uses, and expects the size of that
table. -/
inductive Names (ids : Owner → Option TableId) (tables : Owner → PageTable) :
    Option Owner → Option Mapping → Prop where
  | nobody : Names ids tables none none
  | owner {owner : Owner} {id : TableId} (known : ids owner = some id) :
      Names ids tables (some owner) (some ⟨id, (tables owner).size⟩)

theorem Names.congr {tables otherTables : Owner → PageTable} {otherIds : Owner → Option TableId}
    {user : Option Owner} {mapping : Option Mapping} (names : Names ids tables user mapping)
    (same : ∀ owner, user = some owner →
      otherIds owner = ids owner ∧ (otherTables owner).size = (tables owner).size) :
    Names otherIds otherTables user mapping := by
  cases names with
  | nobody => exact .nobody
  | @owner owner _ known =>
      obtain ⟨handle, size⟩ := same owner rfl
      rw [← size]
      exact .owner (handle.trans known)

/-- Where the handle of an owner comes from after one more owner got one. -/
theorem eq_some_of_update {other : Owner} {handle : TableId}
    (found : Function.update ids owner (some id) other = some handle) :
    (other = owner ∧ handle = id) ∨ (other ≠ owner ∧ ids other = some handle) := by
  by_cases same : other = owner
  · rw [same, Function.update_self] at found
    exact Or.inl ⟨same, (Option.some.inj found).symm⟩
  · rw [Function.update_of_ne same] at found
    exact Or.inr ⟨same, found⟩

/-- The handles of a platform stand for the owners of the ledger.

Different owners have different handles, under which the platform has their tables. A space that
exists knows the handle of its slot, and the size of its table. A machine has the handle of the
owner that the ledger names; only the machine that got a table of no space uses it. -/
structure Tracks (ids : Owner → Option TableId) (ledger : Ledger) (view : View) : Prop where
  issued : ∀ owner id, ids owner = some id → view.tables.Issued id
  injective : ∀ owner other id, ids owner = some id → ids other = some id → owner = other
  table : ∀ owner id, ids owner = some id → view.tables.table id = ledger.tables owner
  vacant : ∀ slot, view.slots.size ≤ slot → ids (.space slot) = none
  space : ∀ slot space, view.space? slot = some space →
    ids (.space slot) = some space.table ∧ (ledger.tables (.space slot)).size = space.pages
  own : ∀ position other, ledger.uses position = some (.machine other) → other = position
  installed : ∀ position,
    Names ids ledger.tables (ledger.uses position) (view.installed position)

namespace Tracks

theorem blank {view : View} (empty : view.slots = #[])
    (idle : ∀ position, view.installed position = none) : Tracks (fun _ => none) .blank view where
  issued := fun _ _ => nofun
  injective := fun _ _ _ => nofun
  table := fun _ _ => nofun
  vacant := fun _ _ => rfl
  space := by
    intro slot space found
    rw [View.space?, empty] at found
    cases found
  own := fun _ _ => nofun
  installed := by
    intro position
    rw [idle position]
    exact .nobody

variable (tracks : Tracks ids ledger view)
include tracks

/-- Slots that lost spaces, or got more of them without a space. -/
theorem shrunk {slots : Array (Option AddressSpace)} (more : view.slots.size ≤ slots.size)
    (fewer : ∀ slot space, slots[slot]?.join = some space → view.space? slot = some space) :
    Tracks ids ledger { view with slots } where
  issued := tracks.issued
  injective := tracks.injective
  table := tracks.table
  vacant := fun slot past => tracks.vacant slot (Nat.le_trans more past)
  space := fun slot space found => tracks.space slot space (fewer slot space found)
  own := tracks.own
  installed := tracks.installed

/-- A change of the table of an owner, which keeps its size. -/
theorem revised (known : ids owner = some id) {change : PageTable → PageTable}
    (sized : ∀ table, (change table).size = table.size) :
    Tracks ids (ledger.revise owner change)
      { view with tables := view.tables.put id (change (view.tables.table id)) } := by
  have held := tracks.table owner id known
  have read : ∀ other, (ledger.revise owner change).tables other =
      if other = owner then change (ledger.tables owner) else ledger.tables other :=
    Function.update_apply _ _ _
  have size : ∀ other, ((ledger.revise owner change).tables other).size =
      (ledger.tables other).size := by
    intro other
    rw [read]
    by_cases same : other = owner
    · rw [if_pos same, sized, same]
    · rw [if_neg same]
  constructor
  case issued =>
    intro other handle found
    exact TableStore.issued_put.mpr (tracks.issued other handle found)
  case injective => exact tracks.injective
  case table =>
    intro other handle found
    rw [TableStore.table_put _ _ _ _ (tracks.issued owner id known), read, held]
    by_cases same : other = owner
    · subst same
      rw [if_pos rfl, if_pos (Option.some.inj (found.symm.trans known))]
    · have apart : handle ≠ id := by
        rintro rfl
        exact same (tracks.injective other owner handle found known)
      rw [if_neg apart, if_neg same, tracks.table other handle found]
  case vacant => exact tracks.vacant
  case space =>
    intro slot space found
    rw [size]
    exact tracks.space slot space found
  case own => exact tracks.own
  case installed => exact fun position => (tracks.installed position).congr fun _ _ => ⟨rfl, size _⟩

/-- A new table, for an owner whose table no machine uses. -/
theorem given {tables : TableStore} {slots : Array (Option AddressSpace)}
    (grows : view.tables.Grows tables id) (free : ∀ position, ledger.uses position ≠ some owner)
    (more : view.slots.size ≤ slots.size)
    (named : ∀ slot, owner = .space slot → slot < slots.size)
    (spaces : ∀ slot space, slots[slot]?.join = some space →
      (owner ≠ .space slot ∧ view.space? slot = some space) ∨
        (owner = .space slot ∧ space.table = id ∧ (tables.table id).size = space.pages)) :
    Tracks (Function.update ids owner (some id)) (ledger.give owner (tables.table id))
      { view with tables, slots } := by
  have ofOwner : (ledger.give owner (tables.table id)).tables owner = tables.table id :=
    Function.update_self _ _ _
  have ofOther : ∀ other, other ≠ owner →
      (ledger.give owner (tables.table id)).tables other = ledger.tables other :=
    fun other different => Function.update_of_ne different _ _
  -- The new handle is none of those in use.
  have apart : ∀ other, ids other ≠ some id :=
    fun other found => grows.fresh (tracks.issued other id found)
  constructor
  case issued =>
    intro other handle found
    rcases eq_some_of_update found with ⟨-, rfl⟩ | ⟨-, before⟩
    · exact grows.issued
    · exact (grows.kept handle (tracks.issued other handle before)).1
  case injective =>
    intro first second handle found secondFound
    rcases eq_some_of_update found with ⟨first, rfl⟩ | ⟨-, before⟩
    · rcases eq_some_of_update secondFound with ⟨second, -⟩ | ⟨-, secondBefore⟩
      · rw [first, second]
      · exact (apart _ secondBefore).elim
    · rcases eq_some_of_update secondFound with ⟨-, rfl⟩ | ⟨-, secondBefore⟩
      · exact (apart _ before).elim
      · exact tracks.injective first second handle before secondBefore
  case table =>
    intro other handle found
    rcases eq_some_of_update found with ⟨rfl, rfl⟩ | ⟨different, before⟩
    · exact ofOwner.symm
    · rw [ofOther other different, ← tracks.table other handle before]
      exact (grows.kept handle (tracks.issued other handle before)).2
  case vacant =>
    intro slot past
    have different : Owner.space slot ≠ owner :=
      fun same => Nat.lt_irrefl _ (Nat.lt_of_lt_of_le (named slot same.symm) past)
    rw [Function.update_of_ne different]
    exact tracks.vacant slot (Nat.le_trans more past)
  case space =>
    intro slot space found
    rcases spaces slot space found with ⟨different, before⟩ | ⟨rfl, rfl, size⟩
    · rw [Function.update_of_ne (Ne.symm different), ofOther _ (Ne.symm different)]
      exact tracks.space slot space before
    · rw [Function.update_self, ofOwner]
      exact ⟨rfl, size⟩
  case own => exact tracks.own
  case installed =>
    intro position
    apply (tracks.installed position).congr
    intro other used
    have different : other ≠ owner := fun same => free position (used.trans (congrArg some same))
    exact ⟨Function.update_of_ne different _ _, congrArg _ (ofOther other different)⟩

/-- A machine that gets the table of an owner to use, or is left without one. -/
theorem assigned {user : Option Owner} {mapping : Option Mapping}
    (names : Names ids ledger.tables user mapping)
    (own : ∀ other, user = some (.machine other) → other = position) :
    Tracks ids (ledger.assign position user)
      { view with installed := Function.update view.installed position mapping } := by
  constructor
  case issued => exact tracks.issued
  case injective => exact tracks.injective
  case table => exact tracks.table
  case vacant => exact tracks.vacant
  case space => exact tracks.space
  case own =>
    intro other machine used
    simp only [assign, Function.update_apply] at used
    by_cases here : other = position
    · rw [if_pos here] at used
      rw [here, own machine used]
    · rw [if_neg here] at used
      exact tracks.own other machine used
  case installed =>
    intro other
    simp only [assign, Function.update_apply]
    by_cases here : other = position
    · rw [if_pos here, if_pos here]
      exact names
    · rw [if_neg here, if_neg here]
      exact tracks.installed other

/-! ### Requests -/

theorem known_of_uses (used : ledger.uses position = some owner) : ∃ id, ids owner = some id := by
  have names := tracks.installed position
  rw [used] at names
  generalize view.installed position = mapping at names
  cases names with
  | owner known => exact ⟨_, known⟩

theorem not_uses_of_idle (idle : view.installed position = none) : ledger.uses position = none := by
  have names := tracks.installed position
  rw [idle] at names
  cases used : ledger.uses position with
  | none => rfl
  | some owner =>
      rw [used] at names
      cases names

theorem uses_of_held {mapping : Mapping} (held : view.installed position = some mapping) :
    ∃ owner, ledger.uses position = some owner ∧ ids owner = some mapping.table ∧
      mapping.pages = (ledger.tables owner).size := by
  have names := tracks.installed position
  rw [held] at names
  cases used : ledger.uses position with
  | none =>
      rw [used] at names
      cases names
  | some owner =>
      rw [used] at names
      cases names with
      | owner known => exact ⟨owner, rfl, known, rfl⟩

/-- A space that was built takes the next slot, with the table that it was built with. -/
theorem built {space : AddressSpace} {tables : TableStore}
    (grows : view.tables.Grows tables space.table)
    (size : (tables.table space.table).size = space.pages) :
    Tracks (Function.update ids (.space view.slots.size) (some space.table))
      (ledger.give (.space view.slots.size) (tables.table space.table))
      { view with tables, slots := view.slots.push (some space) } := by
  apply tracks.given grows
  case free =>
    -- No machine uses the table of a slot that did not exist.
    intro position used
    obtain ⟨id, known⟩ := tracks.known_of_uses used
    rw [tracks.vacant _ (Nat.le_refl _)] at known
    cases known
  case more =>
    rw [Array.size_push]
    exact Nat.le_succ _
  case named =>
    intro slot same
    cases same
    rw [Array.size_push]
    exact Nat.lt_succ_self _
  case spaces =>
    intro slot other found
    rcases slot_of_push found with ⟨last, new⟩ | ⟨earlier, before⟩
    · cases new
      exact Or.inr ⟨congrArg Owner.space last.symm, rfl, size⟩
    · exact Or.inl ⟨fun same => earlier (Owner.space.inj same).symm, before⟩

/-- A machine that gets a contiguous table of no space. -/
theorem installed_contiguous (position pages firstFrame : Nat) :
    Tracks (Function.update ids (.machine position) (some view.tables.nextId))
      ((ledger.give (.machine position) (.contiguous pages firstFrame)).assign position
        (some (.machine position)))
      { view with
        tables := view.tables.add (.contiguous pages firstFrame)
        installed :=
          Function.update view.installed position (some ⟨view.tables.nextId, pages⟩) } := by
  -- Before it gets the new table, the machine is left without one.
  have freed : Tracks ids (ledger.assign position none)
      { view with installed := Function.update view.installed position none } :=
    tracks.assigned .nobody (fun _ => nofun)
  have unused : ∀ other, (ledger.assign position none).uses other ≠ some (.machine position) := by
    intro other used
    have here : position = other := freed.own other position used
    have nothing : (ledger.assign position none).uses position = none := Function.update_self _ _ _
    rw [← here, nothing] at used
    cases used
  have added : (view.tables.add (.contiguous pages firstFrame)).table view.tables.nextId =
      .contiguous pages firstFrame := by
    rw [TableStore.table_add, if_pos rfl]
  have given := freed.given (view.tables.grows_add (.contiguous pages firstFrame)) unused
    (Nat.le_refl _) (fun _ => nofun) (fun slot space found => Or.inl ⟨nofun, found⟩)
  rw [added] at given
  have assigned := given.assigned (.owner (Function.update_self _ _ _))
    (fun other same => Owner.machine.inj (Option.some.inj same).symm)
  have size : (((ledger.assign position none).give (.machine position)
      (.contiguous pages firstFrame)).tables (.machine position)).size = pages := by
    show (Function.update ledger.tables (.machine position) (.contiguous pages firstFrame)
      (.machine position)).size = pages
    rw [Function.update_self, PageTable.size_contiguous]
  have same : ((ledger.assign position none).give (.machine position)
        (.contiguous pages firstFrame)).assign position (some (.machine position)) =
      (ledger.give (.machine position) (.contiguous pages firstFrame)).assign position
        (some (.machine position)) := by
    simp only [give, assign, Function.update_idem]
  rw [size, Function.update_idem, same] at assigned
  exact assigned

/-- Every request leads to a platform whose handles stand for the owners of the next ledger. -/
theorem effect {command : Command} {result : Except Failure Answer} {after : View}
    (plain : command.Plain) (effect : Effect view command result after) :
    ∃ ids, Tracks ids (ledger.record command result after) after := by
  cases effect with
  | refused kind =>
      rw [record_of_error kind]
      exact ⟨ids, tracks⟩
  | unbuilt kind =>
      rw [record_of_error kind]
      refine ⟨ids, tracks.shrunk ?_ ?_⟩
      · rw [Array.size_push]
        exact Nat.le_succ _
      · intro slot space found
        rcases slot_of_push found with ⟨-, new⟩ | ⟨-, before⟩
        · cases new
        · exact before
  | quiet quiet done =>
      rw [record_of_quiet quiet done]
      exact ⟨ids, tracks⟩
  | @built command position construction space tables asks grows size fresh =>
      have recorded : ∀ after : View, ledger.record command
          (.ok (.space view.slots.size space)) after =
            ledger.give (.space view.slots.size) (after.tables.table space.table) := by
        intro after
        cases asks <;> rfl
      rw [recorded]
      exact ⟨_, tracks.built grows size⟩
  | @activated host slot space found =>
      obtain ⟨known, size⟩ := tracks.space slot space found
      rw [← size]
      exact ⟨ids, tracks.assigned (.owner known) (fun _ => nofun)⟩
  | @installed host pages firstFrame expected =>
      have plain : expected = pages := plain
      rw [plain]
      exact ⟨_, tracks.installed_contiguous host pages firstFrame⟩
  | @uninstalled host => exact ⟨ids, tracks.assigned .nobody (fun _ => nofun)⟩
  | @edited slot page change space entry found =>
      have known := (tracks.space slot space found).1
      exact ⟨ids, tracks.revised known (fun table => table.size_change page change)⟩
  | @dropped slot =>
      refine ⟨ids, tracks.shrunk ?_ ?_⟩
      · exact Nat.le_of_eq Array.size_setIfInBounds.symm
      · exact fun other space found => slot_of_cleared found
  | @idle host request result idle done =>
      rw [record_of_access done, refer_of_idle (idle.imp_left tracks.not_uses_of_idle)]
      exact ⟨ids, tracks⟩
  | @accessed host request address mapping geometry result shaped held named done =>
      rw [record_of_access done]
      obtain ⟨owner, used, known, -⟩ := tracks.uses_of_held held
      have referred : ledger.refer host (view.shape host) request.address? =
          ledger.revise owner (·.referenced geometry address) := by
        simp only [refer, used, shaped, named]
      have sized : ∀ table : PageTable, (table.referenced geometry address).size = table.size :=
        fun table => table.size_referenced geometry address
      refine ⟨ids, ?_⟩
      rw [referred]
      exact tracks.revised known sized

end Tracks

end Ledger

end PagedKernel.Platform
