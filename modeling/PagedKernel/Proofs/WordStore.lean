import PagedKernel.Proofs.Resolution

/-!
Contract: memory behind an installed table, as a store of words.

Owns:
- requests to read and to write words, with edits of the installed table
  between them (`WordRequest`);
- the physical word of an address, and the value that a run of requests wrote
  there last (`Kernel.lastWritten?`);
- every way in which a request is served (`Kernel.Served`);
- the laws of reads and writes at every point of every run of requests
  (`Kernel.StoresWords`).

Entries are arbitrary: several pages may lie on one frame, so the laws speak of
physical words, and of addresses only through their translation.

Does not own: tables that only one space can reach (`Access`).
-/

namespace PagedKernel

open PagedKernel.Action

/-! ### Requests -/

/-- The table with every entry edited in any way; its size stays. -/
def PageTable.rewrite (table : PageTable) (change : Nat → Entry → Entry) : PageTable :=
  ⟨table.entries.mapIdx change⟩

@[simp] theorem PageTable.size_rewrite (table : PageTable) (change : Nat → Entry → Entry) :
    (table.rewrite change).size = table.size := by
  simp [rewrite, size]

theorem PageTable.lookup_rewrite (table : PageTable) (change : Nat → Entry → Entry) (page : Nat) :
    (table.rewrite change).lookup page = (table.lookup page).map (change page) := by
  simp [rewrite, lookup]

/-- A change of a single entry is an edit of this kind. -/
theorem PageTable.change_eq_rewrite (table : PageTable) (page : Nat) (edit : Entry.Change) :
    table.change page edit =
      table.rewrite fun other entry => if page = other then entry.change edit else entry := by
  refine congrArg PageTable.mk (Array.ext_getElem? fun position => ?_)
  show (table.change page edit).lookup position = (table.rewrite _).lookup position
  rw [lookup_change, lookup_rewrite]
  by_cases here : page = position
  · simp only [if_pos here]
  · simp only [if_neg here, Option.map_id']

/-- What happens to the memory behind an installed table. -/
inductive WordRequest where
  | read (address : UInt32)
  | write (address value : UInt32)
  | edit (change : Nat → Entry → Entry)

def WordRequest.IsEdit : WordRequest → Prop
  | .edit _ => True
  | _ => False

namespace Kernel

variable {geometry : Geometry} {kernel state : Kernel geometry} {mapping : Mapping}
  {address other : UInt32}

/-- Reads or writes through the installed table, or edits the table of the mapping. -/
def serve (mapping : Mapping) :
    WordRequest → Action (Kernel geometry) Exception Access.Answer
  | .read address => access (.readWord address)
  | .write address value => access (.writeWord address value)
  | .edit change => do
      onTable mapping.table (update (·.rewrite change))
      return .done

/-! ### Physical words -/

/-- The physical address that a translation answers, if it does not fault. -/
def physical? (kernel : Kernel geometry) (address : UInt32) : Option Nat :=
  match (translate address).result kernel with
  | .ok (.ok physical) => some physical
  | _ => none

/-- Both addresses translate, and to the same physical word. -/
def SameWord (kernel : Kernel geometry) (address other : UInt32) : Prop :=
  (kernel.physical? address).isSome ∧ kernel.physical? address = kernel.physical? other

instance (kernel : Kernel geometry) (address other : UInt32) :
    Decidable (kernel.SameWord address other) :=
  inferInstanceAs (Decidable (_ ∧ _))

/-- The value that a request writes to the word of an address. -/
def writtenBy? (kernel : Kernel geometry) (address : UInt32) : WordRequest → Option UInt32
  | .write other value => if kernel.SameWord other address then some value else none
  | _ => none

/-- The value that was written last to the word of an address, if the requests write it at all. -/
def lastWritten? (kernel : Kernel geometry) (address : UInt32) (requests : List WordRequest) :
    Option UInt32 :=
  requests.reverse.findSome? (kernel.writtenBy? address)

/-- A write to a physical word writes it for every address that has this word. -/
theorem writtenBy?_write {value : UInt32} {physical : Nat}
    (place : kernel.physical? address = some physical) :
    kernel.writtenBy? other (.write address value) =
      if kernel.physical? other = some physical then some value else none := by
  have same : kernel.SameWord address other ↔ kernel.physical? other = some physical := by
    rw [SameWord, place]
    exact ⟨fun shared => shared.2.symm, fun shared => ⟨rfl, shared.symm⟩⟩
  simp only [writtenBy?, same]

theorem lastWritten?_snoc (kernel : Kernel geometry) (address : UInt32)
    (requests : List WordRequest) (request : WordRequest) :
    kernel.lastWritten? address (requests ++ [request]) =
      (kernel.writtenBy? address request).or (kernel.lastWritten? address requests) := by
  rw [lastWritten?, List.reverse_append, List.reverse_singleton, List.singleton_append,
    List.findSome?_cons]
  cases kernel.writtenBy? address request <;> rfl

section Congr

variable {before after : Kernel geometry}
  (same : ∀ address, after.physical? address = before.physical? address)
include same

theorem sameWord_congr : after.SameWord other address ↔ before.SameWord other address := by
  simp only [SameWord, same]

/-- Which words requests write depends on the translation of addresses alone. -/
theorem writtenBy?_congr (address : UInt32) (request : WordRequest) :
    after.writtenBy? address request = before.writtenBy? address request := by
  cases request with
  | read | edit => rfl
  | write => simp only [writtenBy?, sameWord_congr same]

end Congr

/-! ### How requests are served -/

/-- The kernel after an edit of the table of a handle. -/
def edited (kernel : Kernel geometry) (id : TableId) (change : Nat → Entry → Entry) :
    Kernel geometry :=
  { kernel with tables := kernel.tables.put id ((kernel.tables.table id).rewrite change) }

/-- The change of a single entry through a handle is an edit of this kind. -/
theorem run_editTable (id : TableId) (page : Nat) (edit : Entry.Change) :
    ((editTable id page edit : Action (Kernel geometry) Exception _).run kernel).map (·.state) =
      .ok (kernel.edited id fun other entry =>
        if page = other then entry.change edit else entry) := by
  rw [edited, ← PageTable.change_eq_rewrite]
  rfl

/-- The ways in which a request can end. -/
inductive Served (kernel : Kernel geometry) (mapping : Mapping) :
    WordRequest → Except Exception Access.Answer → Kernel geometry → Prop where
  | readFault {address : UInt32} {exception : Exception}
      (faulted : (kernel.tables.table mapping.table).resolve geometry address =
        .error exception) :
      Served kernel mapping (.read address) (.error exception) kernel
  | writeFault {address value : UInt32} {exception : Exception}
      (faulted : (kernel.tables.table mapping.table).resolve geometry address =
        .error exception) :
      Served kernel mapping (.write address value) (.error exception) kernel
  | read {address value : UInt32} {physical : Nat}
      (resolved : (kernel.tables.table mapping.table).resolve geometry address = .ok physical)
      (held : kernel.machine.memory.word? physical = some value) :
      Served kernel mapping (.read address) (.ok (.word value))
        (kernel.referenced mapping.table address)
  | written {address value : UInt32} {physical : Nat}
      (resolved : (kernel.tables.table mapping.table).resolve geometry address = .ok physical) :
      Served kernel mapping (.write address value) (.ok .done)
        (kernel.storedAt mapping.table address physical value)
  | edited {change : Nat → Entry → Entry} :
      Served kernel mapping (.edit change) (.ok .done) (kernel.edited mapping.table change)

namespace Through

variable (through : kernel.Through mapping)
include through

/-- Every request is served. -/
theorem run_serve (request : WordRequest) :
    ∃ result after events, (serve mapping request).run kernel = .ok ⟨result, after, events⟩ ∧
      Served kernel mapping request result after := by
  cases request with
  | read address =>
      cases resolved : (kernel.tables.table mapping.table).resolve geometry address with
      | error exception =>
          have named : (Access.readWord address).address? = some address := rfl
          obtain ⟨events, ran⟩ := through.run_access_of_fault named resolved
          exact ⟨_, _, events, ran, .readFault resolved⟩
      | ok physical =>
          obtain ⟨value, events, held, ran⟩ := through.run_readWord_of_resolve resolved
          refine ⟨.ok (.word value), _, events, ?_, .read resolved held⟩
          rw [serve, access, run_map, ran]
          rfl
  | write address value =>
      cases resolved : (kernel.tables.table mapping.table).resolve geometry address with
      | error exception =>
          have named : (Access.writeWord address value).address? = some address := rfl
          obtain ⟨events, ran⟩ := through.run_access_of_fault named resolved
          exact ⟨_, _, events, ran, .writeFault resolved⟩
      | ok physical =>
          obtain ⟨events, ran⟩ := through.run_writeWord_of_resolve resolved value
          refine ⟨.ok .done, _, events, ?_, .written resolved⟩
          rw [serve, access, run_map, ran]
          rfl
  | edit change => exact ⟨.ok .done, _, [], rfl, .edited⟩

theorem served_of_run {request : WordRequest}
    {report : Report (Kernel geometry) Exception Access.Answer}
    (ran : (serve mapping request).run kernel = .ok report) :
    Served kernel mapping request report.result report.state := by
  obtain ⟨result, after, events, course, served⟩ := through.run_serve request
  rw [course] at ran
  cases ran
  exact served

theorem served {request : WordRequest} {result : Except Exception Access.Answer}
    {after : Kernel geometry} (served : Served kernel mapping request result after) :
    after.Through mapping := by
  have issued : ∀ table, (kernel.tables.put mapping.table table).Issued mapping.table :=
    fun _ => TableStore.issued_put.mpr through.issued
  have replaced : ∀ table, (kernel.tables.put mapping.table table).table mapping.table = table := by
    intro table
    rw [TableStore.table_put _ _ _ _ through.issued, if_pos rfl]
  have used : ∀ address, (kernel.referenced mapping.table address).Through mapping := by
    intro address
    refine ⟨through.installed, issued _, ?_⟩
    rw [← through.size]
    exact (congrArg PageTable.size (replaced _)).trans (PageTable.size_referenced _ _ _)
  cases served with
  | readFault | writeFault => exact through
  | @read address => exact used address
  | @written address value physical =>
      constructor
      case installed => rw [installed_storedAt, through.installed]
      case issued =>
        rw [tables_storedAt]
        exact (used address).issued
      case size =>
        rw [tables_storedAt]
        exact (used address).size
  | edited =>
      refine ⟨through.installed, issued _, ?_⟩
      rw [← through.size]
      exact (congrArg PageTable.size (replaced _)).trans (PageTable.size_rewrite _ _)

/-- Runs keep the size of the table, since no request changes it. -/
theorem course {past : List (Turn WordRequest (Kernel geometry) Exception Access.Answer)}
    (course : Course (serve mapping) kernel past state) : state.Through mapping := by
  induction course with
  | nil => exact through
  | snoc _ ran inductionHypothesis =>
      exact inductionHypothesis.served (inductionHypothesis.served_of_run ran)

/-! ### Translation and reading -/

theorem physical?_eq (address : UInt32) :
    kernel.physical? address =
      ((kernel.tables.table mapping.table).resolve geometry address).toOption := by
  rw [physical?, through.result_translate]
  cases (kernel.tables.table mapping.table).resolve geometry address <;> rfl

theorem physical?_eq_some_iff {physical : Nat} :
    kernel.physical? address = some physical ↔
      (kernel.tables.table mapping.table).resolve geometry address = .ok physical := by
  rw [through.physical?_eq]
  cases (kernel.tables.table mapping.table).resolve geometry address <;> simp [Except.toOption]

/-- A read gives the word at the physical address, or the exception of the translation. -/
theorem result_readWord (address : UInt32) :
    (readWord address).result kernel =
      .ok (((kernel.tables.table mapping.table).resolve geometry address).map fun physical =>
        (kernel.machine.memory.word? physical).getD 0) := by
  cases resolved : (kernel.tables.table mapping.table).resolve geometry address with
  | error exception =>
      obtain ⟨events, ran⟩ := through.run_translate address
      rw [resolved] at ran
      rw [result, readWord, run_bind_of_failure ran]
      rfl
  | ok physical =>
      obtain ⟨value, events, held, ran⟩ := through.run_readWord_of_resolve resolved
      rw [result, ran]
      simp [held, Except.map]

/-- A request that edits nothing moves no address. -/
theorem resolve_served {request : WordRequest} {result : Except Exception Access.Answer}
    {after : Kernel geometry} (served : Served kernel mapping request result after)
    (kept : ¬ request.IsEdit) (address : UInt32) :
    (after.tables.table mapping.table).resolve geometry address =
      (kernel.tables.table mapping.table).resolve geometry address := by
  cases served with
  | readFault | writeFault => rfl
  | @read other | @written other =>
      show ((kernel.tables.put mapping.table
        ((kernel.tables.table mapping.table).referenced geometry other)).table
          mapping.table).resolve geometry address = _
      rw [TableStore.table_put _ _ _ _ through.issued, if_pos rfl]
      exact PageTable.resolve_referenced _
  | edited => exact (kept trivial).elim

theorem physical?_served {request : WordRequest} {result : Except Exception Access.Answer}
    {after : Kernel geometry} (served : Served kernel mapping request result after)
    (kept : ¬ request.IsEdit) (address : UInt32) :
    after.physical? address = kernel.physical? address := by
  rw [(through.served served).physical?_eq, through.physical?_eq,
    through.resolve_served served kept]

/-- After a request that edits nothing an address reads as the value that the request wrote to its
word, and otherwise as before. -/
theorem result_readWord_served {request : WordRequest}
    {result : Except Exception Access.Answer} {after : Kernel geometry}
    (served : Served kernel mapping request result after) (kept : ¬ request.IsEdit)
    (address : UInt32) :
    (readWord address).result after =
      match kernel.writtenBy? address request with
      | some value => .ok (.ok value)
      | none => (readWord address).result kernel := by
  have moved := through.resolve_served served kept address
  rw [(through.served served).result_readWord, moved, through.result_readWord]
  cases served with
  | readFault | read => rfl
  | @writeFault other value exception faulted =>
      have apart : ¬ kernel.SameWord other address := by
        rintro ⟨translated, -⟩
        rw [through.physical?_eq, faulted] at translated
        cases translated
      rw [writtenBy?, if_neg apart]
  | @written other value physical resolved =>
      have place := through.physical?_eq_some_iff.mpr resolved
      have valid := kernel.machine.usable.valid
      have room := (PageTable.word_of_resolve valid resolved).2
      rw [writtenBy?_write place]
      cases target : (kernel.tables.table mapping.table).resolve geometry address with
      | error exception =>
          have nowhere : kernel.physical? address ≠ some physical := by
            rw [through.physical?_eq, target]
            exact nofun
          simp only [if_neg nowhere, Except.map]
      | ok position =>
          rw [through.physical?_eq_some_iff.mpr target]
          by_cases same : position = physical
          · subst same
            simp only [memory_storedAt, Except.map, Memory.word?_storeWord_self _ _ room,
              Option.getD_some, if_true]
          · have words := PageTable.apart_of_resolve valid target resolved
            have kept := Memory.word?_storeWord_apart kernel.machine.memory value
              (words.resolve_left same)
            simp only [memory_storedAt, Except.map, kept, Option.some.injEq, same, if_false]
  | edited => exact (kept trivial).elim

end Through

/-! ### The laws -/

/-- The laws of words at a state.

A request that raises an exception changes nothing. A read leaves the machine as it was. A write
changes the bytes of one word of memory, and whatever other address reads that word then reads the
new value; the others read what they read before. As long as no entry is edited, every address keeps
its physical word, and reads the value written there last. Two physical words, translated with any
requests in between, are the same or have no common byte. The edits include every change of a single
entry through the handle of the table. -/
structure StoresWords (mapping : Mapping) (state : Kernel geometry) : Prop where
  faulted : ∀ request report exception, (serve mapping request).run state = .ok report →
    report.result = .error exception → report.state = state
  read : ∀ address value report, (serve mapping (.read address)).run state = .ok report →
    report.result = .ok (.word value) →
      report.state.machine = state.machine ∧ ∃ physical,
        state.physical? address = some physical ∧
          state.machine.memory.word? physical = some value
  written : ∀ address value report,
    (serve mapping (.write address value)).run state = .ok report → report.result = .ok .done →
      ∃ physical, state.physical? address = some physical ∧
        report.state.machine.registers = state.machine.registers ∧
        report.state.machine.memory.slice physical Word.size = Word.bytes value ∧
        (∀ position, position < physical ∨ physical + Word.size ≤ position →
          report.state.machine.memory[position]? = state.machine.memory[position]?) ∧
        ∀ other, (readWord other).result report.state =
          if state.physical? other = some physical then .ok (.ok value)
          else (readWord other).result state
  recalled : ∀ later final, Course (serve mapping) state later final →
    (∀ request ∈ later.map (·.command), ¬ request.IsEdit) → ∀ address,
      final.physical? address = state.physical? address ∧
        (readWord address).result final =
          match state.lastWritten? address (later.map (·.command)) with
          | some value => .ok (.ok value)
          | none => (readWord address).result state
  apart : ∀ later final, Course (serve mapping) state later final → ∀ address other first second,
    state.physical? address = some first → final.physical? other = some second →
      first = second ∨ first + Word.size ≤ second ∨ second + Word.size ≤ first
  edits : ∀ page (edit : Entry.Change), ∃ change,
    ((serve mapping (.edit change)).run state).map (·.state) =
      ((editTable mapping.table page edit : Action (Kernel geometry) Exception _).run state).map
        (·.state)

namespace Through

variable (through : state.Through mapping)
include through

theorem written {address value : UInt32}
    {report : Report (Kernel geometry) Exception Access.Answer}
    (ran : (serve mapping (.write address value)).run state = .ok report)
    (done : report.result = .ok .done) :
    ∃ physical, state.physical? address = some physical ∧
      report.state = state.storedAt mapping.table address physical value := by
  have served := through.served_of_run ran
  generalize report.result = result at done served
  generalize report.state = after at served
  cases served with
  | writeFault => cases done
  | written resolved => exact ⟨_, through.physical?_eq_some_iff.mpr resolved, rfl⟩

/-- Requests that edit nothing leave every address its word, with the value written there last. -/
theorem recalled {later : List (Turn WordRequest (Kernel geometry) Exception Access.Answer)}
    {final : Kernel geometry} (course : Course (serve mapping) state later final)
    (kept : ∀ request ∈ later.map (·.command), ¬ request.IsEdit) :
    ∀ address, final.physical? address = state.physical? address ∧
      (readWord address).result final =
        match state.lastWritten? address (later.map (·.command)) with
        | some value => .ok (.ok value)
        | none => (readWord address).result state := by
  induction course with
  | nil => exact fun _ => ⟨rfl, rfl⟩
  | @snoc past reached request report earlier ran inductionHypothesis =>
      rw [List.map_append, List.forall_mem_append] at kept
      have unedited : ¬ request.IsEdit := kept.2 request List.mem_cons_self
      have before := inductionHypothesis kept.1
      have reachedThrough := through.course earlier
      have served := reachedThrough.served_of_run ran
      intro address
      constructor
      · rw [reachedThrough.physical?_served served unedited, (before address).1]
      · rw [reachedThrough.result_readWord_served served unedited, (before address).2,
          writtenBy?_congr (fun other => (before other).1), List.map_append, List.map_singleton,
          lastWritten?_snoc]
        cases state.writtenBy? address request <;> rfl

theorem storesWords : state.StoresWords mapping where
  faulted := by
    intro request report exception ran failed
    have served := through.served_of_run ran
    generalize report.result = result at failed served
    generalize report.state = after at served ⊢
    cases served with
    | readFault | writeFault => rfl
    | read | written | edited => cases failed
  read := by
    intro address value report ran answered
    have served := through.served_of_run ran
    generalize report.result = result at answered served
    generalize report.state = after at served ⊢
    cases served with
    | readFault => cases answered
    | read resolved held =>
        cases answered
        exact ⟨rfl, _, through.physical?_eq_some_iff.mpr resolved, held⟩
  written := by
    intro address value report ran done
    obtain ⟨physical, place, stored⟩ := through.written ran done
    have resolved := through.physical?_eq_some_iff.mp place
    have room := (PageTable.word_of_resolve state.machine.usable.valid resolved).2
    refine ⟨physical, place, ?_, ?_, ?_, ?_⟩
    · rw [stored, registers_storedAt]
    · rw [stored, memory_storedAt]
      exact Memory.slice_storeWord _ value room
    · intro position outside
      rw [stored, memory_storedAt]
      exact Memory.getElem?_storeWord_outside _ outside
    · intro other
      rw [through.result_readWord_served (through.served_of_run ran) id,
        writtenBy?_write place]
      by_cases same : state.physical? other = some physical
      · rw [if_pos same, if_pos same]
      · rw [if_neg same, if_neg same]
  recalled := fun _ _ course kept => through.recalled course kept
  apart := by
    intro later final course address other first second place otherPlace
    rw [through.physical?_eq_some_iff] at place
    rw [(through.course course).physical?_eq_some_iff] at otherPlace
    exact PageTable.apart_of_resolve state.machine.usable.valid place otherPlace
  edits := fun page edit => ⟨_, (run_editTable mapping.table page edit).symm⟩

end Through

/-- Memory behind an installed table of the expected size, whatever its entries, is a store of
words: every run of requests comes to its end, and the laws of words hold at each of its states. -/
theorem course_storesWords {initial : Kernel geometry} (through : initial.Through mapping) :
    (∀ requests, ∃ past final, Course (serve mapping) initial past final ∧
      past.map (·.command) = requests) ∧
    ∀ past state, Course (serve mapping) initial past state → state.StoresWords mapping := by
  constructor
  · intro requests
    have returns : ∀ (state : Kernel geometry) request, state.Through mapping → True →
        (serve mapping request).Returns state := by
      intro state request through _
      obtain ⟨result, after, events, ran, -⟩ := through.run_serve request
      exact ⟨_, ran⟩
    exact Course.exists_of_returns returns
      (fun _ _ _ through ran => through.served (through.served_of_run ran)) through
      (fun _ _ => trivial)
  · exact fun _ _ course => (through.course course).storesWords

/-- A kernel whose first two pages lie on one frame. The third is not valid, and the frame of the
fourth does not exist. -/
def sharedFrame : Kernel { pageSize := 4, frames := 2, stackSize := 0 } where
  machine := { usable := ⟨by decide, by decide⟩, installed := some ⟨⟨0⟩, 4⟩ }
  frames := ⟨2, 2⟩
  tables := ⟨#[⟨#[⟨0, 1, { valid := true }⟩, ⟨1, 1, { valid := true, readOnly := true }⟩,
    ⟨2, 0, {}⟩, ⟨3, 7, { valid := true }⟩]⟩]⟩

/-- What is written through one page is read through the other, also after writes that fault. -/
theorem course_storesWords_sharedFrame :
    ∃ past final, Course (serve ⟨⟨0⟩, 4⟩) sharedFrame past final ∧
      past.map (·.command) = [.write 0 5, .read 4, .write 8 6, .write 12 7, .write 1 8] ∧
      final.StoresWords ⟨⟨0⟩, 4⟩ ∧ (readWord 4).result final = .ok (.ok 5) := by
  have through : sharedFrame.Through ⟨⟨0⟩, 4⟩ := by
    constructor
    case installed => rfl
    case issued => show 0 < 1; decide
    case size => decide +kernel
  obtain ⟨returns, laws⟩ := course_storesWords through
  obtain ⟨past, final, course, taken⟩ :=
    returns [.write 0 5, .read 4, .write 8 6, .write 12 7, .write 1 8]
  refine ⟨past, final, course, taken, laws past final course, ?_⟩
  have kept : ∀ request ∈ past.map (·.command), ¬ request.IsEdit := by
    rw [taken]
    simp [WordRequest.IsEdit]
  have last : sharedFrame.lastWritten? 4 (past.map (·.command)) = some 5 := by
    rw [taken]
    decide +kernel
  rw [((laws [] sharedFrame .nil).recalled past final course kept 4).2, last]

end Kernel

end PagedKernel
