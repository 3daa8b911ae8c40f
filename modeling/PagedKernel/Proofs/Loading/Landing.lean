import PagedKernel.Proofs.Addressing
import PagedKernel.Proofs.Placement

/-!
Contract: copying of one segment under any table into memory of any length.

Owns:
- the segments whose start is translated (`Segment.Located`);
- how a copy ends and what it leaves, by its six cases (`Segment.Landing`);
- the bytes that it wrote (`Segment.Written`), and what it owes to memory, to
  the table and to its report (`Segment.Copies`);
- the addresses of a segment whose pages lie on consecutive frames.

Entries may be of any kind, files may return less than was asked for, and memory
may be shorter or longer than the geometry says.

Does not own: tables of a space, whose frames are a run (`Placement`).
-/

namespace PagedKernel.Segment

open PagedKernel.Action

variable {size physical : Nat} {segment : Segment} {kind : SegmentKind} {file : File}
  {geometry : Geometry} {table : PageTable} {target : Target size}

/-! ### The cases of a copy -/

/-- The start of the segment is translated: there is something to copy, the pages of the table reach
to its end, and its first address has a place. -/
structure Located (segment : Segment) (geometry : Geometry) (table : PageTable)
    (physical : Nat) : Prop where
  nonempty : segment.size ≠ 0
  inside : segment.past ≤ table.size * geometry.pageSize
  resolved : table.resolve geometry segment.address = .ok physical

/-- The target with the start of the segment marked, and with what the file yields of it. -/
def landed (segment : Segment) (file : File) (geometry : Geometry) (physical : Nat)
    (target : Target size) : Target size where
  table := target.table.referenced geometry segment.address
  memory := target.memory.store physical (segment.content file)

/-- How the copy of a segment ends, and the target that it leaves. -/
inductive Landing (segment : Segment) (kind : SegmentKind) (file : File) (geometry : Geometry)
    (target : Target size) : Except ImageError Unit → Target size → Prop where
  | empty (empty : segment.size = 0) : Landing segment kind file geometry target (.ok ()) target
  | beyond (nonempty : segment.size ≠ 0)
      (beyond : target.table.size * geometry.pageSize < segment.past) :
      Landing segment kind file geometry target (.error (.segmentOutOfRange kind)) target
  | faulted {exception : Exception} (nonempty : segment.size ≠ 0)
      (inside : segment.past ≤ target.table.size * geometry.pageSize)
      (faulted : target.table.resolve geometry segment.address = .error exception) :
      Landing segment kind file geometry target (.error (.segmentFault kind exception)) target
  | overrun {physical : Nat} (located : segment.Located geometry target.table physical)
      (overrun : size < physical + segment.size.toNat) :
      Landing segment kind file geometry target (.error (.segmentOutOfRange kind))
        { target with table := target.table.referenced geometry segment.address }
  | truncated {physical : Nat} (located : segment.Located geometry target.table physical)
      (room : physical + segment.size.toNat ≤ size)
      (short : (segment.content file).length ≠ segment.size.toNat) :
      Landing segment kind file geometry target
        (.error (.truncatedSegment kind segment.size.toNat (segment.content file).length))
        (segment.landed file geometry physical target)
  | whole {physical : Nat} (located : segment.Located geometry target.table physical)
      (room : physical + segment.size.toNat ≤ size)
      (whole : (segment.content file).length = segment.size.toNat) :
      Landing segment kind file geometry target (.ok ())
        (segment.landed file geometry physical target)

/-- Behind the first translated byte there is always a machine size for the last. -/
theorem Located.past_lt_limit (located : segment.Located geometry table physical)
    (valid : geometry.Valid) (room : geometry.bytes + UInt32.size ≤ Size.limit) :
    physical + segment.size.toNat < Size.limit := by
  have held := (PageTable.word_of_resolve valid located.resolved).2
  have small := segment.size.toNat_lt_size
  simp only [Word.size] at held
  omega

theorem run_locateStart (kind : SegmentKind) (valid : geometry.Valid)
    (bounded : geometry.bytes < Size.limit) (segment : Segment) (target : Target size) :
    ∃ events, (segment.locateStart kind geometry).run target =
      .ok ⟨(target.table.resolve geometry segment.address).mapError (.segmentFault kind),
        { target with table := target.table.referenced geometry segment.address }, events⟩ := by
  obtain ⟨events, ran⟩ :=
    PageTable.run_translate_of_valid valid bounded target.table segment.address
  refine ⟨events, ?_⟩
  simp only [locateStart, run_within, run_mapError, ran, Except.map]

/-- Bytes that memory does not have are not written. -/
theorem run_fill_of_overrun (overrun : size < physical + segment.size.toNat)
    (bounded : physical + segment.size.toNat < Size.limit) :
    (segment.fill kind file physical).run target =
      .ok ⟨.error (.segmentOutOfRange kind), target, []⟩ := by
  unfold fill
  simp only [Size.add_of_lt bounded]
  rw [run_bind_of_ok (run_check_ok _ target), ensure_of_not (Nat.not_le.mpr overrun),
    run_bind_of_failure (run_fail _ target), map_after_nil]

/-- A copy always comes to an end. -/
theorem exists_landing (segment : Segment) (kind : SegmentKind) (file : File)
    (target : Target size) (valid : geometry.Valid)
    (room : geometry.bytes + UInt32.size ≤ Size.limit)
    (sized : target.table.size * geometry.pageSize < Size.limit) :
    ∃ report, (segment.place kind file geometry).run target = .ok report ∧
      Landing segment kind file geometry target report.result report.state := by
  by_cases empty : segment.size = 0
  · refine ⟨⟨.ok (), target, []⟩, ?_, .empty empty⟩
    simp [place, empty]
  rw [run_place_of_nonempty sized empty]
  by_cases inside : segment.past ≤ target.table.size * geometry.pageSize
  · rw [ensure_of inside, pure_bind]
    have bounded : geometry.bytes < Size.limit := by
      have some : 0 < UInt32.size := by decide
      omega
    obtain ⟨events, ran⟩ := run_locateStart kind valid bounded segment target
    cases resolved : target.table.resolve geometry segment.address with
    | error exception =>
        rw [resolved] at ran
        rw [run_bind_of_failure ran, PageTable.referenced_of_fault resolved]
        exact ⟨_, rfl, .faulted empty inside resolved⟩
    | ok physical =>
        have located : segment.Located geometry target.table physical := ⟨empty, inside, resolved⟩
        rw [resolved] at ran
        rw [run_bind_of_ok ran, run_bind_of_ok (run_emit _ _)]
        have past := located.past_lt_limit valid room
        by_cases held : physical + segment.size.toNat ≤ size
        · rw [run_fill held past]
          by_cases whole : (segment.content file).length = segment.size.toNat
          · rw [if_pos whole]
            exact ⟨_, rfl, .whole located held whole⟩
          · rw [if_neg whole]
            exact ⟨_, rfl, .truncated located held whole⟩
        · rw [run_fill_of_overrun (Nat.lt_of_not_le held) past]
          exact ⟨_, rfl, .overrun located (Nat.lt_of_not_le held)⟩
  · rw [ensure_of_not inside, run_bind_of_failure (run_fail _ target)]
    exact ⟨_, rfl, .beyond empty (Nat.lt_of_not_le inside)⟩

/-! ### The bytes of a copy -/

/-- The first `count` bytes of the segment stand in memory as they do in the file, and all other
bytes are as they were. -/
structure Written (segment : Segment) (file : File) (physical count : Nat)
    (before after : Memory size) : Prop where
  copied : ∀ index < count, ∃ value, file.contents[segment.offset.toNat + index]? = some value ∧
    after[physical + index]? = some value
  kept : ∀ index, index < physical ∨ physical + count ≤ index → after[index]? = before[index]?

theorem written_store (file : File) (memory : Memory size)
    (room : physical + segment.size.toNat ≤ size) :
    segment.Written file physical (segment.content file).length memory
      (memory.store physical (segment.content file)) where
  copied := by
    intro index read
    have some := segment.length_content_le file
    refine ⟨(segment.content file)[index], ?_, ?_⟩
    · rw [← getElem?_content read, List.getElem?_eq_getElem read]
    · rw [Memory.getElem?_store_inside memory physical read (by omega),
        List.getElem?_eq_getElem read]
  kept := fun _ outside => Memory.getElem?_store_outside memory outside

/-! ### Pages on consecutive frames -/

/-- Each page of the segment but the last has its frame right before that of the next page. -/
def Consecutive (segment : Segment) (geometry : Geometry) (table : PageTable) : Prop :=
  ∀ page, segment.address.toNat / geometry.pageSize ≤ page →
    page < (segment.past - 1) / geometry.pageSize → ∀ entry next,
      table.lookup page = some entry → table.lookup (page + 1) = some next →
        next.frame = entry.frame + 1

/-- Every address of a located segment has a page. -/
theorem Located.exists_entry (located : segment.Located geometry table physical)
    {page : Nat} (inside : page ≤ (segment.past - 1) / geometry.pageSize) :
    ∃ entry, table.lookup page = some entry := by
  have some := size_pos located.nonempty
  have within : (segment.past - 1) / geometry.pageSize < table.size := by
    apply Nat.div_lt_of_lt_mul
    have reached := located.inside
    rw [Nat.mul_comm]
    simp only [past] at *
    omega
  cases found : table.lookup page with
  | none =>
      have missing := PageTable.lookup_eq_none_iff.mp found
      omega
  | some entry => exact ⟨entry, rfl⟩

/-- Consecutive frames are counted from that of the first page. -/
theorem Located.frame_eq (located : segment.Located geometry table physical)
    (consecutive : segment.Consecutive geometry table) {first entry : Entry} {pages : Nat}
    (start : table.lookup (segment.address.toNat / geometry.pageSize) = some first)
    (inside : segment.address.toNat / geometry.pageSize + pages ≤
      (segment.past - 1) / geometry.pageSize)
    (found : table.lookup (segment.address.toNat / geometry.pageSize + pages) = some entry) :
    entry.frame = first.frame + pages := by
  induction pages generalizing entry with
  | zero =>
      cases start.symm.trans found
      rfl
  | succ pages inductionHypothesis =>
      obtain ⟨previous, before⟩ := located.exists_entry (Nat.le_of_succ_le inside)
      rw [consecutive _ (Nat.le_add_right _ _) inside previous entry before found,
        inductionHypothesis (Nat.le_of_succ_le inside) before, Nat.add_assoc]

/-- On consecutive frames an address of the segment lies as far from the start of the copy as from
the start of the segment. -/
theorem Located.exists_place (located : segment.Located geometry table physical)
    (valid : geometry.Valid) (consecutive : segment.Consecutive geometry table) {address : Nat}
    (first : segment.address.toNat ≤ address) (inside : address < segment.past) :
    ∃ entry, table.lookup (address / geometry.pageSize) = some entry ∧
      entry.frame * geometry.pageSize + address % geometry.pageSize =
        physical + (address - segment.address.toNat) := by
  have later : segment.address.toNat / geometry.pageSize ≤ address / geometry.pageSize :=
    Nat.div_le_div_right first
  have covered : address / geometry.pageSize ≤ (segment.past - 1) / geometry.pageSize :=
    Nat.div_le_div_right (by omega)
  obtain ⟨pages, split⟩ := Nat.exists_eq_add_of_le later
  obtain ⟨entry, found⟩ := located.exists_entry covered
  obtain ⟨-, start, begins, -, -, rfl⟩ :=
    ((PageTable.translates_resolve valid table segment.address).answered _).mp located.resolved
  refine ⟨entry, found, ?_⟩
  rw [split] at found covered
  rw [located.frame_eq consecutive begins covered found]
  have whole := Nat.div_add_mod' address geometry.pageSize
  have startWhole := Nat.div_add_mod' segment.address.toNat geometry.pageSize
  rw [split, Nat.add_mul] at whole
  rw [Nat.add_mul]
  omega

/-! ### What a copy owes -/

/-- A copy of the segment gave the result and left the target `after`.

A segment of no bytes leaves everything alone. A refusal of its range or a fault of its start leaves
memory alone. A file that ends early is reported with the numbers of bytes that were to be read and
that were, and so many of the segment are in memory; otherwise all of them are. No byte is written
outside the room of the segment behind its translated start, and what is left of the translation is
the mark of one page. If the pages of the segment lie on consecutive frames, each of its bytes is
where the table maps the address. -/
structure Copies (segment : Segment) (kind : SegmentKind) (file : File) (geometry : Geometry)
    (target : Target size) (result : Except ImageError Unit) (after : Target size) : Prop where
  empty : segment.size = 0 → result = .ok () ∧ after = target
  outOfRange : result = .error (.segmentOutOfRange kind) → after.memory = target.memory
  faulted : ∀ exception, result = .error (.segmentFault kind exception) →
    after.memory = target.memory
  truncated : ∀ expected read, result = .error (.truncatedSegment kind expected read) →
    expected = segment.size.toNat ∧ read < expected ∧
      read = min (file.readLimit expected) (file.length - segment.offset.toNat) ∧
      ∃ physical, segment.Located geometry target.table physical ∧
        segment.Written file physical read target.memory after.memory
  whole : result = .ok () → segment.size ≠ 0 →
    ∃ physical, segment.Located geometry target.table physical ∧
      segment.Written file physical segment.size.toNat target.memory after.memory
  reported : ∀ error, result = .error error → error = .segmentOutOfRange kind ∨
    (∃ exception, error = .segmentFault kind exception) ∨
      ∃ expected read, error = .truncatedSegment kind expected read
  succeeds_iff : result = .ok () ↔ segment.size = 0 ∨
    (segment.content file).length = segment.size.toNat ∧
      ∃ physical, segment.Located geometry target.table physical ∧
        physical + segment.size.toNat ≤ size
  outside : ∀ physical, segment.Located geometry target.table physical →
    ∀ index, index < physical ∨ physical + segment.size.toNat ≤ index →
      after.memory[index]? = target.memory[index]?
  marked : ∀ physical, segment.Located geometry target.table physical →
    after.table.size = target.table.size ∧
      ∀ page, after.table.lookup page =
        if page = segment.address.toNat / geometry.pageSize then
          (target.table.lookup page).map Entry.markUsed
        else target.table.lookup page
  unmarked : (∀ physical, ¬ segment.Located geometry target.table physical) → after = target
  mapped : result = .ok () → segment.Consecutive geometry target.table →
    ∀ address, segment.address.toNat ≤ address → address < segment.past →
      ∃ entry value, target.table.lookup (address / geometry.pageSize) = some entry ∧
        file.contents[segment.offset.toNat + (address - segment.address.toNat)]? = some value ∧
        after.memory[entry.frame * geometry.pageSize + address % geometry.pageSize]? = some value

theorem Located.eq {other : Nat} (located : segment.Located geometry table physical)
    (again : segment.Located geometry table other) : other = physical := by
  cases located.resolved.symm.trans again.resolved
  rfl

section Landing

variable {result : Except ImageError Unit} {after : Target size}
  (landing : Landing segment kind file geometry target result after)
include landing

/-- A segment that was not located has no effect, and another one is marked, whether its bytes were
written or not. -/
theorem Landing.effect :
    ((∀ physical, ¬ segment.Located geometry target.table physical) ∧ after = target) ∨
      ∃ physical, segment.Located geometry target.table physical ∧
        after.table = target.table.referenced geometry segment.address ∧
        (after.memory = target.memory ∨ physical + segment.size.toNat ≤ size ∧
          after.memory = target.memory.store physical (segment.content file)) := by
  cases landing with
  | empty empty => exact .inl ⟨fun _ located => located.nonempty empty, rfl⟩
  | beyond _ beyond => exact .inl ⟨fun _ located => Nat.not_le.mpr beyond located.inside, rfl⟩
  | faulted _ _ faulted =>
      refine .inl ⟨fun _ located => ?_, rfl⟩
      cases faulted.symm.trans located.resolved
  | overrun located => exact .inr ⟨_, located, rfl, .inl rfl⟩
  | truncated located room => exact .inr ⟨_, located, rfl, .inr ⟨room, rfl⟩⟩
  | whole located room => exact .inr ⟨_, located, rfl, .inr ⟨room, rfl⟩⟩

/-- A segment that was copied whole stands behind its translated start. -/
theorem Landing.written (succeeded : result = .ok ()) (nonempty : segment.size ≠ 0) :
    ∃ physical, segment.Located geometry target.table physical ∧
      segment.Written file physical segment.size.toNat target.memory after.memory := by
  cases landing with
  | empty empty => exact absurd empty nonempty
  | beyond | faulted | overrun | truncated => cases succeeded
  | whole located room whole =>
      refine ⟨_, located, ?_⟩
      rw [← whole]
      exact written_store file target.memory room

theorem copies_of_landing (valid : geometry.Valid) :
    Copies segment kind file geometry target result after := by
  constructor
  case empty =>
    intro empty
    cases landing with
    | empty => exact ⟨rfl, rfl⟩
    | beyond nonempty | faulted nonempty => exact absurd empty nonempty
    | overrun located | truncated located | whole located => exact absurd empty located.nonempty
  case outOfRange =>
    intro refused
    cases landing with
    | beyond | overrun => rfl
    | empty | faulted | truncated | whole => cases refused
  case faulted =>
    intro exception refused
    cases landing with
    | faulted => rfl
    | empty | beyond | overrun | truncated | whole => cases refused
  case truncated =>
    intro expected read refused
    cases landing with
    | truncated located room short =>
        cases refused
        refine ⟨rfl, ?_, file.length_readAt _ _, _, located, ?_⟩
        · exact Nat.lt_of_le_of_ne (segment.length_content_le file) short
        · exact written_store file target.memory room
    | empty | beyond | faulted | overrun | whole => cases refused
  case whole => exact landing.written
  case reported =>
    intro error refused
    cases landing with
    | beyond | overrun => exact .inl (Except.error.inj refused).symm
    | faulted => exact .inr (.inl ⟨_, (Except.error.inj refused).symm⟩)
    | truncated => exact .inr (.inr ⟨_, _, (Except.error.inj refused).symm⟩)
    | empty | whole => cases refused
  case succeeds_iff =>
    cases landing with
    | empty empty => exact iff_of_true rfl (.inl empty)
    | whole located room whole => exact iff_of_true rfl (.inr ⟨whole, _, located, room⟩)
    | beyond nonempty beyond =>
        refine iff_of_false nofun (not_or.mpr ⟨nonempty, ?_⟩)
        rintro ⟨-, _, located, -⟩
        exact Nat.not_le.mpr beyond located.inside
    | faulted nonempty _ faulted =>
        refine iff_of_false nofun (not_or.mpr ⟨nonempty, ?_⟩)
        rintro ⟨-, _, located, -⟩
        cases faulted.symm.trans located.resolved
    | overrun located overrun =>
        refine iff_of_false nofun (not_or.mpr ⟨located.nonempty, ?_⟩)
        rintro ⟨-, _, again, room⟩
        rw [located.eq again] at room
        exact Nat.not_le.mpr overrun room
    | truncated located _ short =>
        exact iff_of_false nofun (not_or.mpr ⟨located.nonempty, fun whole => short whole.1⟩)
  case outside =>
    intro physical located index outside
    obtain ⟨none, -⟩ | ⟨other, found, -, same | ⟨-, stored⟩⟩ := landing.effect
    · exact absurd located (none physical)
    · rw [same]
    · rw [stored, ← found.eq located]
      have length := segment.length_content_le file
      exact Memory.getElem?_store_outside target.memory (by omega)
  case marked =>
    intro physical located
    obtain ⟨none, -⟩ | ⟨-, -, table, -⟩ := landing.effect
    · exact absurd located (none physical)
    · rw [table]
      exact (PageTable.translates_resolve valid target.table segment.address).marked physical
        located.resolved
  case unmarked =>
    intro none
    obtain ⟨-, same⟩ | ⟨physical, located, -⟩ := landing.effect
    · exact same
    · exact absurd located (none physical)
  case mapped =>
    intro succeeded consecutive address first inside
    have nonempty : segment.size ≠ 0 := by
      intro empty
      rw [past, empty] at inside
      exact Nat.not_lt.mpr first inside
    obtain ⟨physical, located, written⟩ := landing.written succeeded nonempty
    obtain ⟨entry, found, place⟩ := located.exists_place valid consecutive first inside
    obtain ⟨value, held, stands⟩ :=
      written.copied (address - segment.address.toNat) (by rw [past] at inside; omega)
    rw [← place] at stands
    exact ⟨entry, value, found, held, stands⟩

end Landing

/-- A segment is copied without a stop of the kernel, whatever table, file and memory it meets, as
long as its addresses and those of its pages are machine sizes. -/
theorem place_copies (valid : geometry.Valid) (room : geometry.bytes + UInt32.size ≤ Size.limit)
    (segment : Segment) (kind : SegmentKind) (file : File) (target : Target size)
    (sized : target.table.size * geometry.pageSize < Size.limit) :
    ∃ report, (segment.place kind file geometry).run target = .ok report ∧
      Copies segment kind file geometry target report.result report.state := by
  obtain ⟨report, ran, landing⟩ := exists_landing segment kind file target valid room sized
  exact ⟨report, ran, copies_of_landing landing valid⟩

/-- A machine of eight frames of two words. -/
def narrowGeometry : Geometry := { pageSize := 8, frames := 8, stackSize := 0 }

/-- A segment from the middle of one page to that of the next. -/
def crossing : Segment := { size := 9, address := 4, offset := 3 }

/-- Two pages on neighbouring frames and one elsewhere, in less memory than the machine should
have. -/
def crossed : Target 30 where
  table := ⟨#[⟨0, 2, { valid := true }⟩, ⟨1, 3, { valid := true }⟩, ⟨2, 0, {}⟩]⟩
  memory := Memory.zeroed 30

/-- A file of twelve bytes that may return less than was asked for. -/
def letters (maxRead : Option Nat) : File :=
  ⟨[65, 66, 67, 68, 69, 70, 71, 72, 73, 74, 75, 76], maxRead⟩

/-- The segment is read whole into both pages. From a file that returns five bytes at a time only
the first page is filled, and one byte of the second. -/
theorem place_copies_crossing :
    (∃ report, (crossing.place .code (letters none) narrowGeometry).run crossed = .ok report ∧
      report.result = .ok () ∧ report.state.memory[3 * 8 + 2]? = some 74 ∧
      report.state.memory[29]? = some 0) ∧
    ∃ report, (crossing.place .code (letters (some 5)) narrowGeometry).run crossed = .ok report ∧
      report.result = .error (.truncatedSegment .code 9 5) ∧
      report.state.memory[3 * 8]? = some 72 ∧ report.state.memory[3 * 8 + 1]? = some 0 := by
  have valid : narrowGeometry.Valid := by decide
  have room : narrowGeometry.bytes + UInt32.size ≤ Size.limit := by decide
  have sized : crossed.table.size * narrowGeometry.pageSize < Size.limit := by decide
  have located : crossing.Located narrowGeometry crossed.table 20 := ⟨by decide, by decide, rfl⟩
  constructor
  · obtain ⟨report, ran, copies⟩ :=
      place_copies valid room crossing .code (letters none) crossed sized
    have whole : report.result = .ok () :=
      copies.succeeds_iff.mpr (.inr ⟨by decide, 20, located, by decide⟩)
    refine ⟨report, ran, whole, ?_, ?_⟩
    · have consecutive : crossing.Consecutive narrowGeometry crossed.table := by
        intro page first last entry next found follows
        obtain rfl : page = 0 := Nat.lt_one_iff.mp last
        cases found
        cases follows
        rfl
      obtain ⟨entry, value, found, held, stands⟩ :=
        copies.mapped whole consecutive 10 (by decide) (by decide)
      cases found
      cases held
      exact stands
    · exact copies.outside 20 located 29 (by decide)
  · obtain ⟨report, ran, copies⟩ :=
      place_copies valid room crossing .code (letters (some 5)) crossed sized
    have cut : report.result = .error (.truncatedSegment .code 9 5) := by
      have computed : ((crossing.place .code (letters (some 5)) narrowGeometry).run crossed).map
          (·.result) = .ok (.error (.truncatedSegment .code 9 5)) := by
        rfl
      rw [ran] at computed
      exact Except.ok.inj computed
    obtain ⟨-, -, -, physical, again, written⟩ := copies.truncated 9 5 cut
    rw [located.eq again] at written
    obtain ⟨value, held, stands⟩ := written.copied 4 (by decide)
    cases held
    exact ⟨report, ran, cut, stands, written.kept 25 (by decide)⟩

end PagedKernel.Segment
