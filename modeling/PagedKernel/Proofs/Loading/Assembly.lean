import Mathlib.Data.List.Induction
import PagedKernel.Image.Program
import PagedKernel.Proofs.Loading.Reservation

/-!
Contract: programs that are assembled, written as an image, and loaded.

Owns:
- the parts of a program that were set last (`Program.lastCode` and its like);
- segments of a file that yield given bytes for a given address
  (`Segment.Yields`), and the image of a program, of which both segments do;
- bytes found at a virtual address through the table of a space
  (`AddressSpace.Finds`);
- the load of a file whose segments are known (`AddressSpace.Recovers`).

Does not own: the loads of other files (`Loading.Acceptance`).
-/

namespace PagedKernel

open PagedKernel.Action

/-- Bytes for consecutive addresses. -/
structure Chunk where
  address : UInt32 := 0
  bytes : List UInt8 := []
deriving DecidableEq, Repr

/-- There are no bytes, or they start at a whole word and end in a space of so many bytes. -/
def Chunk.Fits (chunk : Chunk) (spaceBytes : Nat) : Prop :=
  chunk.bytes ≠ [] → chunk.address.toNat % Word.size = 0 ∧
    chunk.address.toNat + chunk.bytes.length ≤ spaceBytes

instance (chunk : Chunk) (spaceBytes : Nat) : Decidable (chunk.Fits spaceBytes) :=
  inferInstanceAs (Decidable (_ → _))

namespace Program

/-! ### What was set last -/

namespace Part

def code? : Part → Option Chunk
  | .code address bytes => some ⟨address, bytes⟩
  | _ => none

def initialized? : Part → Option Chunk
  | .initialized address bytes => some ⟨address, bytes⟩
  | _ => none

/-- Address and size of uninitialized bytes. -/
def uninitialized? : Part → Option (UInt32 × UInt32)
  | .uninitialized address size => some (address, size)
  | _ => none

def order? : Part → Option ByteOrder
  | .order byteOrder => some byteOrder
  | _ => none

end Part

variable {α : Type}

/-- What the last of the parts that say anything says. -/
def last? (aspect : Part → Option α) (parts : List Part) : Option α :=
  parts.reverse.findSome? aspect

def lastCode (parts : List Part) : Chunk := (last? Part.code? parts).getD {}

def lastInitialized (parts : List Part) : Chunk := (last? Part.initialized? parts).getD {}

def lastUninitialized (parts : List Part) : UInt32 × UInt32 :=
  (last? Part.uninitialized? parts).getD (0, 0)

def lastOrder (parts : List Part) : ByteOrder := (last? Part.order? parts).getD .native

theorem last?_snoc (aspect : Part → Option α) (parts : List Part) (part : Part) :
    last? aspect (parts ++ [part]) = (aspect part).or (last? aspect parts) := by
  rw [last?, List.reverse_append, List.reverse_singleton, List.findSome?_append,
    List.findSome?_singleton]
  rfl

theorem assemble_snoc (parts : List Part) (part : Part) :
    assemble (parts ++ [part]) = (assemble parts).set part := by
  rw [assemble, List.foldl_append]
  rfl

/-- What is seen of the assembled program is what the last part to change it says, if every part
that is set says what is seen from then on, or leaves it. -/
theorem look_assemble (look : Program → α) (aspect : Part → Option α)
    (look_set : ∀ program part, look (program.set part) = (aspect part).getD (look program))
    (parts : List Part) : look (assemble parts) = (last? aspect parts).getD (look {}) := by
  induction parts using List.reverseRecOn with
  | nil => rfl
  | append_singleton earlier part inductionHypothesis =>
      rw [assemble_snoc, look_set, last?_snoc, inductionHypothesis]
      cases aspect part <;> rfl

/-- The code bytes of a program with their address. -/
def codeChunk (program : Program) : Chunk := ⟨program.codeAddress, program.code⟩

/-- The initialized bytes of a program with their address. -/
def initializedChunk (program : Program) : Chunk :=
  ⟨program.initializedAddress, program.initialized⟩

theorem codeChunk_assemble (parts : List Part) : (assemble parts).codeChunk = lastCode parts :=
  look_assemble codeChunk Part.code? (fun _ part => by cases part <;> rfl) parts

theorem initializedChunk_assemble (parts : List Part) :
    (assemble parts).initializedChunk = lastInitialized parts :=
  look_assemble initializedChunk Part.initialized? (fun _ part => by cases part <;> rfl) parts

theorem uninitialized_assemble (parts : List Part) :
    ((assemble parts).uninitializedAddress, (assemble parts).uninitializedSize) =
      lastUninitialized parts :=
  look_assemble (fun program => (program.uninitializedAddress, program.uninitializedSize))
    Part.uninitialized? (fun _ part => by cases part <;> rfl) parts

theorem order_assemble (parts : List Part) : (assemble parts).order = lastOrder parts :=
  look_assemble (·.order) Part.order? (fun _ part => by cases part <;> rfl) parts

end Program

/-! ### Segments of known bytes -/

/-- The segment is for the address of the chunk, and the file yields the bytes of the chunk for it
in one read. -/
structure Segment.Yields (segment : Segment) (file : File) (chunk : Chunk) : Prop where
  address : segment.address = chunk.address
  size : segment.size.toNat = chunk.bytes.length
  read : file.readAt segment.size.toNat segment.offset.toNat = chunk.bytes

namespace Segment

variable {segment : Segment} {file : File} {chunk : Chunk}

/-- A segment yields the bytes behind those that its offset counts. -/
theorem yields_of_split {before after : List UInt8}
    (small : before.length + chunk.bytes.length < UInt32.size) :
    Yields ⟨.ofNat chunk.bytes.length, chunk.address, .ofNat before.length⟩
      { contents := before ++ chunk.bytes ++ after } chunk := by
  have size : (UInt32.ofNat chunk.bytes.length).toNat = chunk.bytes.length :=
    UInt32.toNat_ofNat_of_lt' (by omega)
  have offset : (UInt32.ofNat before.length).toNat = before.length :=
    UInt32.toNat_ofNat_of_lt' (by omega)
  constructor
  case address => rfl
  case size => exact size
  case read =>
    show List.take _ (List.drop _ _) = chunk.bytes
    rw [size, offset, List.append_assoc, List.drop_left]
    exact List.take_left

namespace Yields

variable (yields : segment.Yields file chunk)
include yields

theorem size_eq_zero_iff : segment.size = 0 ↔ chunk.bytes = [] := by
  rw [← List.length_eq_zero_iff, ← yields.size, ← UInt32.toNat_inj]
  rfl

theorem placeable_iff {spaceBytes : Nat} :
    (segment.size ≠ 0 → segment.Placeable file spaceBytes) ↔ chunk.Fits spaceBytes := by
  rw [Chunk.Fits, Ne, yields.size_eq_zero_iff, ← yields.address, ← yields.size]
  refine forall_congr' fun nonempty => ?_
  constructor
  · intro placeable
    exact ⟨placeable.aligned, placeable.inside⟩
  · rintro ⟨aligned, inside⟩
    have whole : (segment.content file).length = segment.size.toNat := by
      rw [yields.size, content, yields.read]
    obtain ⟨uncapped, present⟩ :=
      (length_content_eq_iff (mt yields.size_eq_zero_iff.mp nonempty)).mp whole
    exact ⟨inside, aligned, File.readLimit_eq_iff.mp uncapped, present⟩

/-- The bytes of the chunk belong at its addresses. -/
theorem byte_of_getElem? {index : Nat} {byte : UInt8} (found : chunk.bytes[index]? = some byte) :
    segment.Covers (chunk.address.toNat + index) ∧
      segment.byteAt? file (chunk.address.toNat + index) = some byte := by
  obtain ⟨inside, -⟩ := List.getElem?_eq_some_iff.mp found
  have read : segment.content file = chunk.bytes := yields.read
  rw [Covers, past, byteAt?, yields.address, yields.size, Nat.add_sub_cancel_left,
    ← getElem?_content (by rw [read]; exact inside), read]
  exact ⟨⟨Nat.le_add_right _ _, Nat.add_lt_add_left inside _⟩, found⟩

end Yields

end Segment

/-! ### Images of programs -/

/-- A header is read back from the start of a file. -/
theorem Header.read_encode (header : Header) (magic : header.magic = imageMagic)
    (order : ByteOrder) (rest : List UInt8) :
    read { contents := header.encode order ++ rest } = .ok (header, order) := by
  have raw : File.readAt { contents := header.encode order ++ rest } headerSize 0 =
      header.encode order := List.take_left' (length_encode header order)
  rw [read, raw]
  exact parse_eq_ok_iff.mpr ⟨rfl, magic⟩

namespace Program

variable {program : Program}

/-- The header of an image whose offsets all fit a word. -/
def layout (program : Program) : Header where
  magic := imageMagic
  code := ⟨.ofNat program.code.length, program.codeAddress, .ofNat headerSize⟩
  initialized := ⟨.ofNat program.initialized.length, program.initializedAddress,
    .ofNat (headerSize + program.code.length)⟩
  uninitialized := ⟨program.uninitializedSize, program.uninitializedAddress, 0⟩

def layoutImage (program : Program) : List UInt8 :=
  program.layout.encode program.order ++ program.code ++ program.initialized

theorem read_layoutImage (program : Program) :
    Header.read { contents := program.layoutImage } = .ok (program.layout, program.order) := by
  rw [layoutImage, List.append_assoc]
  exact Header.read_encode program.layout rfl program.order _

section Small

variable (small : headerSize + program.code.length + program.initialized.length < UInt32.size)
include small

theorem header_of_small : program.header = .ok program.layout := by
  have size : (UInt32.ofNat program.code.length).toNat = program.code.length :=
    UInt32.toNat_ofNat_of_lt' (by omega)
  have past : headerSize + program.code.length < UInt32.size := by omega
  simp only [header, size, Size.below_of_lt past]
  rfl

theorem image_of_small : program.image = .ok program.layoutImage := by
  rw [image, header_of_small small]
  rfl

theorem yields_code :
    program.layout.code.Yields { contents := program.layoutImage } program.codeChunk := by
  have header := program.layout.length_encode program.order
  have bounded : (program.layout.encode program.order).length + program.code.length <
      UInt32.size := by omega
  have split := @Segment.yields_of_split program.codeChunk _ program.initialized bounded
  rw [header] at split
  exact split

theorem yields_initialized :
    program.layout.initialized.Yields { contents := program.layoutImage }
      program.initializedChunk := by
  have before : (program.layout.encode program.order ++ program.code).length =
      headerSize + program.code.length := by
    rw [List.length_append, Header.length_encode]
  have split := @Segment.yields_of_split program.initializedChunk
    (program.layout.encode program.order ++ program.code) [] (by rw [before]; exact small)
  rw [before, List.append_nil] at split
  exact split

end Small

end Program

namespace AddressSpace

variable {geometry : Geometry} {kernel : Kernel geometry} {space : AddressSpace} {file : File}
  {header : Header} {order : ByteOrder} {code initialized : Chunk}

/-! ### Bytes at virtual addresses -/

/-- The table of the space has a valid entry for the page of the address, with a frame that holds
the byte as far from its start as the address is from that of the page. -/
def Finds (space : AddressSpace) (kernel : Kernel geometry) (address : Nat) (byte : UInt8) :
    Prop :=
  ∃ entry, (kernel.tables.table space.table).lookup (address / geometry.pageSize) = some entry ∧
    entry.flags.valid = true ∧ entry.frame < geometry.frames ∧
    kernel.machine.memory[
      entry.frame * geometry.pageSize + address % geometry.pageSize]? = some byte

theorem Backed.finds (backed : Backed kernel space) {address : Nat} {byte : UInt8}
    (inside : address < space.pages * geometry.pageSize)
    (held : space.byteAt? kernel address = some byte) : space.Finds kernel address byte := by
  have positive := kernel.machine.usable.valid.pageSize_pos
  have page : address / geometry.pageSize < space.pages :=
    (Nat.div_lt_iff_lt_mul positive).mpr inside
  obtain ⟨used, found⟩ := backed.linear.entry _ page
  have frame : space.firstFrame + address / geometry.pageSize < geometry.frames :=
    Nat.lt_of_lt_of_le (Nat.add_lt_add_left page _) backed.inside
  refine ⟨_, found, rfl, frame, ?_⟩
  rw [Nat.add_mul, Nat.add_assoc, Nat.div_add_mod']
  exact held

/-! ### Loads of known segments -/

/-- A load of a file of two chunks, on a machine with free frames for it. It succeeds exactly if
both chunks fit into the pages that the header asks for. Then the space has these pages, and every
byte of a chunk is found at its address, if no address is one of both chunks. -/
structure Recovers (geometry : Geometry) (header : Header) (code initialized : Chunk)
    (report : Report (Kernel geometry) BuildError AddressSpace) : Prop where
  accepted : (∃ space, report.result = .ok space) ↔
    code.Fits (header.pageCount geometry * geometry.pageSize) ∧
      initialized.Fits (header.pageCount geometry * geometry.pageSize)
  pages : ∀ space, report.result = .ok space → space.pages = header.pageCount geometry
  found : ∀ space, report.result = .ok space → header.code.Apart header.initialized →
    ∀ chunk ∈ [code, initialized], ∀ index byte, chunk.bytes[index]? = some byte →
      space.Finds report.state (chunk.address.toNat + index) byte

section Read

variable (read : Header.read file = .ok (header, order))
include read

/-- A file whose header was read is loaded under this header or not at all. -/
theorem exists_loadable_iff {frames : FramePool}
    (free : frames.committed + header.pageCount geometry ≤ min frames.total geometry.frames) :
    (∃ order, Loadable file geometry frames order) ↔
      (header.code.size ≠ 0 →
        header.code.Placeable file (header.pageCount geometry * geometry.pageSize)) ∧
      (header.initialized.size ≠ 0 →
        header.initialized.Placeable file (header.pageCount geometry * geometry.pageSize)) := by
  obtain ⟨whole, magic, rfl⟩ := Header.read_eq_ok_iff.mp read
  constructor
  · rintro ⟨other, loadable⟩
    cases ByteOrder.eq_of_convert loadable.magic magic
    exact ⟨loadable.code, loadable.initialized⟩
  · rintro ⟨code, initialized⟩
    have small : (file.header order).pageCount geometry ≤ geometry.frames := by omega
    exact ⟨order, whole, magic, small, free, code, initialized⟩

theorem summable_of_free (usable : geometry.Usable)
    (small : header.pageCount geometry ≤ geometry.frames) : Summable file geometry := by
  obtain ⟨-, magic, rfl⟩ := Header.read_eq_ok_iff.mp read
  intro _ other again
  cases ByteOrder.eq_of_convert again magic
  exact Nat.lt_of_le_of_lt (Header.bytesNeeded_le _ usable.valid) (usable.run_lt_limit small)

theorem holds_of_load {after : Kernel geometry} {events : List Event}
    (loaded : (load file).run kernel = .ok ⟨.ok space, after, events⟩) :
    Holds kernel after file header space := by
  rcases load_effect loaded with ⟨error, failed, -⟩ | ⟨found, foundOrder, built, again, made, holds⟩
  · cases failed
  · cases made
    cases again.symm.trans read
    exact holds

/-- After a load the bytes of a chunk are found at its addresses. -/
theorem finds_of_load {after : Kernel geometry} {events : List Event}
    (loaded : (load file).run kernel = .ok ⟨.ok space, after, events⟩)
    (apart : header.code.Apart header.initialized) {entry : SegmentKind × Segment}
    (member : entry ∈ header.fileSegments) {chunk : Chunk} (yields : entry.2.Yields file chunk)
    {index : Nat} {byte : UInt8} (listed : chunk.bytes[index]? = some byte) :
    space.Finds after (chunk.address.toNat + index) byte := by
  have holds := holds_of_load read loaded
  obtain ⟨covered, present⟩ := yields.byte_of_getElem? listed
  obtain ⟨found, foundOrder, again, past_le⟩ := past_le_of_load loaded
  cases again.symm.trans read
  have nonempty : entry.2.size ≠ 0 := fun empty => Segment.not_covers_of_empty empty _ covered
  have inside := Nat.lt_of_lt_of_le covered.2 (past_le entry member nonempty)
  apply holds.toBuilt.backed.finds inside
  rw [holds.contents _ inside, Header.byteAt?_of_covers apart member covered]
  exact present

/-- A file that yields two chunks for its segments gives them back when it is loaded. -/
theorem recovers_of_yields (kernel : Kernel geometry)
    (free : kernel.frames.committed + header.pageCount geometry ≤
      min kernel.frames.total geometry.frames)
    (ofCode : header.code.Yields file code)
    (ofInitialized : header.initialized.Yields file initialized) :
    ∃ report, (load file).run kernel = .ok report ∧
      Recovers geometry header code initialized report := by
  have usable := kernel.machine.usable
  have small : header.pageCount geometry ≤ geometry.frames := by omega
  obtain ⟨⟨result, after, events⟩, ran, ended⟩ :=
    run_load_of_summable kernel file (summable_of_free read usable small)
  refine ⟨_, ran, ?_⟩
  constructor
  case accepted =>
    rw [← ofCode.placeable_iff, ← ofInitialized.placeable_iff, ← exists_loadable_iff read free,
      ← firstFailing_loadConditions_eq_none_iff]
    exact (Condition.result_iff ended).1
  case pages =>
    rintro space rfl
    exact (holds_of_load read ran).pages
  case found =>
    rintro space rfl apart chunk member index byte listed
    simp only [List.mem_cons, List.not_mem_nil, or_false] at member
    have first : (.code, header.code) ∈ header.fileSegments := List.mem_cons_self
    have second : (.initialized, header.initialized) ∈ header.fileSegments :=
      List.mem_cons_of_mem _ List.mem_cons_self
    rcases member with rfl | rfl
    · exact finds_of_load read ran apart first ofCode listed
    · exact finds_of_load read ran apart second ofInitialized listed

end Read

/-- Whatever parts are set in whatever order, the image of the program is read back as the header
and the bytes that were set last, and is loaded as such. -/
theorem load_assembled (parts : List Program.Part)
    (small : headerSize + (Program.lastCode parts).bytes.length +
      (Program.lastInitialized parts).bytes.length < UInt32.size) :
    ∃ header contents, (Program.assemble parts).header = .ok header ∧
      (Program.assemble parts).image = .ok contents ∧
      Header.read { contents } = .ok (header, Program.lastOrder parts) ∧
      header.code.Yields { contents } (Program.lastCode parts) ∧
      header.initialized.Yields { contents } (Program.lastInitialized parts) ∧
      header.uninitialized =
        ⟨(Program.lastUninitialized parts).2, (Program.lastUninitialized parts).1, 0⟩ ∧
      ∀ {geometry : Geometry} (kernel : Kernel geometry),
        kernel.frames.committed + header.pageCount geometry ≤
            min kernel.frames.total geometry.frames →
          ∃ report, (load { contents }).run kernel = .ok report ∧
            Recovers geometry header (Program.lastCode parts) (Program.lastInitialized parts)
              report := by
  have code := Program.codeChunk_assemble parts
  have initialized := Program.initializedChunk_assemble parts
  have order := Program.order_assemble parts
  have uninitialized := Program.uninitialized_assemble parts
  rw [← code, ← initialized] at small ⊢
  rw [← order, ← uninitialized]
  generalize Program.assemble parts = program at small ⊢
  have read := program.read_layoutImage
  have ofCode := Program.yields_code small
  have ofInitialized := Program.yields_initialized small
  exact ⟨program.layout, program.layoutImage, Program.header_of_small small,
    Program.image_of_small small, read, ofCode, ofInitialized, rfl,
    fun kernel free => recovers_of_yields read kernel free ofCode ofInitialized⟩

/-- Parts of which the second code takes the place of the first. -/
def revisedParts : List Program.Part :=
  [.code 6 [9, 9], .order .swapped, .initialized 4 [5, 6, 7], .code 0 [1, 2, 3, 4],
    .uninitialized 8 1]

theorem load_assembled_revised :
    ∃ header contents space after events,
      (Program.assemble revisedParts).image = .ok contents ∧
      Header.read { contents } = .ok (header, .swapped) ∧
      File.readAt { contents } header.code.size.toNat header.code.offset.toNat = [1, 2, 3, 4] ∧
      (load { contents }).run smallKernel = .ok ⟨.ok space, after, events⟩ ∧ space.pages = 3 ∧
      space.Finds after 2 3 ∧ space.Finds after 6 7 := by
  obtain ⟨header, contents, described, built, read, code, -, -, loads⟩ :=
    load_assembled revisedParts (by decide)
  cases described.symm.trans (Program.header_of_small (by decide))
  obtain ⟨⟨result, after, events⟩, ran, recovers⟩ := loads smallKernel (by decide +kernel)
  obtain ⟨space, rfl⟩ := recovers.accepted.mpr (by decide +kernel)
  have found := recovers.found space rfl (Segment.apart_of_past_le (by decide +kernel))
  have inCode := found _ List.mem_cons_self 2 3 (by decide)
  have inInitialized := found _ (List.mem_cons_of_mem _ List.mem_cons_self) 2 7 (by decide)
  exact ⟨_, contents, space, after, events, built, read, code.read, ran, recovers.pages space rfl,
    inCode, inInitialized⟩

end AddressSpace

end PagedKernel
