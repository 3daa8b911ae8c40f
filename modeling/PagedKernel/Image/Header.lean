import PagedKernel.Geometry
import PagedKernel.Image.Error
import PagedKernel.Image.File

/-!
Contract: the header of an executable image.

Owns:
- segments and headers, and their ten words;
- the two byte orders in which a header can be written;
- `Header.encode` and `Header.parse`, which are inverse to each other on
  headers that start with the magic word (`parse_eq_ok_iff`);
- the memory that a program needs.

Does not own: the bytes after the header, or where a segment is loaded.
-/

namespace PagedKernel

/-- A run of bytes of the program: how many, where in memory, where in the file. -/
structure Segment where
  size : UInt32 := 0
  address : UInt32 := 0
  offset : UInt32 := 0
deriving DecidableEq, Repr

/-- The order in which the bytes of the header's words stand in the file. -/
inductive ByteOrder where
  /-- Lowest byte first, as the machine stores words. -/
  | native
  | swapped
deriving DecidableEq, Repr

structure Header where
  magic : UInt32
  code : Segment := {}
  initialized : Segment := {}
  uninitialized : Segment := {}
deriving DecidableEq, Repr

/-- The word with which every image starts. -/
def imageMagic : UInt32 := 0x00badfad

/-- The first address past the segment. -/
def Segment.past (segment : Segment) : Nat :=
  segment.address.toNat + segment.size.toNat

def Segment.map (segment : Segment) (convert : UInt32 → UInt32) : Segment :=
  ⟨convert segment.size, convert segment.address, convert segment.offset⟩

/-- Turns a word as the machine reads it from the file into its value, and back. -/
def ByteOrder.convert : ByteOrder → UInt32 → UInt32
  | .native => id
  | .swapped => Word.reverse

/-- The byte order under which a word read from the file is the magic word. -/
def ByteOrder.ofMagic? (word : UInt32) : Option ByteOrder :=
  if word = imageMagic then some .native
  else if Word.reverse word = imageMagic then some .swapped
  else none

namespace Header

def map (header : Header) (convert : UInt32 → UInt32) : Header :=
  ⟨convert header.magic, header.code.map convert, header.initialized.map convert,
    header.uninitialized.map convert⟩

def words (header : Header) : List UInt32 :=
  [header.magic,
    header.code.size, header.code.address, header.code.offset,
    header.initialized.size, header.initialized.address, header.initialized.offset,
    header.uninitialized.size, header.uninitialized.address, header.uninitialized.offset]

def ofWords? : List UInt32 → Option Header
  | [magic, codeSize, codeAddress, codeOffset, dataSize, dataAddress, dataOffset,
      bssSize, bssAddress, bssOffset] =>
      some ⟨magic, ⟨codeSize, codeAddress, codeOffset⟩, ⟨dataSize, dataAddress, dataOffset⟩,
        ⟨bssSize, bssAddress, bssOffset⟩⟩
  | _ => none

/-- The bytes of the header in a byte order. -/
def encode (header : Header) (order : ByteOrder) : List UInt8 :=
  Word.encodeAll (header.map order.convert).words

/-- The header that the bytes hold, and the byte order in which they hold it. -/
def parse (raw : List UInt8) : Except ImageError (Header × ByteOrder) :=
  match (Word.decodeAll raw).bind ofWords? with
  | none => .error (.truncatedHeader raw.length)
  | some stored =>
      match ByteOrder.ofMagic? stored.magic with
      | none => .error (.badMagic stored.magic)
      | some order => .ok (stored.map order.convert, order)

/-- Reads the header at the start of a file. -/
def read (file : File) : Except ImageError (Header × ByteOrder) :=
  parse (file.readAt headerSize 0)

/-- Bytes that the segments and the stack take. -/
def imageSize (header : Header) (geometry : Geometry) : Checked Nat :=
  Size.add
    (header.code.size.toNat + header.initialized.size.toNat + header.uninitialized.size.toNat)
    geometry.stackSize

/-- Pages that the segments and the stack take. -/
def pagesNeeded (header : Header) (geometry : Geometry) : Checked Nat := do
  geometry.pagesFor (← header.imageSize geometry)

/-- The segments whose bytes stand in the file, in the order of loading. -/
def fileSegments (header : Header) : List (SegmentKind × Segment) :=
  [(.code, header.code), (.initialized, header.initialized)]

end Header

/-! ### Laws of the codec -/

@[simp] theorem ByteOrder.convert_convert (order : ByteOrder) (word : UInt32) :
    order.convert (order.convert word) = word := by
  cases order <;> simp [convert]

theorem ByteOrder.convert_of_ofMagic? {word : UInt32} {order : ByteOrder}
    (found : ofMagic? word = some order) : order.convert word = imageMagic := by
  unfold ofMagic? at found
  split at found
  · cases found
    assumption
  · split at found
    · cases found
      assumption
    · cases found

theorem ByteOrder.ofMagic?_convert (order : ByteOrder) :
    ofMagic? (order.convert imageMagic) = some order := by
  cases order <;> decide

namespace Header

@[simp] theorem map_convert_map_convert (header : Header) (order : ByteOrder) :
    (header.map order.convert).map order.convert = header := by
  simp [map, Segment.map]

@[simp] theorem ofWords?_words (header : Header) : ofWords? header.words = some header := rfl

theorem words_of_ofWords? {values : List UInt32} {header : Header}
    (found : ofWords? values = some header) : header.words = values := by
  unfold ofWords? at found
  split at found
  · cases found
    rfl
  · cases found

@[simp] theorem length_encode (header : Header) (order : ByteOrder) :
    (header.encode order).length = headerSize := by
  simp [encode, Word.encodeAll, words, Word.size, headerSize]

/-- Parsing accepts exactly the encodings of headers that start with the magic word. -/
theorem parse_eq_ok_iff {raw : List UInt8} {header : Header} {order : ByteOrder} :
    parse raw = .ok (header, order) ↔
      raw = header.encode order ∧ header.magic = imageMagic := by
  constructor
  · intro parsed
    unfold parse at parsed
    split at parsed
    · cases parsed
    · rename_i stored found
      split at parsed
      · cases parsed
      · rename_i recognised
        simp only [Except.ok.injEq, Prod.mk.injEq] at parsed
        obtain ⟨rfl, rfl⟩ := parsed
        obtain ⟨values, decoded, collected⟩ := Option.bind_eq_some_iff.mp found
        refine ⟨?_, ByteOrder.convert_of_ofMagic? recognised⟩
        rw [encode, map_convert_map_convert, words_of_ofWords? collected]
        exact Word.decodeAll_eq_some_iff.mp decoded
  · rintro ⟨rfl, magic⟩
    have recognised : ByteOrder.ofMagic? (header.map order.convert).magic = some order := by
      simp only [map, magic]
      exact ByteOrder.ofMagic?_convert order
    simp [parse, encode, recognised]

end Header

end PagedKernel
