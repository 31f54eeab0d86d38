/-
Camouflage/Export/Png.lean

PNG files.  A file is a signature and a sequence of chunks, each with a length,
a name and a checksum.  An image needs three: its header, its data and an end.
The data are the rows, each behind the mark of no filter, as a zlib stream of
stored blocks; nothing is compressed.
-/
import Camouflage.Raster.Image

namespace Camouflage.Png

/-! ### Checksums -/

/-- One step of the cyclic redundancy check, on one bit. -/
def crcBit (c : UInt32) : UInt32 :=
  if c &&& 1 = 1 then (0xEDB88320 : UInt32) ^^^ (c >>> 1) else c >>> 1

/-- The steps of one byte. -/
def crcEntry (n : UInt32) : UInt32 := Nat.repeat crcBit 8 n

/-- The steps for every byte. -/
def crcTable : Vector UInt32 256 := Vector.ofFn fun i => crcEntry (UInt32.ofNat i.val)

/-- The check after one byte more. -/
def crcStep (table : Vector UInt32 256) (c : UInt32) (b : UInt8) : UInt32 :=
  table.get ⟨(c.toUInt8 ^^^ b).toNat, UInt8.toNat_lt _⟩ ^^^ (c >>> 8)

/-- The cyclic redundancy check of bytes. -/
def crc (bytes : ByteArray) : UInt32 :=
  let table := crcTable
  bytes.foldl (crcStep table) 0xFFFFFFFF ^^^ 0xFFFFFFFF

/-- The Adler checksum of bytes: their sum, and the sum of the sums so far. -/
def adler (bytes : ByteArray) : UInt32 :=
  let (a, b) := bytes.foldl (fun (a, b) x =>
    let a := (a + x.toUInt32) % 65521
    (a, (b + a) % 65521)) ((1 : UInt32), (0 : UInt32))
  (b <<< 16) ||| a

/-! ### Pieces -/

/-- Four bytes, the highest first. -/
def word (out : ByteArray) (n : UInt32) : ByteArray :=
  (((out.push (n >>> 24).toUInt8).push (n >>> 16).toUInt8).push (n >>> 8).toUInt8).push n.toUInt8

/-- Two bytes, the lower first. -/
def short (out : ByteArray) (n : Nat) : ByteArray :=
  (out.push (UInt8.ofNat n)).push (UInt8.ofNat (n / 256))

/-- The eight bytes every file begins with. -/
def signature : ByteArray := ⟨#[0x89, 0x50, 0x4E, 0x47, 0x0D, 0x0A, 0x1A, 0x0A]⟩

/-- A chunk. -/
def chunk (out : ByteArray) (name : String) (content : ByteArray) : ByteArray :=
  let named := name.toUTF8 ++ content
  word (word out (UInt32.ofNat content.size) ++ named) (crc named)

/-- The rows of an image, each behind the mark of no filter. -/
def rows (image : Image) : ByteArray :=
  (image.pixels.foldl (fun (out, column) c =>
    let out : ByteArray := if column = 0 then out.push 0 else out
    let out := ((out.push c.red).push c.green).push c.blue
    (out, if column + 1 = image.width then 0 else column + 1)) (ByteArray.empty, 0)).1

/-- The largest stored block. -/
def largestBlock : Nat := 65535

/-- Stored blocks for the bytes from `start` on, so many at most. -/
def blocks (bytes : ByteArray) (out : ByteArray) (start : Nat) : Nat → ByteArray
  | 0 => out
  | count + 1 =>
    let left := bytes.size - start
    let size := min left largestBlock
    let out := out.push (if left ≤ largestBlock then 1 else 0)
    let out := short (short out size) (largestBlock - size)
    let out := out ++ bytes.extract start (start + size)
    if left ≤ largestBlock then out else blocks bytes out (start + size) count

/-- A zlib stream of stored blocks. -/
def stream (bytes : ByteArray) : ByteArray :=
  let start : ByteArray := ⟨#[0x78, 0x01]⟩
  word (blocks bytes start 0 (bytes.size / largestBlock + 1)) (adler bytes)

/-- The header: width, height, eight bits a channel, three channels. -/
def header (image : Image) : ByteArray :=
  let out := word (word ByteArray.empty (UInt32.ofNat image.width)) (UInt32.ofNat image.height)
  ((((out.push 8).push 2).push 0).push 0).push 0

/-- The file of an image. -/
def encode (image : Image) : ByteArray :=
  let out := chunk signature "IHDR" (header image)
  let out := chunk out "IDAT" (stream (rows image))
  chunk out "IEND" ByteArray.empty

end Camouflage.Png
