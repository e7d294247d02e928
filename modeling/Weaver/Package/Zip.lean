import Weaver.Files.Disk
import Weaver.Package.Inflate

/-!
# Zip Files

The bytes of an archive: its entries, each with a header, then a directory of all
entries, then a record that tells where the directory is. Numbers are written with the
lowest byte first. Entries are written as they are and read deflated or as they are.

## Main definitions

* `Zip.write`, `Zip.read?`: the bytes of entries, the entries of bytes.
* `Contents.ofBytes`, `Contents.bytes`: what some bytes hold, the bytes of what a file
  holds.
-/

namespace Weaver

namespace Zip

/-! ### Numbers -/

/-- A number of so many bytes. -/
def number (value : Nat) : Nat → Utf8.Bytes
  | 0 => []
  | width + 1 => .ofNat (value % 256) :: number (value / 256) width

/-- The number that so many bytes from a place on make; bytes that are missing are
zero. -/
def numberAt (bytes : ByteArray) (at_ : Nat) : Nat → Nat
  | 0 => 0
  | width + 1 => (bytes.data.getD at_ 0).toNat + 256 * numberAt bytes (at_ + 1) width

/-- One step of the checksum for each bit of a byte. -/
def checksumBits : Nat → UInt32 → UInt32
  | 0, sum => sum
  | n + 1, sum =>
    checksumBits n (if sum % 2 = 1 then (sum >>> 1) ^^^ 0xEDB88320 else sum >>> 1)

/-- The checksum of some bytes. -/
def checksum (bytes : Utf8.Bytes) : Nat :=
  (bytes.foldl (fun sum b => checksumBits 8 (sum ^^^ b.toUInt32)) 0xFFFFFFFF ^^^ 0xFFFFFFFF).toNat

/-! ### Writing -/

/-- The first day that a date can name. -/
def firstDay : Nat :=
  33

/-- What the header of an entry and its line of the directory have in common: version,
flags (the name is UTF-8), method, time, date, checksum, sizes. -/
def description (name : Text) (data : Utf8.Bytes) : Utf8.Bytes :=
  [(20, 2), (2048, 2), (0, 2), (0, 2), (firstDay, 2), (checksum data, 4), (data.length, 4),
    (data.length, 4), (Utf8.length name, 2), (0, 2)].flatMap fun (value, width) => number value width

/-- The mark of an entry's header. -/
def entryMark : Nat :=
  0x04034B50

/-- The mark of a line of the directory. -/
def lineMark : Nat :=
  0x02014B50

/-- The mark of the record at the end. -/
def endMark : Nat :=
  0x06054B50

/-- An entry: its header and its bytes. -/
def entry (name : Text) (data : Utf8.Bytes) : Utf8.Bytes :=
  number entryMark 4 ++ description name data ++ Utf8.encode name ++ data

/-- The line of the directory for an entry at a place. -/
def line (name : Text) (data : Utf8.Bytes) (at_ : Nat) : Utf8.Bytes :=
  number lineMark 4 ++ number 20 2 ++ description name data ++ number 0 10 ++ number at_ 4 ++
    Utf8.encode name

/-- The directory of entries, the first of which is at a place. -/
def directory : List (Text × Utf8.Bytes) → Nat → Utf8.Bytes
  | [], _ => []
  | (name, data) :: rest, at_ =>
    line name data at_ ++ directory rest (at_ + (entry name data).length)

/-- The bytes of an archive. -/
def write (entries : List (Text × Data)) : Utf8.Bytes :=
  let entries := entries.map fun (name, data) => (name, data.bytes)
  let body := entries.flatMap fun (name, data) => entry name data
  let lines := directory entries 0
  body ++ lines ++ number endMark 4 ++ number 0 4 ++ number entries.length 2
    ++ number entries.length 2 ++ number lines.length 4 ++ number body.length 4 ++ number 0 2

/-! ### Reading -/

/-- Where the last record of those at most so many bytes from the front is. -/
def findEnd (bytes : ByteArray) : Nat → Option Nat
  | 0 => none
  | n + 1 => if numberAt bytes n 4 = endMark then some n else findEnd bytes n

/-- The entry that a line of the directory tells of. -/
def readEntry (bytes : ByteArray) (line : Nat) : Option (Text × Data) := do
  let size := numberAt bytes (line + 20) 4
  let name := bytes.extract (line + 46) (line + 46 + numberAt bytes (line + 28) 2)
  let header := numberAt bytes (line + 42) 4
  guard (numberAt bytes header 4 = entryMark)
  let start := header + 30 + numberAt bytes (header + 26) 2 + numberAt bytes (header + 28) 2
  guard (start + size ≤ bytes.size)
  let written := bytes.extract start (start + size)
  let data ← match numberAt bytes (line + 10) 2 with
    | 0 => some written
    | 8 => Inflate.inflate? written
    | _ => none
  return (Utf8.decodeLossy name.toList, .ofBytes data.toList)

/-- The entries of so many lines of a directory. -/
def readLines (bytes : ByteArray) : Nat → Nat → Option (List (Text × Data))
  | 0, _ => some []
  | count + 1, line => do
    guard (numberAt bytes line 4 = lineMark)
    let first ← readEntry bytes line
    let next := line + 46 + numberAt bytes (line + 28) 2 + numberAt bytes (line + 30) 2 +
      numberAt bytes (line + 32) 2
    return first :: (← readLines bytes count next)

/-- The entries of an archive. -/
def read? (bytes : ByteArray) : Option (List (Text × Data)) := do
  let end_ ← findEnd bytes bytes.size
  readLines bytes (numberAt bytes (end_ + 10) 2) (numberAt bytes (end_ + 16) 4)

end Zip

namespace Contents

/-- What bytes hold: the entries of an archive, if they are one. -/
def ofBytes (bytes : ByteArray) : Contents :=
  match Zip.read? bytes with
  | some entries => archive entries
  | none => data (.ofBytes bytes.toList)

/-- The bytes of what a file holds. -/
def bytes : Contents → Utf8.Bytes
  | data d => d.bytes
  | archive entries => Zip.write entries

end Contents

end Weaver
