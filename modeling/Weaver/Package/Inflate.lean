import Weaver.Text.Basic

/-!
# Deflated Data

Deflated data is a run of bits that is read from the lowest bit of each byte on. It
consists of blocks; a block holds bytes and copies of bytes that came before, written in
codes whose words differ in length.

## Main definitions

* `Inflate.Reader`: reading of bits.
* `Inflate.Code`, `Inflate.Code.symbol`: codes that are given by the lengths of their words.
* `Inflate.inflate?`: the bytes that deflated data stands for.
-/

namespace Weaver.Inflate

/-! ### Bits -/

/-- Reading of bits: the state is the number of bits read so far. -/
abbrev Reader := StateT Nat Option

/-- Reads a bit. -/
def bit (bytes : ByteArray) : Reader Nat := fun at_ => do
  let byte ← bytes.data[at_ / 8]?
  return ((byte.toNat >>> (at_ % 8)) % 2, at_ + 1)

/-- Reads a number of so many bits, the lowest bit first. -/
def number (bytes : ByteArray) : Nat → Reader Nat
  | 0 => return 0
  | width + 1 => do
    let low ← bit bytes
    return low + 2 * (← number bytes width)

/-! ### Codes -/

/-- A code: the number of words of each length from one on, and the symbols in the order
of their words. -/
structure Code where
  counts : List Nat
  symbols : Array Nat

namespace Code

/-- The length of the longest words. -/
def maxLength : Nat :=
  15

/-- The code whose symbols have words of those lengths; zero means that a symbol has
none. -/
def ofLengths (lengths : List Nat) : Code :=
  let sizes := (List.range maxLength).map (· + 1)
  let symbols := sizes.flatMap fun size =>
    lengths.zipIdx.filterMap fun (length, symbol) => if length = size then some symbol else none
  { counts := sizes.map (lengths.count ·), symbols := symbols.toArray }

/-- Reads the rest of a word. The bits so far make `word`; the words of that length begin
with `first`, which stands for the symbol at `index`. -/
def symbolFrom (c : Code) (bytes : ByteArray) : List Nat → Nat → Nat → Nat → Reader Nat
  | [], _, _, _ => failure
  | count :: counts, word, first, index => do
    let word := 2 * word + (← bit bytes)
    if word < first + count then liftM c.symbols[index + (word - first)]?
    else c.symbolFrom bytes counts word (2 * (first + count)) (index + count)

/-- Reads a word, and tells its symbol. -/
def symbol (c : Code) (bytes : ByteArray) : Reader Nat :=
  c.symbolFrom bytes c.counts 0 0 0

/-- The code of bytes and lengths where a block brings none. -/
def fixedSymbols : Code :=
  .ofLengths (.replicate 144 8 ++ .replicate 112 9 ++ .replicate 24 7 ++ .replicate 8 8)

/-- The code of distances where a block brings none. -/
def fixedDistances : Code :=
  .ofLengths (.replicate 30 5)

end Code

/-! ### Blocks -/

/-- The symbols of a range: each stands for the numbers from a base on that so many more
bits tell apart. -/
def ranges (start : Nat) (widths : List Nat) : List (Nat × Nat) :=
  (widths.foldl (fun (base, out) width => (base + 1 <<< width, (base, width) :: out))
    (start, [])).2.reverse

/-- The lengths of copies. The longest has a symbol of its own. -/
def lengthRanges : Array (Nat × Nat) :=
  let widths := .replicate 8 0 ++ [1, 2, 3, 4, 5].flatMap (.replicate 4 ·)
  ((ranges 3 widths).take 28 ++ [(258, 0)]).toArray

/-- The distances of copies. -/
def distanceRanges : Array (Nat × Nat) :=
  (ranges 1 ([0, 0] ++ (List.range 14).flatMap (.replicate 2 ·))).toArray

/-- Reads the rest of a number that begins with a symbol. -/
def inRange (table : Array (Nat × Nat)) (bytes : ByteArray) (symbol : Nat) : Reader Nat := do
  let (base, width) ← liftM table[symbol]?
  return base + (← number bytes width)

/-- Appends a copy of bytes that stand so far before the end. -/
def copyBack (distance : Nat) : Nat → ByteArray → ByteArray
  | 0, out => out
  | length + 1, out => copyBack distance length (out.push (out.data.getD (out.size - distance) 0))

/-- The symbol that ends a block. -/
def endOfBlock : Nat :=
  256

/-- Reads what is left of a block; `fuel` bounds the number of symbols. -/
def blockFrom (symbols distances : Code) (bytes : ByteArray) : Nat → ByteArray → Reader ByteArray
  | 0, _ => failure
  | fuel + 1, out => do
    let symbol ← symbols.symbol bytes
    if symbol < endOfBlock then blockFrom symbols distances bytes fuel (out.push (.ofNat symbol))
    else if symbol = endOfBlock then return out
    else
      let length ← inRange lengthRanges bytes (symbol - endOfBlock - 1)
      let distance ← inRange distanceRanges bytes (← distances.symbol bytes)
      if out.size < distance then failure
      blockFrom symbols distances bytes fuel (copyBack distance length out)

/-- Reads so many code lengths; repeated ones are written short. `fuel` bounds the number
of symbols. -/
def lengthsFrom (c : Code) (bytes : ByteArray) (total : Nat) : Nat → Array Nat → Reader (Array Nat)
  | 0, lengths => if lengths.size = total then return lengths else failure
  | fuel + 1, lengths => do
    if total ≤ lengths.size then return lengths
    let again (value base width : Nat) : Reader (Array Nat) := do
      let count := base + (← number bytes width)
      return lengths ++ Array.replicate count value
    let lengths ← match ← c.symbol bytes with
      | 16 => do again (← liftM lengths.back?) 3 2
      | 17 => again 0 3 3
      | 18 => again 0 11 7
      | length => pure (lengths.push length)
    lengthsFrom c bytes total fuel lengths

/-- The order in which the lengths of the words for code lengths are written. -/
def lengthOrder : List Nat :=
  [16, 17, 18, 0, 8, 7, 9, 6, 10, 5, 11, 4, 12, 3, 13, 2, 14, 1, 15]

/-- Reads the codes that a block brings. -/
def codes (bytes : ByteArray) : Reader (Code × Code) := do
  let symbols := 257 + (← number bytes 5)
  let distances := 1 + (← number bytes 5)
  let given ← (lengthOrder.take (4 + (← number bytes 4))).mapM fun symbol =>
    return (symbol, ← number bytes 3)
  let lengths := (List.range lengthOrder.length).map fun symbol => (given.lookup symbol).getD 0
  let total := symbols + distances
  let all ← lengthsFrom (.ofLengths lengths) bytes total total #[]
  return (.ofLengths (all.toList.take symbols), .ofLengths ((all.toList.take total).drop symbols))

/-- Reads bytes that stand for themselves, from the next whole byte on. -/
def stored (bytes out : ByteArray) : Reader ByteArray := do
  modify fun at_ => (at_ + 7) / 8 * 8
  let size ← number bytes 16
  let _ ← number bytes 16
  let start := (← get) / 8
  if bytes.size < start + size then failure
  set ((start + size) * 8)
  return out ++ bytes.extract start (start + size)

/-- Reads blocks up to the last one; `fuel` bounds their number. -/
def blocksFrom (bytes : ByteArray) : Nat → ByteArray → Reader ByteArray
  | 0, _ => failure
  | fuel + 1, out => do
    let last ← bit bytes
    let bound := bytes.size * 8
    let out ← match ← number bytes 2 with
      | 0 => stored bytes out
      | 1 => blockFrom .fixedSymbols .fixedDistances bytes bound out
      | 2 => do
        let (symbols, distances) ← codes bytes
        blockFrom symbols distances bytes bound out
      | _ => failure
    if last = 1 then return out else blocksFrom bytes fuel out

/-- The bytes that deflated data stands for. -/
def inflate? (bytes : ByteArray) : Option ByteArray :=
  ((blocksFrom bytes (bytes.size * 8) .empty).run 0).map Prod.fst

end Weaver.Inflate
