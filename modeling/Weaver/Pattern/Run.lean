import Weaver.Pattern.Program

/-!
# Running Pattern Programs

All threads of a program move through the text together, in the order of preference. Of
two threads at one place of the program only the first can matter.

## Main definitions

* `Look.holds`: assertions.
* `PatternRun.settle`: the threads that wait for a character.
* `PatternRun.search`: the slots of the first match.
-/

namespace Weaver

/-! ### Assertions -/

/-- Whether a character belongs to a word. -/
def isWordMember (unicode : Bool) (c : Char) : Bool :=
  if unicode then wordSet.contains c else asciiWordSet.contains c

namespace WordAssertion

/-- Whether the assertion holds between words and other text. -/
def holds (before after : Bool) : WordAssertion → Bool
  | boundary => before != after
  | notBoundary => before == after
  | start => !before && after
  | stop => before && !after
  | startHalf => !before
  | stopHalf => !after

end WordAssertion

/-- Whether an assertion holds between two characters; there is none at the ends of the
text. -/
def Look.holds (before after : Option Char) : Look → Bool
  | textStart => before.isNone
  | textEnd => after.isNone
  | lineStart => before.isNone || before == some '\n'
  | lineEnd => after.isNone || after == some '\n'
  | crlfLineStart =>
    before.isNone || before == some '\n' || (before == some '\r' && after != some '\n')
  | crlfLineEnd =>
    after.isNone || after == some '\r' || (after == some '\n' && before != some '\r')
  | word kind unicode =>
    kind.holds (before.any (isWordMember unicode)) (after.any (isWordMember unicode))

/-! ### Threads -/

/-- The places that a thread has noted, by slot. -/
abbrev Slots := Array (Option Nat)

/-- A thread: its place in the program and its slots. -/
structure PatternThread where
  place : Nat
  slots : Slots

namespace PatternRun

/-- A place in the text: the characters around it and its number. -/
structure Spot where
  before : Option Char
  after : Option Char
  index : Nat

/-- Lets threads go on until each waits for a character or has accepted; `pending` holds
those that have to move, `seen` tells which places of the program have been met, and
`waiting` holds the threads that have stopped, the last one first. A thread that comes to a
place where another one was before is dropped. `fuel` bounds the number of moves. -/
def settleFrom (program : Array Instruction) (spot : Spot) :
    Nat → List PatternThread → Array Bool → List PatternThread → List PatternThread
  | 0, _, _, waiting => waiting
  | _, [], _, waiting => waiting
  | fuel + 1, t :: pending, seen, waiting =>
    if seen.getD t.place true then settleFrom program spot fuel pending seen waiting
    else
      let seen := seen.setIfInBounds t.place true
      match program[t.place]? with
      | none => settleFrom program spot fuel pending seen waiting
      | some (.chars _) | some .accept =>
        settleFrom program spot fuel pending seen (t :: waiting)
      | some (.look l) =>
        if l.holds spot.before spot.after then
          settleFrom program spot fuel ({ t with place := t.place + 1 } :: pending) seen waiting
        else settleFrom program spot fuel pending seen waiting
      | some (.fork first second) =>
        settleFrom program spot fuel
          ({ t with place := first } :: { t with place := second } :: pending) seen waiting
      | some (.jump target) =>
        settleFrom program spot fuel ({ t with place := target } :: pending) seen waiting
      | some (.note slot) =>
        let slots := t.slots.setIfInBounds slot (some spot.index)
        settleFrom program spot fuel ({ place := t.place + 1, slots } :: pending) seen waiting

/-- The threads that wait at a spot, in order of preference. Every place of the program is
entered at most once, which bounds the number of moves. -/
def settle (program : Array Instruction) (spot : Spot) (threads : List PatternThread) :
    List PatternThread :=
  let fuel := threads.length + 2 * program.size + 1
  (settleFrom program spot fuel threads (Array.replicate program.size false) []).reverse

/-- Lets the waiting threads take a character. The first thread that has accepted gives its
slots, and the threads behind it do not count any more. -/
def take (program : Array Instruction) (c : Option Char) :
    List PatternThread → List PatternThread × Option Slots
  | [] => ([], none)
  | t :: rest =>
    match program[t.place]? with
    | some .accept => ([], some t.slots)
    | some (.chars set) =>
      let (threads, found) := take program c rest
      if c.any set.contains then ({ t with place := t.place + 1 } :: threads, found)
      else (threads, found)
    | _ => take program c rest

/-- Searches from a place of the text on: `threads` are on their way, `best` is what the
preferred finished thread has found. -/
def searchFrom (program : Array Instruction) (start : PatternThread) (before : Option Char)
    (index : Nat) (threads : List PatternThread) (best : Option Slots) : Text → Option Slots
  | [] =>
    let threads := if best.isNone then threads ++ [start] else threads
    let (_, found) :=
      take program none (settle program { before, after := none, index } threads)
    found.or best
  | c :: s =>
    let threads := if best.isNone then threads ++ [start] else threads
    let (threads, found) :=
      take program (some c) (settle program { before, after := some c, index } threads)
    let best := found.or best
    if threads.isEmpty && best.isSome then best
    else searchFrom program start (some c) (index + 1) threads best s

/-- The slots of the leftmost match that is preferred among those that begin there. -/
def search (program : Array Instruction) (slots : Nat) (s : Text) : Option Slots :=
  searchFrom program { place := 0, slots := Array.replicate slots none } none 0 [] none s

end PatternRun

end Weaver
