import Weaver.Text.CharSet
import Weaver.Text.Decimal

/-!
# Run-Length Tables

A property of all code points is written as a row of runs: a code of letters followed by
the number of code points that have it, from code point zero on.

## Main definitions

* `readRuns`: the runs of a written table.
* `pointsWith`: the code points whose code is selected.
-/

namespace Weaver

/-- Reads runs; `code` is the code that has been read so far and `count` the digits behind
it. -/
def readRunsFrom (code count : Text) : Text → List (Text × Nat)
  | [] => if code = [] then [] else [(code, natOfDigits count)]
  | c :: s =>
    if c.isDigit then readRunsFrom code (count ++ [c]) s
    else if count = [] then readRunsFrom (code ++ [c]) [] s
    else (code, natOfDigits count) :: readRunsFrom [c] [] s

/-- The runs of a written table. -/
def readRuns (table : Text) : List (Text × Nat) :=
  readRunsFrom [] [] table

/-- The ranges of the selected runs; the first run begins at `start`. -/
def selectRuns (select : Text → Bool) (start : Nat) : List (Text × Nat) → List (Nat × Nat)
  | [] => []
  | (code, count) :: rest =>
    let others := selectRuns select (start + count) rest
    if select code then (start, start + count - 1) :: others else others

/-- The code points whose code is selected. -/
def pointsWith (select : Text → Bool) (runs : List (Text × Nat)) : CharSet :=
  CharSet.ofRanges (selectRuns select 0 runs)

end Weaver
