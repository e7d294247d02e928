import Weaver.Error
import Weaver.Text.Blank
import Weaver.Text.Utf8

/-!
# What Commands Leave

The status that a command ends with and what it has written.

## Main definitions

* `ExitStatus`, `CommandOutput`.
* `CommandOutput.check`: an error unless the command succeeded.
-/

namespace Weaver

/-- The status of a finished command as a wait status: the number of a signal in its low
seven bits, or else the exit code in the second byte. -/
structure ExitStatus where
  wait : Nat
deriving DecidableEq, Repr

namespace ExitStatus

/-- The status of a command that ended with a code. -/
def ofCode (code : Nat) : ExitStatus :=
  ⟨code * 0x100⟩

/-- Whether the command succeeded. -/
def isSuccess (s : ExitStatus) : Bool :=
  s.wait == 0

/-- The code that the command ended with, unless a signal ended it. -/
def code? (s : ExitStatus) : Option Nat :=
  if s.wait % 0x80 = 0 then some (s.wait / 0x100 % 0x100) else none

end ExitStatus

/-- What a finished command leaves. -/
structure CommandOutput where
  status : ExitStatus
  stdout : Utf8.Bytes
  stderr : Utf8.Bytes

namespace CommandOutput

/-- The number that errors report: the code, or minus one after a signal. -/
def reportedCode (o : CommandOutput) : Int :=
  match o.status.code? with
  | some code => code
  | none => -1

/-- The output itself if the command succeeded. -/
def check (o : CommandOutput) : Except Error CommandOutput :=
  if o.status.isSuccess then .ok o
  else .error (.command o.reportedCode (Text.trim (Utf8.decodeLossy o.stderr)))

end CommandOutput

end Weaver
