import Weaver.Jimple.Fault

/-!
# Values on the Command Line

The values of options that are more than plain texts.

## Main definitions

* `readReplacement`: a pattern and its replacement.
* `readMethodValue`, `readTypeValue`.
-/

namespace Weaver

/-- Why a value of an option is rejected. -/
inductive ValueFault where
  | empty
  | noPattern (value : Text)
  | noReplacement (value : Text)
  | badSignature (bad : BadSignature)
  | badType (value : Text)
deriving DecidableEq, Repr

/-- The wording of a rejected value; an empty one is rejected without words of this
library. -/
def ValueFault.message? : ValueFault → Option Text
  | empty => none
  | noPattern value => some ("empty pattern in ".toList ++ value)
  | noReplacement value => some ("expected PATTERN=REPLACEMENT, got ".toList ++ value)
  | badSignature bad => some bad.message
  | badType value => some ("invalid type ".toList ++ value)

/-- The pattern and the replacement around the first equals sign that has no backslash
before it; in the pattern, an equals sign with one stands for itself. -/
def cutReplacement? : Text → Option (Text × Text)
  | [] => none
  | '\\' :: '=' :: s => (cutReplacement? s).map fun (pattern, new) => ('=' :: pattern, new)
  | '=' :: s => some ([], s)
  | c :: s => (cutReplacement? s).map fun (pattern, new) => (c :: pattern, new)

/-- Reads a pattern and its replacement. -/
def readReplacement (value : Text) : Except ValueFault (Text × Text) :=
  if value.isEmpty then .error .empty
  else
    match cutReplacement? value with
    | some ([], _) => .error (.noPattern value)
    | some replacement => .ok replacement
    | none => .error (.noReplacement value)

/-- Reads a method reference; white space around it does not count. -/
def readMethodValue (value : Text) : Except ValueFault MethodRef :=
  if value.isEmpty then .error .empty
  else (MethodRef.read (Text.trim value)).mapError .badSignature

/-- Reads a type; white space around it does not count. -/
def readTypeValue (value : Text) : Except ValueFault Ty :=
  if value.isEmpty then .error .empty
  else
    match Ty.read? (Text.trim value) with
    | some ty => .ok ty
    | none => .error (.badType value)

end Weaver
