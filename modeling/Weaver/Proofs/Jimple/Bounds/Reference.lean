import Weaver.Jimple.Reference
import Weaver.Proofs.Text.Offsets

/-!
# Reading References at Byte Offsets

A signature is split at the byte offset of its last opening parenthesis. The parenthesis goes with
the parameters, which must begin with it; that they do is one of the checks of the reader.

## Main definitions

* `ByteReader.signature?`, `ByteReader.methodRef?`.

## Main results

* `ByteReader.signature?_eq`, `ByteReader.methodRef?_eq`: **signatures and references to methods are
  read without a stop**.
-/

namespace Weaver.ByteReader

open Text

/-- The signature with that return type, name and parameters in parentheses. -/
def signatureOfParts? (ret name params : Text) : Option Signature := do
  let params ← stripPrefix? "(".toList params
  let params ← stripSuffix? ")".toList params
  let params ← Signature.readParams? params
  let name := trim name
  if name = [] then none
  let ret ← Ty.read? ret
  return { ret, name, params }

/-- Reads a signature, blaming the whole text if it is none. -/
def signature? (s : Text) : Option (Except BadSignature Signature) :=
  match cutAtChar? ' ' (trim s) with
  | none => some (.error ⟨s⟩)
  | some (ret, rest) =>
    match findLast? '(' rest with
    | none => some (.error ⟨s⟩)
    | some opening => do
      let name ← sliceTo? opening rest
      let params ← sliceFrom? opening rest
      return (signatureOfParts? ret name params).elim (.error ⟨s⟩) .ok

/-- Reads a reference to a method. -/
def methodRef? (s : Text) : Option (Except BadSignature MethodRef) :=
  match cutReference? s with
  | none => some (.error ⟨s⟩)
  | some (cls, member) =>
    (signature? member).map fun sig => sig.map fun sig => { cls := ⟨cls⟩, sig }

/-- **Signatures** are read without a stop. -/
theorem signature?_eq (s : Text) : signature? s = some (Signature.read s) := by
  have hread : Signature.read s = (Signature.read? s).elim (.error ⟨s⟩) .ok := by
    rw [Signature.read]
    cases Signature.read? s <;> rfl
  rw [hread, signature?, Signature.read?]
  cases cutAtChar? ' ' (trim s) with
  | none => rfl
  | some found =>
    obtain ⟨ret, rest⟩ := found
    simp only [findLast?, Option.bind_eq_bind, Option.bind_some]
    cases hlast : cutAtLast? '(' rest with
    | none => rfl
    | some found =>
      obtain ⟨name, params⟩ := found
      obtain ⟨rfl, -⟩ := cutAtLast?_eq_some hlast
      simp only [Option.map_some, sliceTo?_append, sliceFrom?_append]
      -- The parameters begin with the parenthesis at which the text was split.
      rfl

/-- **References to methods** are read without a stop. -/
theorem methodRef?_eq (s : Text) : methodRef? s = some (MethodRef.read s) := by
  rw [methodRef?, MethodRef.read]
  cases cutReference? s with
  | none => rfl
  | some found =>
    obtain ⟨cls, member⟩ := found
    dsimp only
    rw [signature?_eq]
    cases Signature.read member <;> rfl

end Weaver.ByteReader
