import Weaver.Jimple.Type

/-!
# Signatures and Member References

A method is known within its class by its signature, such as
`void onCreate(android.os.Bundle)`, and everywhere by a reference that names the class as
well, such as `<com.example.Main: void onCreate(android.os.Bundle)>`. Fields are
referenced in the same way.

## Main definitions

* `Signature`, `MethodRef`, `FieldRef`, each with `text` and `read`.
* `SignatureSet`: signatures in order.
* `BadSignature`: what a failing reader blames.
-/

namespace Weaver

/-- A text that is no signature or no reference. -/
structure BadSignature where
  text : Text
deriving DecidableEq, Repr

/-! ### Signatures -/

/-- The name that a class gives its constructors. -/
def constructorName : Text :=
  "<init>".toList

/-- Return type, name and parameter types of a method. -/
structure Signature where
  ret : Ty
  name : Text
  params : List Ty
deriving DecidableEq, Repr, Inhabited

namespace Signature

/-- The written form `ret name(param,param)`. -/
def text (sig : Signature) : Text :=
  sig.ret.text ++ ' ' :: sig.name ++
    '(' :: Text.join ",".toList (sig.params.map Ty.text) ++ ")".toList

/-- Whether the method builds new objects. -/
def isConstructor (sig : Signature) : Bool :=
  sig.name == constructorName

/-- The parameter types between the parentheses of a signature; blanks alone are the
empty list. -/
def readParams? (s : Text) : Option (List Ty) :=
  if Text.trim s = [] then some [] else (Text.splitOn ',' s).mapM Ty.read?

/-- Reads a signature: the return type ends at the first space, the parameters start at
the last opening parenthesis. -/
def read? (s : Text) : Option Signature := do
  let (ret, rest) ← Text.cutAtChar? ' ' (Text.trim s)
  let (name, params) ← Text.cutAtLast? '(' rest
  let params ← Text.stripSuffix? ")".toList params
  let params ← readParams? params
  let name := Text.trim name
  if name = [] then none
  let ret ← Ty.read? ret
  return { ret, name, params }

/-- Reads a signature, blaming the whole text if it is none. -/
def read (s : Text) : Except BadSignature Signature :=
  match read? s with
  | some sig => .ok sig
  | none => .error ⟨s⟩

/-- Signatures are ordered by return type, then name, then parameters. -/
def compare (a b : Signature) : Ordering :=
  match a.ret.compare b.ret with
  | .lt => .lt
  | .gt => .gt
  | .eq =>
    match Text.compare a.name b.name with
    | .lt => .lt
    | .gt => .gt
    | .eq => compareLists Ty.compare a.params b.params

/-- Signatures are compared by their return types, then by their names and by their parameters. -/
theorem compare_eq_then (a b : Signature) :
    compare a b = (a.ret.compare b.ret).then
      ((Text.compare a.name b.name).then (compareLists Ty.compare a.params b.params)) := by
  unfold compare
  split <;> simp_all [Ordering.then]
  split <;> simp_all

instance : Std.TransCmp compare := by
  have := transCmp_on ret Ty.compare
  have := transCmp_on name Text.compare
  have := transCmp_on params (compareLists Ty.compare)
  have h : compare = compareLex (fun a b => a.ret.compare b.ret)
      (compareLex (fun a b => Text.compare a.name b.name)
        fun a b => compareLists Ty.compare a.params b.params) :=
    funext fun a => funext fun b => compare_eq_then a b
  rw [h]
  infer_instance

end Signature

/-- Signatures in increasing order, each once. -/
structure SignatureSet where
  toList : List Signature
  increasing : Increasing Signature.compare toList

namespace SignatureSet

/-- The set without signatures. -/
def empty : SignatureSet :=
  { toList := [], increasing := List.Pairwise.nil }

/-- The set of the signatures in a list. -/
def ofList (sigs : List Signature) : SignatureSet :=
  { toList := sortedOfList Signature.compare sigs
    increasing := increasing_sortedOfList Signature.compare sigs }

end SignatureSet

/-! ### References -/

/-- The class and the member of a reference `<class: member>`. -/
def cutReference? (s : Text) : Option (Text × Text) := do
  let inner ← Text.stripPrefix? "<".toList (Text.trim s)
  let inner ← Text.stripSuffix? ">".toList inner
  let (cls, member) ← Text.cutAt? ": ".toList inner
  return (Text.trim cls, member)

/-- A method of a class. -/
structure MethodRef where
  cls : ClassName
  sig : Signature
deriving DecidableEq, Repr, Inhabited

namespace MethodRef

/-- The written form `<class: signature>`. -/
def text (m : MethodRef) : Text :=
  '<' :: m.cls.chars ++ ": ".toList ++ m.sig.text ++ ">".toList

/-- Reads a method reference. The blame falls on the signature alone when only that is
wrong. -/
def read (s : Text) : Except BadSignature MethodRef :=
  match cutReference? s with
  | none => .error ⟨s⟩
  | some (cls, member) => do
    let sig ← Signature.read member
    return { cls := ⟨cls⟩, sig }

end MethodRef

/-- A field of a class. -/
structure FieldRef where
  cls : ClassName
  ty : Ty
  name : Text
deriving DecidableEq, Repr, Inhabited

namespace FieldRef

/-- The written form `<class: type name>`. -/
def text (f : FieldRef) : Text :=
  '<' :: f.cls.chars ++ ": ".toList ++ f.ty.text ++ ' ' :: f.name ++ ">".toList

/-- Reads a field reference: the name follows the last space. -/
def read? (s : Text) : Option FieldRef := do
  let (cls, member) ← cutReference? s
  let (ty, name) ← Text.cutAtLast? ' ' (Text.trim member)
  let ty ← Ty.read? ty
  return { cls := ⟨cls⟩, ty, name }

/-- Reads a field reference, blaming the whole text if it is none. -/
def read (s : Text) : Except BadSignature FieldRef :=
  match read? s with
  | some f => .ok f
  | none => .error ⟨s⟩

end FieldRef

end Weaver
