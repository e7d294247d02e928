import Weaver.Jimple.Body

/-!
# Classes

Classes with their fields and methods.

## Main definitions

* `Modifier`, with its keyword.
* `Field`, `Method`, `Class`.
-/

namespace Weaver

/-! ### Modifiers -/

/-- A modifier of a class or member. -/
inductive Modifier where
  | pub
  | priv
  | prot
  | static
  | final
  | abstract
  | native
  | synchronized
  | transient
  | volatile
  | strictfp
  | synthetic
  | enum
deriving DecidableEq, Repr

namespace Modifier

/-- All modifiers. -/
def all : List Modifier :=
  [pub, priv, prot, static, final, abstract, native, synchronized, transient, volatile, strictfp,
    synthetic, enum]

/-- The keyword of a modifier. -/
def keyword : Modifier → Text
  | pub => "public".toList
  | priv => "private".toList
  | prot => "protected".toList
  | static => "static".toList
  | final => "final".toList
  | abstract => "abstract".toList
  | native => "native".toList
  | synchronized => "synchronized".toList
  | transient => "transient".toList
  | volatile => "volatile".toList
  | strictfp => "strictfp".toList
  | synthetic => "synthetic".toList
  | enum => "enum".toList

/-- The modifier that a word names. -/
def ofKeyword? (word : Text) : Option Modifier :=
  all.find? fun m => m.keyword == word

/-- Modifiers are read back from their keywords. -/
theorem ofKeyword?_keyword (m : Modifier) : ofKeyword? m.keyword = some m := by
  cases m <;> rfl

end Modifier

/-- The keywords of modifiers, with a space between neighbours. -/
def modifiersText (ms : List Modifier) : Text :=
  Text.join " ".toList (ms.map Modifier.keyword)

/-! ### Members -/

/-- A field of a class. -/
structure Field where
  name : Text
  ty : Ty
  modifiers : List Modifier
deriving DecidableEq, Repr

namespace Field

/-- Whether the field belongs to the class and not to its objects. -/
def isStatic (f : Field) : Bool :=
  f.modifiers.contains .static

/-- The reference to the field as a member of a class. -/
def refIn (f : Field) (cls : ClassName) : FieldRef :=
  { cls, ty := f.ty, name := f.name }

end Field

/-- A method of a class; abstract and native ones have no body. -/
structure Method where
  sig : Signature
  modifiers : List Modifier
  throws : List ClassName
  body : Option Body

namespace Method

/-- Whether the method belongs to the class and not to its objects. -/
def isStatic (m : Method) : Bool :=
  m.modifiers.contains .static

/-- Whether the method is declared abstract. -/
def isAbstract (m : Method) : Bool :=
  m.modifiers.contains .abstract

end Method

/-! ### Classes -/

/-- A class or interface. -/
structure Class where
  name : ClassName
  modifiers : List Modifier
  isInterface : Bool
  superclass : Option ClassName
  interfaces : List ClassName
  fields : List Field
  methods : List Method

namespace Class

/-- Whether the class cannot be instantiated. -/
def isAbstract (c : Class) : Bool :=
  c.isInterface || c.modifiers.contains .abstract

/-- The first method of that signature. -/
def method? (c : Class) (sig : Signature) : Option Method :=
  c.methods.find? fun m => m.sig == sig

/-- Whether the class itself declares a method of that signature. -/
def declares (c : Class) (sig : Signature) : Bool :=
  (c.method? sig).isSome

/-- The first field of that name. -/
def field? (c : Class) (name : Text) : Option Field :=
  c.fields.find? fun f => f.name == name

/-- The reference to a signature as a member of the class. -/
def refTo (c : Class) (sig : Signature) : MethodRef :=
  { cls := c.name, sig }

/-- Puts a body under the first method of a signature. -/
def setBody (sig : Signature) (body : Body) : List Method → List Method
  | [] => []
  | m :: ms => if m.sig = sig then { m with body := some body } :: ms else m :: setBody sig body ms

end Class

end Weaver
