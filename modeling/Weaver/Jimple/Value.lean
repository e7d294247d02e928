import Weaver.Jimple.Reference
import Weaver.Jimple.StringLiteral
import Weaver.Jimple.Zone
import Weaver.Text.Decimal

/-!
# Values

Constants, invocations and the other operands and right-hand sides of statements, with
their written form and the renaming of locals.

## Main definitions

* `Constant`, `Call`, `Value`.
* `Value.text`, `Call.text`: the written form.
* `Value.rename`, `Call.rename`: replace one local by another.
-/

namespace Weaver

/-! ### Constants -/

/-- A constant operand. -/
inductive Constant where
  | int (value : Int32)
  | long (value : Int64)
  /-- A floating-point constant keeps its written form, such as `1.5F`. -/
  | float (written : Text)
  | double (written : Text)
  | string (value : Text)
  | null
  | class_ (name : Text)
deriving DecidableEq

/-- The class of string constants and text arguments. -/
def stringClass : Text :=
  "java.lang.String".toList

namespace Constant

/-- The zero of a primitive type and `null` for every other type. -/
def default : Ty → Constant
  | .boolean | .byte | .char | .short | .int => int 0
  | .long => long 0
  | .float => float "0.0F".toList
  | .double => double "0.0".toList
  | _ => null

/-- The static type of a constant. -/
def ty : Constant → Ty
  | int _ => .int
  | long _ => .long
  | float _ => .float
  | double _ => .double
  | string _ => .class_ stringClass
  | null => .null
  | class_ _ => .class_ "java.lang.Class".toList

/-- The written form of a constant. -/
def text : Constant → Text
  | int value => intText value.toInt
  | long value => intText value.toInt ++ "L".toList
  | float written => written
  | double written => written
  | string value => '"' :: StringLiteral.escape value ++ "\"".toList
  | null => "null".toList
  | class_ name => "class \"".toList ++ name ++ "\"".toList

end Constant

/-! ### Invocations and values -/

/-- How the method of an invocation is found. -/
inductive CallKind where
  | virtual
  | special
  | interface
  | static
deriving DecidableEq, Repr

namespace CallKind

/-- The word that begins an invocation of this kind. -/
def keyword : CallKind → Text
  | virtual => "virtualinvoke".toList
  | special => "specialinvoke".toList
  | interface => "interfaceinvoke".toList
  | static => "staticinvoke".toList

/-- The kind of invocation that a word begins. -/
def ofKeyword? (word : Text) : Option CallKind :=
  [virtual, special, interface, static].find? fun kind => kind.keyword == word

end CallKind

/-- An invocation with arguments of type `α`. Only static ones have no receiver. -/
structure Call (α : Type) where
  kind : CallKind
  base : Option Text
  method : MethodRef
  args : List α

/-- An operand or right-hand side of a statement. -/
inductive Value where
  /-- A local variable. -/
  | var (name : Text)
  | const (c : Constant)
  /-- The allocation of an object. -/
  | alloc (cls : ClassName)
  | instanceField (base : Text) (field : FieldRef)
  | staticField (field : FieldRef)
  | call (e : Call Value)
  /-- Any other expression, in its written form. -/
  | verbatim (code : Text)

/-- An invocation of a method on values. -/
abbrev Invocation := Call Value

/-! ### Written form -/

/-- The written form of an invocation whose arguments are written already. -/
def Call.render (e : Call Text) : Text :=
  let target :=
    match e.base with
    | some base => base ++ '.' :: e.method.text
    | none => e.method.text
  e.kind.keyword ++ ' ' :: target ++ '(' :: Text.join ", ".toList e.args ++ ")".toList

mutual

/-- The written form of a value. -/
def Value.text : Value → Text
  | .var name => name
  | .const c => c.text
  | .alloc cls => "new ".toList ++ cls.chars
  | .instanceField base field => base ++ '.' :: field.text
  | .staticField field => field.text
  | .call ⟨kind, base, method, args⟩ => Call.render ⟨kind, base, method, Value.texts args⟩
  | .verbatim code => code

/-- The written forms of a list of values. -/
def Value.texts : List Value → List Text
  | [] => []
  | v :: vs => Value.text v :: Value.texts vs

end

/-- The texts of some values are those of each of them. -/
theorem Value.texts_eq_map (vs : List Value) : Value.texts vs = vs.map Value.text := by
  induction vs with
  | nil => rfl
  | cons v vs ih => simp [Value.texts, ih]

/-- The written form of an invocation. -/
def Call.text (e : Invocation) : Text :=
  Call.render ⟨e.kind, e.base, e.method, e.args.map Value.text⟩

/-- A call is written like the invocation that it is. -/
theorem Value.text_call (e : Invocation) : (Value.call e).text = e.text := by
  obtain ⟨kind, base, method, args⟩ := e
  rw [Value.text, Call.text, Value.texts_eq_map]

/-! ### Renaming -/

/-- Replaces the name `old` by `new`. -/
def renameName (old new name : Text) : Text :=
  if name = old then new else name

mutual

/-- Replaces the local `old` by `new` in a value. -/
def Value.rename (old new : Text) : Value → Value
  | .var name => .var (renameName old new name)
  | .instanceField base field => .instanceField (renameName old new base) field
  | .call ⟨kind, base, method, args⟩ =>
    .call ⟨kind, base.map (renameName old new), method, Value.renameAll old new args⟩
  | .verbatim code => .verbatim (Text.renameWord old new code)
  | .const c => .const c
  | .alloc cls => .alloc cls
  | .staticField field => .staticField field

/-- Replaces the local `old` by `new` in each of the values. -/
def Value.renameAll (old new : Text) : List Value → List Value
  | [] => []
  | v :: vs => Value.rename old new v :: Value.renameAll old new vs

end

/-- Renaming in some values renames in each of them. -/
theorem Value.renameAll_eq_map (old new : Text) (vs : List Value) :
    Value.renameAll old new vs = vs.map (Value.rename old new) := by
  induction vs with
  | nil => rfl
  | cons v vs ih => simp [Value.renameAll, ih]

/-- Replaces the local `old` by `new` as the receiver and in the arguments. -/
def Call.rename (old new : Text) (e : Invocation) : Invocation :=
  { e with base := e.base.map (renameName old new), args := e.args.map (Value.rename old new) }

/-- Renaming in a call renames in the invocation that it is. -/
theorem Value.rename_call (old new : Text) (e : Invocation) :
    (Value.call e).rename old new = .call (e.rename old new) := by
  obtain ⟨kind, base, method, args⟩ := e
  simp [Value.rename, Call.rename, Value.renameAll_eq_map]

end Weaver
