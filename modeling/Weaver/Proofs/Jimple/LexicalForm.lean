import Weaver.Jimple.Printer
import Weaver.Jimple.Reader.Class

/-!
# Lexically Well-Formed Classes

The classes whose written form the reader takes apart where the printer put it together.
Names are words of the right characters that stand for nothing else, numbers have the form
of numbers, and code that is kept verbatim is claimed by no other form.

Nothing is asked of what the code means: locals need not be declared, labels may be missing,
and types may disagree.

## Main definitions

* `ClassName.WellFormed`, `IsLocal`, `IsMethodName`: names.
* `Value.IsOperand`, `Value.IsTarget`, `Value.IsSource`: what may stand where in a statement.
* `IsPlainCode`, `IsSwitchBlock`: verbatim statements.
* `Body.WellFormed`, `Class.WellFormed`.
-/

namespace Weaver

/-! ### Names -/

/-- The words that no class is called by: types, modifiers, the words of headers and those
that begin statements. -/
def reservedWords : List Text :=
  Ty.named.map Ty.text ++ Modifier.all.map Modifier.keyword ++
    ["class".toList, "interface".toList, "extends".toList, "implements".toList,
      "throws".toList] ++ stmtKeywords

/-- The name of a class: characters of names, the first one neither a point nor a digit, and
no reserved word. -/
structure ClassName.WellFormed (c : ClassName) : Prop where
  chars : ∀ d ∈ c.chars, Ty.isNameChar d = true
  head : ∃ d rest, c.chars = d :: rest ∧ isWordChar d = true ∧ d.isDigit = false
  free : c.chars ∉ reservedWords

/-- The classes of a type are well formed. -/
def Ty.WellFormed : Ty → Prop
  | .ref cls => cls.WellFormed
  | .array elem => elem.WellFormed
  | _ => True

/-- A non-empty word of letters, digits, underscores and dollar signs. -/
def IsWord (s : Text) : Prop :=
  s ≠ [] ∧ ∀ c ∈ s, isWordChar c = true

/-- The name of a method: a word, or that of an initializer. -/
def IsMethodName (s : Text) : Prop :=
  IsWord s ∨ s = constructorName ∨ s = "<clinit>".toList

/-- A signature with well-formed types and the name of a method. -/
structure Signature.WellFormed (sig : Signature) : Prop where
  ret : sig.ret.WellFormed
  name : IsMethodName sig.name
  params : ∀ ty ∈ sig.params, ty.WellFormed

/-- A reference to a method whose class and signature are well formed. -/
structure MethodRef.WellFormed (m : MethodRef) : Prop where
  cls : m.cls.WellFormed
  sig : m.sig.WellFormed

/-- A reference to a field whose class and type are well formed and whose name is a word. -/
structure FieldRef.WellFormed (f : FieldRef) : Prop where
  cls : f.cls.WellFormed
  ty : f.ty.WellFormed
  name : IsWord f.name

/-- Whether a line begins like a switch. -/
def beginsSwitch (s : Text) : Bool :=
  Text.startsWith s "tableswitch".toList || Text.startsWith s "lookupswitch".toList

/-- The name of a local that is not taken for `null`, for the first word of a statement or
for a switch. -/
structure IsLocal (name : Text) : Prop where
  form : isLocalName name = true
  notNull : name ≠ "null".toList
  free : name ∉ stmtKeywords
  notSwitch : beginsSwitch name = false

/-! ### Values -/

/-- A constant whose written form is that of its kind. -/
def Constant.WellFormed : Constant → Prop
  | .float written => isFloatText written = true
  | .double written => isDoubleText written = true
  | .class_ name => ∀ c ∈ name, c ≠ '"' ∧ c ≠ '\\' ∧ c ≠ '\n'
  | .int _ | .long _ | .string _ | .null => True

/-- A value that may be passed and returned. -/
def Value.IsOperand : Value → Prop
  | .var name => IsLocal name
  | .const c => c.WellFormed
  | .alloc cls => cls.WellFormed
  | .instanceField base field => IsLocal base ∧ field.WellFormed
  | .staticField field => field.WellFormed
  | .call _ | .verbatim _ => False

/-- An invocation of operands; exactly the static ones have no receiver. -/
structure Call.WellFormed (e : Invocation) : Prop where
  static : e.base = none ↔ e.kind = .static
  base : ∀ name ∈ e.base, IsLocal name
  method : e.method.WellFormed
  args : ∀ v ∈ e.args, v.IsOperand

/-- Code whose first word does not begin an invocation. -/
def IsNoCall (code : Text) : Prop :=
  ∀ word rest, Text.cutAtChar? ' ' code = some (word, rest) → CallKind.ofKeyword? word = none

/-- Verbatim code of an expression, such as a cast, an arithmetic operation or an element of
an array: on one line, without white space around it, and of none of the other forms. -/
structure IsExpression (code : Text) : Prop where
  line : '\n' ∉ code
  trimmed : Text.trim code = code
  noCall : IsNoCall code
  other : Value.readSimple code = .verbatim code

/-- A value that an assignment may take from. -/
def Value.IsSource (v : Value) : Prop :=
  v.IsOperand ∨ (∃ e : Invocation, v = .call e ∧ e.WellFormed) ∨
    ∃ code, v = .verbatim code ∧ IsExpression code

/-! ### Statements -/

/-- One line that is neither blank nor a comment and does not begin like a switch. -/
structure IsStmtLine (code : Text) : Prop where
  line : '\n' ∉ code
  head : ∃ c rest, code = c :: rest ∧ isBlank c = false
  notComment : Text.startsWith code "//".toList = false
  notSwitch : beginsSwitch code = false

/-- A line that is no return, no identity statement and no invocation. -/
structure IsPlainLine (code : Text) : Prop extends IsStmtLine code where
  notReturn : code ≠ "return".toList ∧ Text.startsWith code "return ".toList = false
  notIdentity : identityParts? code = none
  noCall : IsNoCall code

/-- Verbatim code of a statement on one line, such as a branch or a monitor: a plain line
without an assignment. -/
structure IsPlainCode (code : Text) : Prop extends IsPlainLine code where
  notAssign : Text.cutOutside? " = ".toList .outside code = none

/-- Verbatim code of a switch: its first line begins like one and is no label, all lines
count and have no white space around them, and the brace that ends the last line is the only
one with a semicolon. -/
def IsSwitchBlock (code : Text) : Prop :=
  ∃ first cases, code = Text.join "\n".toList (first :: cases ++ [closingBrace]) ∧
    beginsSwitch first = true ∧ labelName? first = none ∧
    ∀ line ∈ first :: cases, '\n' ∉ line ∧ Text.trim line = line ∧ isSignificant line = true ∧
      line ≠ closingBrace ++ ";".toList

/-- A value to which a statement may assign `rhs`: a local, a field, or an expression with
which the statement is still recognised as an assignment to it. -/
def Value.IsTarget (lhs rhs : Value) : Prop :=
  match lhs with
  | .var name => IsLocal name
  | .instanceField base field => IsLocal base ∧ field.WellFormed
  | .staticField field => field.WellFormed
  | .verbatim code => IsExpression code ∧
      Text.cutOutside? " = ".toList .outside (code ++ " = ".toList) = some (code, []) ∧
      IsPlainLine (code ++ " = ".toList ++ rhs.text)
  | .const _ | .alloc _ | .call _ => False

/-- The types of an identity statement are well formed. -/
def IdentityRhs.WellFormed : IdentityRhs → Prop
  | .this ty => ty.WellFormed
  | .parameter _ ty => ty.WellFormed
  | .caughtException => True

/-- The lexical form of a statement, by its kind. -/
def Stmt.WellFormed : Stmt → Prop
  | .identity name rhs => IsLocal name ∧ rhs.WellFormed
  | .assign lhs rhs => lhs.IsTarget rhs ∧ rhs.IsSource
  | .invoke e => e.WellFormed
  | .ret value => ∀ v ∈ value, v.IsOperand
  | .label name => isLabelName name = true
  | .verbatim code => IsPlainCode code ∨ IsSwitchBlock code

/-! ### Bodies and classes -/

/-- The line on which verbatim code begins. -/
def verbatimLine (code : Text) : Text :=
  if '\n' ∈ code then (Text.lines code).headD [] else code ++ ";".toList

/-- A body of well-formed statements whose locals are declared once each, under names of locals. -/
structure Body.WellFormed (b : Body) : Prop where
  locals : ∀ l ∈ b.locals, isLocalName l.name = true ∧ l.ty.WellFormed
  distinct : (b.locals.map Local.name).Nodup
  stmts : ∀ s ∈ b.statements, s.WellFormed
  /-- Verbatim code in front is not taken for one more declaration. -/
  first : ∀ code, b.statements.head? = some (.verbatim code) →
    readDeclaration? (verbatimLine code) = none

/-- A method of the class `c` whose names and body are well formed. The body knows its method. -/
structure Method.WellFormed (c : Class) (m : Method) : Prop where
  sig : m.sig.WellFormed
  throws : ∀ name ∈ m.throws, name.WellFormed
  owner : ∀ b, m.body = some b → b.method = c.refTo m.sig
  body : ∀ b, m.body = some b → b.WellFormed

/-- **Well-formed classes**: all names, types and bodies in them are well formed. -/
structure Class.WellFormed (c : Class) : Prop where
  name : c.name.WellFormed
  superclass : ∀ name ∈ c.superclass, name.WellFormed
  interfaces : ∀ name ∈ c.interfaces, name.WellFormed
  fields : ∀ f ∈ c.fields, IsWord f.name ∧ f.ty.WellFormed
  methods : ∀ m ∈ c.methods, m.WellFormed c

end Weaver
