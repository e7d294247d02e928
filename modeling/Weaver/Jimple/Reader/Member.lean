import Weaver.Jimple.Class
import Weaver.Jimple.Reader.Line

/-!
# Reading Headers and Fields

The lines that introduce a class, a field or a method.

## Main definitions

* `Class.readHeader`, `Field.read`, `Method.readHeader`.
-/

namespace Weaver

/-- The modifiers that a list of words begins with, and the other words. -/
def takeModifiers : List Text → List Modifier × List Text
  | [] => ([], [])
  | word :: rest =>
    match Modifier.ofKeyword? word with
    | some m => let (ms, words) := takeModifiers rest; (m :: ms, words)
    | none => ([], word :: rest)

/-- The class names of a list with commas; empty entries do not count. -/
def readClassList (s : Text) : List ClassName :=
  (((Text.splitOn ',' s).map Text.trim).filter fun name => !name.isEmpty).map ClassName.mk

/-! ### Classes -/

/-- The superclass that the words between name and interfaces give. -/
def readExtends : List Text → Except ReadFault (Option ClassName)
  | [] => .ok none
  | [word, superclass] =>
    if word = "extends".toList then .ok (some ⟨superclass⟩)
    else .error (.strayHeaderWords (Text.join " ".toList [word, superclass]))
  | words => .error (.strayHeaderWords (Text.join " ".toList words))

/-- Reads the words behind the name of a class: superclass and interfaces. -/
def readAncestors (words : List Text) : Except ReadFault (Option ClassName × List ClassName) :=
  let isBreak (word : Text) := word == "implements".toList
  match readExtends (words.takeWhile fun word => !isBreak word) with
  | .error why => .error why
  | .ok superclass =>
    let list := (words.dropWhile fun word => !isBreak word).drop 1
    .ok (superclass, readClassList (Text.join " ".toList list))

/-- Whether the word that introduces a class introduces an interface. -/
def readClassKeyword : List Text → Except ReadFault (Bool × List Text)
  | [] => .error .noClassKeyword
  | word :: rest =>
    if word = "class".toList then .ok (false, rest)
    else if word = "interface".toList then .ok (true, rest)
    else .error .noClassKeyword

/-- Reads the line that introduces a class. -/
def Class.readHeader (line : Text) : Except ReadFault Class :=
  let (modifiers, words) := takeModifiers (Text.words line)
  match readClassKeyword words with
  | .error why => .error why
  | .ok (_, []) => .error .noClassName
  | .ok (isInterface, name :: rest) => do
    let (superclass, interfaces) ← readAncestors rest
    return { name := ⟨name⟩, modifiers, isInterface, superclass, interfaces, fields := [],
             methods := [] }

/-! ### Fields -/

/-- Reads the declaration of a field. -/
def Field.read (line : Text) : Except ReadFault Field :=
  match Text.stripSuffix? ";".toList line with
  | none => .error .fieldEnd
  | some decl =>
    match takeModifiers (Text.words decl) with
    | (modifiers, [ty, name]) =>
      match Ty.read? ty with
      | some ty => .ok { name, ty, modifiers }
      | none => .error .fieldType
    | _ => .error .fieldForm

/-! ### Methods -/

/-- The parts of a method header before, between and behind its outermost parentheses. -/
def cutParens? (decl : Text) : Option (Text × Text × Text) := do
  let (before, rest) ← Text.cutAtChar? '(' decl
  let (params, tail) ← Text.cutAtLast? ')' rest
  return (before, params, tail)

/-- The classes behind the word `throws`; nothing may stand there as well. -/
def readThrows? (tail : Text) : Option (List ClassName) :=
  if Text.trim tail = [] then some []
  else (Text.stripPrefix? "throws".toList (Text.trim tail)).map readClassList

/-- Reads the first line of a method, without the semicolon of a method without body;
`line` is the text that a complaint cites. -/
def Method.readParts (line decl : Text) : Except ReadFault Method :=
  match cutParens? decl with
  | none => .error (.methodHeader line)
  | some (before, params, tail) =>
    match takeModifiers (Text.words before) with
    | (modifiers, [ret, name]) =>
      match Signature.read (ret ++ ' ' :: name ++ '(' :: params ++ ")".toList) with
      | .error bad => .error (.reference bad)
      | .ok sig =>
        match readThrows? tail with
        | none => .error (.methodHeader line)
        | some throws => .ok { sig, modifiers, throws, body := none }
    | _ => .error (.methodHeader line)

/-- Reads the first line of a method and says whether a body follows. -/
def Method.readHeader (line : Text) : Except ReadFault (Method × Bool) :=
  match Text.stripSuffix? ";".toList line with
  | some decl => (Method.readParts line decl).map fun m => (m, false)
  | none => (Method.readParts line line).map fun m => (m, true)

end Weaver
