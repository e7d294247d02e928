import Weaver.Jimple.Reader.Member
import Weaver.Proofs.Jimple.Bounds.Reference

/-!
# Reading Headers at Byte Offsets

The lines that introduce a class, a field or a method are cut into words, and words are counted off
the front: modifiers first, then what introduces a class, then its name. A header of a method is cut
at its parentheses before. None of these cuts can fail, in whatever order parentheses stand, and
however few words there are.

## Main definitions

* `ByteReader.splitModifiers`: the modifiers and their number.
* `ByteReader.classHeader?`, `ByteReader.field?`, `ByteReader.methodHeader?`.

## Main results

* `ByteReader.classHeader?_eq`, `ByteReader.field?_eq`, `ByteReader.methodHeader?_eq`: **headers and
  fields are read without a stop**.
-/

namespace Weaver.ByteReader

open Text

/-! ### Modifiers -/

/-- The modifiers that a list of words begins with, and their number. -/
def splitModifiers : List Text → List Modifier × Nat
  | [] => ([], 0)
  | word :: rest =>
    match Modifier.ofKeyword? word with
    | some m => let (ms, n) := splitModifiers rest; (m :: ms, n + 1)
    | none => ([], 0)

/-- The words behind the modifiers stand at the index that is counted. -/
theorem splitModifiers_spec (words : List Text) :
    ∃ before, words = before ++ (takeModifiers words).2 ∧
      splitModifiers words = ((takeModifiers words).1, before.length) := by
  induction words with
  | nil => exact ⟨[], rfl, rfl⟩
  | cons word rest ih =>
    rw [takeModifiers, splitModifiers]
    cases Modifier.ofKeyword? word with
    | none => exact ⟨[], rfl, rfl⟩
    | some m =>
      obtain ⟨before, hrest, hsplit⟩ := ih
      refine ⟨word :: before, congrArg (word :: ·) hrest, ?_⟩
      rw [hsplit]
      rfl

/-! ### Classes -/

/-- Reads the line that introduces a class. -/
def classHeader? (line : Text) : Option (Except ReadFault Class) := do
  let tokens := words line
  let (modifiers, i) := splitModifiers tokens
  match readClassKeyword (tokens[i]?.toList) with
  | .error why => return .error why
  | .ok (isInterface, _) =>
    match tokens[i + 1]? with
    | none => return .error .noClassName
    | some name =>
      let rest ← dropAt? (i + 2) tokens
      let split := (rest.findIdx? fun word => word == "implements".toList).getD rest.length
      let (extends_, implements) ← splitAt? split rest
      match readExtends extends_ with
      | .error why => return .error why
      | .ok superclass =>
        let interfaces := readClassList (join " ".toList (implements.drop 1))
        return .ok { name := ⟨name⟩, modifiers, isInterface, superclass, interfaces, fields := [],
                     methods := [] }

/-- The place of the word `implements` is one of the places behind the name. -/
theorem splitAt?_findIdx (rest : List Text) :
    splitAt? ((rest.findIdx? fun word => word == "implements".toList).getD rest.length) rest =
      some (rest.takeWhile fun word => !(word == "implements".toList),
        rest.dropWhile fun word => !(word == "implements".toList)) := by
  rw [← List.findIdx_eq_getD_findIdx?, splitAt?_of_le List.findIdx_le_length,
    List.takeWhile_eq_take_findIdx_not, List.dropWhile_eq_drop_findIdx_not]
  simp only [Bool.not_not]

/-- **Headers of classes** are read without a stop. -/
theorem classHeader?_eq (line : Text) : classHeader? line = some (Class.readHeader line) := by
  obtain ⟨before, hwords, hsplit⟩ := splitModifiers_spec (words line)
  rw [classHeader?, Class.readHeader, hsplit]
  generalize takeModifiers (words line) = taken at hwords
  obtain ⟨modifiers, rest⟩ := taken
  dsimp only at hwords ⊢
  rw [hwords]
  cases rest with
  | nil =>
    rw [List.append_nil, List.getElem?_eq_none (Nat.le_refl _)]
    rfl
  | cons word rest =>
    have hword : (before ++ word :: rest)[before.length]? = some word := by
      rw [List.getElem?_append_right (Nat.le_refl _), Nat.sub_self]
      rfl
    rw [hword, Option.toList_some]
    -- The keyword is read from one word, and what is behind it is left over.
    have hkeyword : readClassKeyword [word] =
        (readClassKeyword (word :: rest)).map fun found => (found.1, []) := by
      rw [readClassKeyword, readClassKeyword]
      split
      · rfl
      · split <;> rfl
    have htail : ∀ found, readClassKeyword (word :: rest) = .ok found → found.2 = rest := by
      intro found hfound
      rw [readClassKeyword] at hfound
      split at hfound
      · exact Except.ok.inj hfound ▸ rfl
      · split at hfound
        · exact Except.ok.inj hfound ▸ rfl
        · cases hfound
    rw [hkeyword]
    generalize readClassKeyword (word :: rest) = found at htail
    cases found with
    | error why => rfl
    | ok found =>
      obtain ⟨isInterface, tail⟩ := found
      obtain rfl : tail = rest := htail _ rfl
      have hname : (before ++ word :: tail)[before.length + 1]? = tail.head? := by
        rw [List.getElem?_append_right (Nat.le_add_right _ 1),
          Nat.add_sub_cancel_left]
        exact List.head?_eq_getElem?.symm
      simp only [Except.map, hname]
      cases tail with
      | nil => rfl
      | cons name rest =>
        have hdrop : dropAt? (before.length + 2) (before ++ word :: name :: rest) = some rest := by
          have happend : before ++ word :: name :: rest = before ++ [word, name] ++ rest := by simp
          have hlength : before.length + 2 = (before ++ [word, name]).length := by simp
          rw [happend, hlength, dropAt?_append]
        simp only [List.head?_cons, hdrop, splitAt?_findIdx, readAncestors, Option.bind_eq_bind,
          Option.bind_some]
        cases readExtends (rest.takeWhile fun word => !(word == "implements".toList)) <;> rfl

/-! ### Fields -/

/-- Reads the declaration of a field. -/
def field? (line : Text) : Option (Except ReadFault Field) :=
  match stripSuffix? ";".toList line with
  | none => some (.error .fieldEnd)
  | some decl => do
    let tokens := words decl
    let (modifiers, i) := splitModifiers tokens
    match ← dropAt? i tokens with
    | [ty, name] =>
      match Ty.read? ty with
      | some ty => return .ok { name, ty, modifiers }
      | none => return .error .fieldType
    | _ => return .error .fieldForm

/-- **Fields** are read without a stop. -/
theorem field?_eq (line : Text) : field? line = some (Field.read line) := by
  rw [field?, Field.read]
  cases stripSuffix? ";".toList line with
  | none => rfl
  | some decl =>
    obtain ⟨before, hwords, hsplit⟩ := splitModifiers_spec (words decl)
    have hdrop : dropAt? before.length (words decl) = some (takeModifiers (words decl)).2 := by
      conv_lhs => rw [hwords]
      exact dropAt?_append ..
    dsimp only
    rw [hsplit]
    dsimp only
    rw [hdrop, Option.bind_eq_bind, Option.bind_some]
    generalize takeModifiers (words decl) = taken
    obtain ⟨modifiers, rest⟩ := taken
    match rest with
    | [] => rfl
    | [_] => rfl
    | [ty, name] =>
      dsimp only
      cases Ty.read? ty <;> rfl
    | _ :: _ :: _ :: _ => rfl

/-! ### Methods -/

/-- Reads the first line of a method, without the semicolon of a method without body. -/
def methodParts? (line decl : Text) : Option (Except ReadFault Method) :=
  match findChar? '(' decl, findLast? ')' decl with
  | some opening, some closing =>
    if closing < opening then some (.error (.methodHeader line))
    else do
      let before ← sliceTo? opening decl
      let tokens := words before
      let (modifiers, i) := splitModifiers tokens
      match ← dropAt? i tokens with
      | [ret, name] =>
        let params ← slice? (opening + 1) closing decl
        match ← signature? (ret ++ ' ' :: name ++ '(' :: params ++ ")".toList) with
        | .error bad => return .error (.reference bad)
        | .ok sig =>
          let tail ← sliceFrom? (closing + 1) decl
          match readThrows? tail with
          | none => return .error (.methodHeader line)
          | some throws => return .ok { sig, modifiers, throws, body := none }
      | _ => return .error (.methodHeader line)
  | _, _ => some (.error (.methodHeader line))

/-- Reads the first line of a method and says whether a body follows. -/
def methodHeader? (line : Text) : Option (Except ReadFault (Method × Bool)) :=
  match stripSuffix? ";".toList line with
  | some decl => (methodParts? line decl).map fun r => r.map fun m => (m, false)
  | none => (methodParts? line line).map fun r => r.map fun m => (m, true)

/-- The last parenthesis of a header stands in front of the first one, or where the header is
cut. -/
theorem findLast?_of_cutAtChar? {decl before rest : Text}
    (h : cutAtChar? '(' decl = some (before, rest)) :
    match cutAtLast? ')' rest with
    | some (params, _) =>
      findLast? ')' decl = some (Utf8.length (before ++ ['('] ++ params))
    | none => ∀ closing, findLast? ')' decl = some closing → closing < Utf8.length before := by
  obtain ⟨rfl, -⟩ := cutAtChar?_eq_some h
  cases hlast : cutAtLast? ')' rest with
  | some found =>
    obtain ⟨params, tail⟩ := found
    obtain ⟨rfl, htail⟩ := cutAtLast?_eq_some hlast
    have happend : before ++ '(' :: (params ++ ')' :: tail) =
        (before ++ ['('] ++ params) ++ ')' :: tail := by simp
    dsimp only
    rw [findLast?, happend, cutAtLast?_append _ htail]
    rfl
  | none =>
    intro closing hclosing
    obtain ⟨⟨a, b⟩, hcut, rfl⟩ := Option.map_eq_some_iff.1 hclosing
    obtain ⟨heq, -⟩ := cutAtLast?_eq_some hcut
    have hrest := not_mem_of_cutAtLast? hlast
    obtain ⟨c, hbefore, hbehind⟩ | ⟨c, ha, hbehind⟩ := List.append_eq_append_iff.1 heq
    · -- The last parenthesis cannot stand behind the first one.
      cases c with
      | nil => cases hbehind
      | cons d c =>
        obtain ⟨-, rfl⟩ := List.cons.inj hbehind
        exact absurd (List.mem_append_right c List.mem_cons_self) hrest
    · cases c with
      | nil => cases hbehind
      | cons d c =>
        have hpos := Utf8.width_pos d
        rw [ha, Utf8.length_append, Utf8.length_cons]
        dsimp only
        omega

/-- Before, between and behind two parentheses, **the slices are the parts**. -/
theorem slices_parens (before params tail : Text) :
    sliceTo? (Utf8.length before) (before ++ '(' :: (params ++ ')' :: tail)) = some before ∧
      slice? (Utf8.length before + 1) (Utf8.length (before ++ ['('] ++ params))
        (before ++ '(' :: (params ++ ')' :: tail)) = some params ∧
      sliceFrom? (Utf8.length (before ++ ['('] ++ params) + 1)
        (before ++ '(' :: (params ++ ')' :: tail)) = some tail := by
  have happend : before ++ '(' :: (params ++ ')' :: tail) =
      (before ++ ['('] ++ params) ++ ')' :: tail := by simp
  refine ⟨sliceTo?_append .., ?_, ?_⟩
  · have hone : Utf8.length before + 1 = Utf8.length (before ++ ['(']) :=
      (Utf8.length_concat before '(').symm
    rw [happend, hone, slice?_append]
  · have hone : Utf8.length (before ++ ['('] ++ params) + 1 =
        Utf8.length (before ++ ['('] ++ params ++ [')']) := (Utf8.length_concat _ ')').symm
    have hcons : (before ++ ['('] ++ params) ++ ')' :: tail =
        (before ++ ['('] ++ params ++ [')']) ++ tail := by simp
    rw [happend, hone, hcons, sliceFrom?_append]

/-- **The parts of a header** are slices between its parentheses. -/
theorem methodParts?_eq (line decl : Text) :
    methodParts? line decl = some (Method.readParts line decl) := by
  rw [methodParts?, Method.readParts, cutParens?]
  cases hopen : cutAtChar? '(' decl with
  | none =>
    rw [findChar?, hopen]
    rfl
  | some found =>
    obtain ⟨before, rest⟩ := found
    have hopening : findChar? '(' decl = some (Utf8.length before) := by
      rw [findChar?, hopen]
      rfl
    have hclosing := findLast?_of_cutAtChar? hopen
    rw [hopening]
    simp only [Option.bind_eq_bind, Option.bind_some]
    cases hlast : cutAtLast? ')' rest with
    | none =>
      rw [hlast] at hclosing
      cases hfind : findLast? ')' decl with
      | none => rfl
      | some closing =>
        dsimp only
        rw [if_pos (hclosing closing hfind)]
        rfl
    | some found =>
      obtain ⟨params, tail⟩ := found
      rw [hlast] at hclosing
      dsimp only at hclosing
      obtain ⟨rfl, -⟩ := cutAtChar?_eq_some hopen
      obtain ⟨rfl, -⟩ := cutAtLast?_eq_some hlast
      obtain ⟨hbefore, hparams, htail⟩ := slices_parens before params tail
      have hle : ¬Utf8.length (before ++ ['('] ++ params) < Utf8.length before := by
        rw [List.append_assoc, Utf8.length_append]
        omega
      obtain ⟨first, hwords, hsplit⟩ := splitModifiers_spec (words before)
      have hdrop : dropAt? first.length (words before) = some (takeModifiers (words before)).2 := by
        conv_lhs => rw [hwords]
        exact dropAt?_append ..
      rw [hclosing]
      dsimp only
      rw [if_neg hle, hbefore]
      simp only [Option.bind_some, Option.pure_def, hsplit, hdrop, hparams, htail]
      generalize takeModifiers (words before) = taken
      obtain ⟨modifiers, names⟩ := taken
      -- Two words have to be left: the type and the name.
      rcases names with _ | ⟨ret, _ | ⟨name, _ | ⟨_, _⟩⟩⟩
      · rfl
      · rfl
      · dsimp only
        rw [signature?_eq, Option.bind_some]
        generalize Signature.read (ret ++ ' ' :: name ++ '(' :: params ++ ")".toList) = sig
        cases sig with
        | error bad => rfl
        | ok sig => cases readThrows? tail <;> rfl
      · rfl

/-- **Headers of methods** are read without a stop. -/
theorem methodHeader?_eq (line : Text) : methodHeader? line = some (Method.readHeader line) := by
  rw [methodHeader?, Method.readHeader]
  cases stripSuffix? ";".toList line with
  | some decl => exact congrArg (Option.map _) (methodParts?_eq line decl)
  | none => exact congrArg (Option.map _) (methodParts?_eq line line)

end Weaver.ByteReader
