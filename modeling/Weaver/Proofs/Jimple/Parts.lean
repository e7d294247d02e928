import Mathlib.Data.List.Forall2
import Weaver.Jimple.Stmt
import Weaver.Proofs.Jimple.Tokens

/-!
# The Parts of Statements

A statement is written with operands, constants, members and so on, in a certain order. As a
list of these parts, with every call in front of what it is made on, it shows what a renaming
does: it exchanges operands, renames in verbatim code, and leaves every other part alone.

## Main definitions

* `Part`, `Value.parts`, `Stmt.parts`.
* `Stmt.identifiers`: the names that a renaming may meet.
* `Part.Renamed`: a part before and after a renaming.

## Main results

* `Value.induct`: induction over values.
* `Stmt.parts_rename`: a renaming is a renaming of the parts.
* `Stmt.rename_rename`: renaming back.
-/

namespace Weaver

/-! ### Parts -/

/-- A part of a statement. -/
inductive Part where
  /-- A local as an operand. -/
  | operand (name : Text)
  /-- Verbatim code. -/
  | code (s : Text)
  | constant (c : Constant)
  | allocated (cls : ClassName)
  | field (f : FieldRef)
  /-- A call, whether it has a receiver, and the number of its arguments. -/
  | call (kind : CallKind) (receiver : Bool) (method : MethodRef) (arity : Nat)
  /-- What an identity statement binds its local to. -/
  | binding (rhs : IdentityRhs)
  /-- The label that a statement declares. -/
  | label (name : Text)
deriving DecidableEq

namespace Part

/-- Replaces the local `old` by `new`. -/
def rename (old new : Text) : Part → Part
  | operand name => operand (renameName old new name)
  | code s => code (Text.renameWord old new s)
  | p => p

/-- The names that a renaming may meet in a part: an operand, or the words of verbatim code
outside literals and references. -/
def identifiers : Part → List Text
  | operand name => [name]
  | code s => s.identifiers
  | _ => []

/-- The parts that no renaming changes. -/
def isFixed : Part → Bool
  | operand _ | code _ => false
  | _ => true

/-- No renaming changes a fixed part. -/
theorem rename_of_isFixed {p : Part} (h : p.isFixed = true) (old new : Text) :
    p.rename old new = p := by
  cases p <;> first | rfl | cases h

/-- **A part before and after a renaming.** Verbatim code is written with the same tokens,
except for the words that are replaced. These are its tokens when it is taken apart again, if
the new name is a word and no bracket comes to open a reference. -/
inductive Renamed (old new : Text) : Part → Part → Prop where
  | operand (name : Text) : Renamed old new (.operand name) (.operand (renameName old new name))
  | code {s s' : Text}
      (htexts : s' = Token.texts ((Text.tokens .outside s).map (Token.rename old new)))
      (htokens : IsWord new → Text.KeepsBrackets old new s →
        Text.tokens .outside s' = (Text.tokens .outside s).map (Token.rename old new)) :
      Renamed old new (.code s) (.code s')
  | fixed {p : Part} (h : p.isFixed = true) : Renamed old new p p

/-- **Every part is renamed** as a part before and after a renaming should be. -/
theorem renamed_rename {old : Text} (hold : old ≠ []) (new : Text) (p : Part) :
    Renamed old new p (p.rename old new) := by
  cases hp : p.isFixed with
  | true =>
    rw [rename_of_isFixed hp]
    exact .fixed hp
  | false =>
    cases p with
    | operand name => exact .operand name
    | code s =>
      exact .code (Text.renameWord_eq hold new s) fun hnew hkeep =>
        Text.tokens_renameWord hold hnew hkeep
    | _ => cases hp

end Part

mutual

/-- The parts of a value. -/
def Value.parts : Value → List Part
  | .var name => [.operand name]
  | .const c => [.constant c]
  | .alloc cls => [.allocated cls]
  | .instanceField base field => [.operand base, .field field]
  | .staticField field => [.field field]
  | .call ⟨kind, base, method, args⟩ =>
    .call kind base.isSome method args.length ::
      (base.toList.map Part.operand ++ Value.partsOf args)
  | .verbatim code => [.code code]

/-- The parts of the values of a list. -/
def Value.partsOf : List Value → List Part
  | [] => []
  | v :: vs => Value.parts v ++ Value.partsOf vs

end

/-- The parts of some values are those of each of them. -/
theorem Value.partsOf_eq_flatMap (vs : List Value) : Value.partsOf vs = vs.flatMap Value.parts := by
  induction vs with
  | nil => rfl
  | cons v vs ih => rw [Value.partsOf, ih, List.flatMap_cons]

/-- The parts of an invocation. -/
def Call.parts (e : Invocation) : List Part :=
  .call e.kind e.base.isSome e.method e.args.length ::
    (e.base.toList.map Part.operand ++ e.args.flatMap Value.parts)

/-- The parts of a call are those of the invocation that it is. -/
theorem Value.parts_call (e : Invocation) : (Value.call e).parts = e.parts := by
  obtain ⟨kind, base, method, args⟩ := e
  rw [Value.parts, Call.parts, Value.partsOf_eq_flatMap]

namespace Stmt

/-- The parts of a statement. -/
def parts : Stmt → List Part
  | identity name rhs => [.operand name, .binding rhs]
  | assign lhs rhs => lhs.parts ++ rhs.parts
  | invoke e => e.parts
  | ret value => value.toList.flatMap Value.parts
  | label name => [.label name]
  | verbatim code => [.code code]

/-- The names that a renaming may meet in a statement. -/
def identifiers (s : Stmt) : List Text :=
  s.parts.flatMap Part.identifiers

end Stmt

/-- **Induction over values**: the arguments of a call come before the call. -/
theorem Value.induct {motive : Value → Prop} (var : ∀ name, motive (.var name))
    (const : ∀ c, motive (.const c)) (alloc : ∀ cls, motive (.alloc cls))
    (instanceField : ∀ base field, motive (.instanceField base field))
    (staticField : ∀ field, motive (.staticField field))
    (call : ∀ e : Invocation, (∀ v ∈ e.args, motive v) → motive (.call e))
    (verbatim : ∀ code, motive (.verbatim code)) (v : Value) : motive v :=
  @Value.rec motive (fun e => ∀ v ∈ e.args, motive v) (fun vs => ∀ v ∈ vs, motive v)
    var const alloc instanceField staticField call verbatim (fun _ _ _ _ hargs => hargs)
    (fun _ hv => absurd hv List.not_mem_nil)
    (fun _ _ hv hvs => List.forall_mem_cons.2 ⟨hv, hvs⟩) v

/-! ### Renaming -/

section

variable {old new : Text}

/-- Renaming in an invocation renames its parts, if it does so in the arguments. -/
theorem Call.parts_rename {e : Invocation}
    (h : ∀ v ∈ e.args, (v.rename old new).parts = v.parts.map (Part.rename old new)) :
    (e.rename old new).parts = e.parts.map (Part.rename old new) := by
  have hargs : (e.args.map (Value.rename old new)).flatMap Value.parts =
      (e.args.flatMap Value.parts).map (Part.rename old new) := by
    rw [List.flatMap_map, List.map_flatMap]
    exact List.flatMap_congr h
  have hbase : ((e.base.map (renameName old new)).toList.map Part.operand) =
      (e.base.toList.map Part.operand).map (Part.rename old new) := by
    cases e.base <;> rfl
  rw [Call.parts, Call.parts, Call.rename, List.map_cons, List.map_append, ← hargs, ← hbase,
    Option.isSome_map, List.length_map]
  rfl

/-- **Renaming in a value renames its parts.** -/
theorem Value.parts_rename (v : Value) :
    (v.rename old new).parts = v.parts.map (Part.rename old new) := by
  induction v using Value.induct with
  | call e ih => rw [Value.rename_call, Value.parts_call, Value.parts_call, Call.parts_rename ih]
  | _ => rfl

/-- **A renaming of a statement is one of its parts.** -/
theorem Stmt.parts_rename (s : Stmt) :
    (s.rename old new).parts = s.parts.map (Part.rename old new) := by
  cases s with
  | identity name rhs => rfl
  | assign lhs rhs =>
    rw [rename, parts, parts, lhs.parts_rename, rhs.parts_rename, List.map_append]
  | invoke e => exact Call.parts_rename fun v _ => v.parts_rename
  | ret value =>
    cases value with
    | none => rfl
    | some v => simp [rename, parts, v.parts_rename]
  | label name => rfl
  | verbatim code => rfl

/-- Renaming keeps the kind of a statement. -/
theorem Stmt.kind_rename (s : Stmt) : (s.rename old new).kind = s.kind := by
  cases s <;> rfl

/-- The parts of a statement before and after a renaming. -/
theorem Stmt.renamed_parts (hold : old ≠ []) (new : Text) (s : Stmt) :
    List.Forall₂ (Part.Renamed old new) s.parts (s.rename old new).parts := by
  rw [parts_rename, List.forall₂_map_right_iff, List.forall₂_same]
  exact fun p _ => p.renamed_rename hold new

/-! ### Renaming back -/

/-- In no code, a bracket comes to open a reference. -/
def Part.KeepsBrackets (old new : Text) : Part → Prop
  | .code s => Text.KeepsBrackets old new s
  | _ => True

/-- No bracket comes to open a reference if the old name begins with no digit. -/
theorem Part.keepsBrackets_of_head (hold : IsWord old) (hdigit : ∀ c ∈ old.head?, c.isDigit = false)
    (new : Text) (p : Part) : p.KeepsBrackets old new := by
  cases p with
  | code s => exact Text.keepsBrackets_of_head hold hdigit new s
  | _ => trivial

/-- A part in which a name is not yet used takes it and gives it up again. -/
def Part.Reversible (old new : Text) (p : Part) : Prop :=
  new ∉ p.identifiers ∧ p.KeepsBrackets old new

/-- An invocation takes a name and gives it up again, if its arguments do. -/
theorem Call.rename_rename {e : Invocation} (he : ∀ p ∈ e.parts, p.Reversible old new)
    (h : ∀ v ∈ e.args, (∀ p ∈ v.parts, p.Reversible old new) →
      (v.rename old new).rename new old = v) : (e.rename old new).rename new old = e := by
  obtain ⟨kind, base, method, args⟩ := e
  rw [Call.parts, List.forall_mem_cons, List.forall_mem_append] at he
  obtain ⟨-, hbase, hargs⟩ := he
  have hback : base.map (renameName new old ∘ renameName old new) = base := by
    cases base with
    | none => rfl
    | some name =>
      have hname := (hbase (.operand name) (by simp)).1
      rw [Part.identifiers, List.mem_singleton] at hname
      exact congrArg some (renameName_renameName (Ne.symm hname))
  have hall : args.map (Value.rename new old ∘ Value.rename old new) = args.map id :=
    List.map_congr_left fun v hv =>
      h v hv fun p hp => hargs p (List.mem_flatMap.2 ⟨v, hv, hp⟩)
  rw [Call.rename, Call.rename, Option.map_map, hback, List.map_map, hall, List.map_id]

variable (hold : old ≠ []) (hnew : IsWord new)
include hold hnew

/-- **A value takes a name and gives it up again.** -/
theorem Value.rename_rename {v : Value} (hv : ∀ p ∈ v.parts, p.Reversible old new) :
    (v.rename old new).rename new old = v := by
  have hname : ∀ {name : Text}, Part.Reversible old new (.operand name) →
      renameName new old (renameName old new name) = name := by
    rintro name ⟨hfresh, -⟩
    rw [Part.identifiers, List.mem_singleton] at hfresh
    exact renameName_renameName (Ne.symm hfresh)
  induction v using Value.induct with
  | var name => exact congrArg Value.var (hname (hv _ List.mem_cons_self))
  | instanceField base field =>
    exact congrArg (Value.instanceField · field) (hname (hv _ List.mem_cons_self))
  | call e ih =>
    rw [Value.parts_call] at hv
    rw [Value.rename_call, Value.rename_call, Call.rename_rename hv ih]
  | verbatim code =>
    obtain ⟨hfresh, hkeep⟩ := hv _ List.mem_cons_self
    exact congrArg Value.verbatim (Text.renameWord_renameWord hold hnew hkeep hfresh)
  | _ => rfl

/-- **Renaming back** a statement in which the new name did not occur. -/
theorem Stmt.rename_rename {s : Stmt} (hs : ∀ p ∈ s.parts, p.Reversible old new) :
    (s.rename old new).rename new old = s := by
  cases s with
  | identity name rhs =>
    have hfresh := (hs _ List.mem_cons_self).1
    rw [Part.identifiers, List.mem_singleton] at hfresh
    exact congrArg (identity · rhs) (renameName_renameName (Ne.symm hfresh))
  | assign lhs rhs =>
    rw [parts, List.forall_mem_append] at hs
    rw [rename, rename, lhs.rename_rename hold hnew hs.1, rhs.rename_rename hold hnew hs.2]
  | invoke e =>
    exact congrArg invoke (Call.rename_rename hs fun v _ => v.rename_rename hold hnew)
  | ret value =>
    cases value with
    | none => rfl
    | some v =>
      exact congrArg (fun v => ret (some v)) (v.rename_rename hold hnew (by simpa [parts] using hs))
  | label name => rfl
  | verbatim code =>
    obtain ⟨hfresh, hkeep⟩ := hs _ List.mem_cons_self
    exact congrArg verbatim (Text.renameWord_renameWord hold hnew hkeep hfresh)

/-- A renaming leaves no occurrence behind. -/
theorem Stmt.not_mem_identifiers_rename (hne : old ≠ new) {s : Stmt}
    (hs : ∀ p ∈ s.parts, p.KeepsBrackets old new) : old ∉ (s.rename old new).identifiers := by
  rw [identifiers, parts_rename, List.mem_flatMap]
  rintro ⟨_, hq, hmem⟩
  obtain ⟨p, hp, rfl⟩ := List.mem_map.1 hq
  cases p with
  | operand name =>
    rw [Part.rename, Part.identifiers, List.mem_singleton] at hmem
    exact renameName_ne hne name hmem.symm
  | code code =>
    have hkeep : Text.KeepsBrackets old new code := hs _ hp
    rw [Part.rename, Part.identifiers, Text.identifiers_renameWord hold hnew hkeep] at hmem
    obtain ⟨name, -, hname⟩ := List.mem_map.1 hmem
    exact renameName_ne hne name hname
  | _ => cases hmem

end

end Weaver
