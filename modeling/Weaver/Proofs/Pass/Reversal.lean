import Weaver.Proofs.Jimple.Parts
import Weaver.Proofs.Pass.BodyHistory

/-!
# Renaming a Local and Renaming It Back

A local takes a new name wherever its name stands: as an operand, and as a word of verbatim
code. If the new name was not in use, each occurrence can be told from what was there before,
and giving the local its old name and type again restores the body.

One thing can come between. In verbatim code a bracket before a letter opens a reference, while
one before a digit is a comparison. A local that begins with a digit may stand behind such a
bracket; under a name that begins with a letter it would be taken for a part of a reference and
not be found again. The reader declares no such locals, so only bodies that were built by hand
are concerned.

## Main definitions

* `Body.Renamable`: when a name can be exchanged for another one.
* `Body.RenamedTo`: a body before and after.
* `Body.RenamingLaw`: the whole of it.

## Main results

* `Body.renamingLaw`: **renaming is complete and reversible**.
-/

namespace Weaver

namespace Body

/-! ### Locals -/

/-- A local that is replaced by one with a free name, and replaces that one again. -/
theorem replaceLocal_replaceLocal {x y : Text} {ty : Ty} {l : Local} {ls : List Local}
    (hl : ls.find? (fun l => l.name == x) = some l) (hy : y ∉ ls.map Local.name) :
    replaceLocal y l (replaceLocal x ⟨y, ty⟩ ls) = ls := by
  induction ls with
  | nil => cases hl
  | cons l' ls ih =>
    rw [List.map_cons, List.mem_cons, not_or] at hy
    rw [List.find?_cons] at hl
    rw [replaceLocal]
    by_cases hname : l'.name = x
    · rw [beq_iff_eq.2 hname] at hl
      obtain rfl := Option.some.inj hl
      rw [if_pos hname, replaceLocal, if_pos rfl]
    · rw [beq_false_of_ne hname] at hl
      rw [if_neg hname, replaceLocal, if_neg (Ne.symm hy.1), ih hl hy.2]

variable {b b' : Body} {x y : Text} {ty : Ty}

/-- A renaming fails if the new name is taken or the old one is not declared. -/
theorem retypeLocal_fails_iff : (∃ fault, b.retypeLocal x y ty = .error fault) ↔
    (x ≠ y ∧ y ∈ b.names) ∨ x ∉ b.names := by
  simp only [retypeLocal, declares_iff]
  by_cases htaken : x ≠ y ∧ y ∈ b.names
  · simp [htaken]
  · by_cases hdeclared : x ∈ b.names <;> simp [htaken, hdeclared]

/-- Otherwise it exchanges the local and renames in every statement. -/
theorem retypeLocal_of_free (hx : x ∈ b.names) (hy : y ∉ b.names) (ty : Ty) :
    b.retypeLocal x y ty = .ok (⟨y, ty⟩, { b with
      locals := replaceLocal x ⟨y, ty⟩ b.locals
      stmts := b.stmts.map fun (id, s) => (id, s.rename x y) }) := by
  simp only [retypeLocal, declares_iff]
  rw [if_neg fun h => hy h.2, if_pos hx]

/-! ### Before and after -/

/-- **A body before and after a renaming.** The local has the new name and type in its place.
Every statement keeps its handle, its place, its form and its parts, up to the operands and the
words of verbatim code that are replaced. -/
structure RenamedTo (b : Body) (x y : Text) (ty : Ty) (b' : Body) : Prop where
  method_eq : b'.method = b.method
  nextId_eq : b'.nextId = b.nextId
  ids_eq : b'.ids = b.ids
  locals : ∃ before l after, b.locals = before ++ l :: after ∧ l.name = x ∧
    x ∉ before.map Local.name ∧ b'.locals = before ++ ⟨y, ty⟩ :: after
  stmts : ∀ {i : Nat} {s : Stmt}, b.statements[i]? = some s → ∃ t, b'.statements[i]? = some t ∧
    t.kind = s.kind ∧ List.Forall₂ (Part.Renamed x y) s.parts t.parts

/-- Renaming a local renames it in every statement. -/
theorem statements_of_retypeLocal {l : Local} (h : b.retypeLocal x y ty = .ok (l, b')) :
    b'.statements = b.statements.map (Stmt.rename x y) := by
  obtain ⟨-, -, -, rfl⟩ := retypeLocal_eq_ok h
  rw [statements, statements, List.map_map, List.map_map]
  rfl

/-- **A local is renamed in its place, and in all statements.** -/
theorem renamedTo_of_retypeLocal {l : Local} (hx : x ≠ [])
    (h : b.retypeLocal x y ty = .ok (l, b')) : b.RenamedTo x y ty b' := by
  have hstmts := statements_of_retypeLocal h
  obtain ⟨-, hdeclared, rfl, rfl⟩ := retypeLocal_eq_ok h
  refine ⟨rfl, rfl, ?_, exists_split_replaceLocal hdeclared ⟨y, ty⟩, fun {i s} hs => ?_⟩
  · rw [ids, List.map_map]
    rfl
  · refine ⟨s.rename x y, ?_, s.kind_rename, s.renamed_parts hx y⟩
    rw [hstmts, List.getElem?_map, hs]
    rfl

/-! ### The law -/

/-- **When a name can be exchanged**: the local is declared, the new name is a word that is
neither declared nor in use, and no bracket of verbatim code comes to open a reference. -/
structure Renamable (b : Body) (x y : Text) : Prop where
  declared : x ∈ b.names
  nonempty : x ≠ []
  word : IsWord y
  free : y ∉ b.names
  fresh : ∀ s ∈ b.statements, y ∉ s.identifiers
  brackets : ∀ s ∈ b.statements, ∀ p ∈ s.parts, p.KeepsBrackets x y

/-- The new name is another one. -/
theorem Renamable.ne (h : b.Renamable x y) : x ≠ y := by
  rintro rfl
  exact h.free h.declared

/-- The renaming can be undone in all parts of the statements. -/
theorem Renamable.reversible (h : b.Renamable x y) {s : Stmt} (hs : s ∈ b.statements) :
    ∀ p ∈ s.parts, p.Reversible x y :=
  fun p hp => ⟨fun hmem => h.fresh s hs (List.mem_flatMap.2 ⟨p, hp, hmem⟩), h.brackets s hs p hp⟩

/-- Afterwards the new name is declared, and the old one is not. -/
theorem names_of_retypeLocal (hnd : b.names.Nodup) (hne : x ≠ y) {l : Local}
    (h : b.retypeLocal x y ty = .ok (l, b')) : y ∈ b'.names ∧ x ∉ b'.names := by
  obtain ⟨-, hdeclared, rfl, hrun⟩ := retypeLocal_eq_ok h
  obtain ⟨before, l', after, hls, hname, hbefore, hreplace⟩ :=
    exists_split_replaceLocal hdeclared ⟨y, ty⟩
  have hnames' : b'.names = before.map Local.name ++ y :: after.map Local.name := by
    rw [hrun, names, hreplace, List.map_append, List.map_cons]
  have hafter : x ∉ after.map Local.name := by
    rw [names, hls, List.map_append, List.map_cons, hname, List.nodup_middle,
      List.nodup_cons] at hnd
    exact fun hmem => hnd.1 (List.mem_append_right _ hmem)
  rw [hnames']
  exact ⟨by simp, by simp [hbefore, hne, hafter]⟩

/-- **A renaming can be undone.** -/
theorem Renamable.retypeLocal_back (h : b.Renamable x y) (hnd : b.names.Nodup) {l l' : Local}
    (hl : b.local? x = some l) (hb' : b.retypeLocal x y ty = .ok (l', b')) :
    b'.retypeLocal y x l.ty = .ok (l, b) := by
  obtain ⟨hhere, hgone⟩ := names_of_retypeLocal hnd h.ne hb'
  obtain ⟨-, -, rfl, rfl⟩ := retypeLocal_eq_ok hb'
  have hname : l.name = x := by simpa using List.find?_some hl
  have hlocal : (⟨x, l.ty⟩ : Local) = l := by rw [← hname]
  have hlocals : replaceLocal y l (replaceLocal x ⟨y, ty⟩ b.locals) = b.locals :=
    replaceLocal_replaceLocal hl h.free
  have hstmts : (b.stmts.map fun (id, s) => (id, s.rename x y)).map
      (fun (id, s) => (id, s.rename y x)) = b.stmts := by
    rw [List.map_map]
    refine (List.map_congr_left fun e he => ?_).trans (List.map_id _)
    exact Prod.ext rfl (Stmt.rename_rename h.nonempty h.word
      (h.reversible (List.mem_map_of_mem he)))
  rw [retypeLocal_of_free hhere hgone l.ty, hlocal]
  simp only [hlocals, hstmts]

/-- **What becomes of a body under a renaming.** -/
structure RenamingLaw (b : Body) (x y : Text) (ty : Ty) : Prop where
  /-- It fails if the new name is taken or the old one is not declared, -/
  fails_iff : (∃ fault, b.retypeLocal x y ty = .error fault) ↔
    (x ≠ y ∧ y ∈ b.names) ∨ x ∉ b.names
  /-- and leaves the body as it was. -/
  kept : ∀ {fault : Fault}, b.retypeLocal x y ty = .error fault →
    (BodyOp.retypeLocal x y ty).run b = b
  /-- A name that can be exchanged is exchanged everywhere, and can be exchanged back. -/
  renamed : b.Renamable x y → ∃ l b', b.local? x = some l ∧
    b.retypeLocal x y ty = .ok (⟨y, ty⟩, b') ∧ b.RenamedTo x y ty b' ∧
    (∀ t ∈ b'.statements, x ∉ t.identifiers) ∧ b'.retypeLocal y x l.ty = .ok (l, b)

/-- **Renaming is complete and reversible**, for every body with distinct names. -/
theorem renamingLaw (hnd : b.names.Nodup) (x y : Text) (ty : Ty) : b.RenamingLaw x y ty where
  fails_iff := retypeLocal_fails_iff
  kept h := by rw [BodyOp.run, h, orKeep]
  renamed h := by
    obtain ⟨l, hl⟩ := Option.isSome_iff_exists.1 (declares_iff.2 h.declared)
    have hrun := retypeLocal_of_free h.declared h.free ty
    refine ⟨l, _, hl, hrun, renamedTo_of_retypeLocal h.nonempty hrun, ?_,
      h.retypeLocal_back hnd hl hrun⟩
    intro t ht
    rw [statements_of_retypeLocal hrun] at ht
    obtain ⟨s, hs, rfl⟩ := List.mem_map.1 ht
    exact Stmt.not_mem_identifiers_rename h.nonempty h.word h.ne (h.brackets s hs)

end Body

namespace SampleRenaming

/-- A body in which `i0` is an operand, a word of verbatim code, and a part of literals. -/
def body : Body :=
  { method :=
      { cls := ⟨"a.Main".toList⟩, sig := { ret := .void, name := "run".toList, params := [] } }
    locals := [⟨"i0".toList, .int⟩, ⟨"r1".toList, .class_ stringClass⟩]
    stmts := [
      (⟨0⟩, .verbatim "if i0 < 5 goto l".toList),
      (⟨1⟩, .assignVar "r1".toList (.verbatim "i0 + \"i0\"".toList)),
      (⟨2⟩, .label "l".toList),
      (⟨3⟩, .ret (some (.var "i0".toList)))]
    nextId := 4 }

/-- The local of the example can be renamed. -/
theorem renamable_body : body.Renamable "i0".toList "n".toList where
  declared := by decide
  nonempty := by decide
  word := ⟨by decide, by decide⟩
  free := by decide
  fresh := by decide
  brackets _ _ p _ := by
    refine p.keepsBrackets_of_head ⟨by decide, by decide⟩ (fun c hc => ?_) _
    obtain rfl : 'i' = c := Option.some.inj hc
    rfl

/-- Renaming the local of the example and back. -/
theorem renamingLaw_body :
    body.names.Nodup ∧ body.Renamable "i0".toList "n".toList ∧
      ∃ b', body.retypeLocal "i0".toList "n".toList .long = .ok (⟨"n".toList, .long⟩, b') ∧
        b'.statements.map Stmt.text =
          ["if n < 5 goto l".toList, "r1 = n + \"i0\"".toList, "l:".toList, "return n".toList] ∧
        b'.retypeLocal "n".toList "i0".toList .int = .ok (⟨"i0".toList, .int⟩, body) := by
  have hnd : body.names.Nodup := by decide
  obtain ⟨l, b', hl, hrun, -, -, hback⟩ :=
    (Body.renamingLaw hnd "i0".toList "n".toList .long).renamed renamable_body
  obtain rfl : ⟨"i0".toList, .int⟩ = l := Option.some.inj hl
  refine ⟨hnd, renamable_body, b', hrun, ?_, hback⟩
  rw [Body.statements_of_retypeLocal hrun]
  decide +kernel

end SampleRenaming

namespace SampleBracket

/-- A body that was built by hand: one of its locals begins with a digit. -/
def body : Body :=
  { method :=
      { cls := ⟨"a.Main".toList⟩, sig := { ret := .void, name := "run".toList, params := [] } }
    locals := [⟨"i0".toList, .int⟩, ⟨"0a".toList, .int⟩]
    stmts := [
      (⟨0⟩, .verbatim "if i0 <0a goto l".toList),
      (⟨1⟩, .label "l".toList),
      (⟨2⟩, .ret none)]
    nextId := 3 }

/-- The renamed local stands behind a bracket that opens a reference now. -/
theorem retypeLocal_back_ne :
    body.Sound ∧ "0a".toList ∈ body.names ∧ IsWord "b".toList ∧ "b".toList ∉ body.names ∧
      (∀ s ∈ body.statements, "b".toList ∉ s.identifiers) ∧
      ∃ b' b'', body.retypeLocal "0a".toList "b".toList .int = .ok (⟨"b".toList, .int⟩, b') ∧
        b'.retypeLocal "b".toList "0a".toList .int = .ok (⟨"0a".toList, .int⟩, b'') ∧
        b''.statements.map Stmt.text ≠ body.statements.map Stmt.text := by
  refine ⟨⟨by decide, by decide, by decide⟩, by decide, ⟨by decide, by decide⟩, by decide,
    by decide, _, _, rfl, rfl, ?_⟩
  decide +kernel

end SampleBracket

end Weaver
