import Mathlib.Data.List.Nodup
import Mathlib.Data.List.Perm.Subperm
import Weaver.Jimple.Body

/-!
# Generated Locals

A generated local takes the first free one of the names that belong to its type. Names for
different numbers are different, so one more candidate than there are locals is enough
for the search, and locals that are generated one after the other never collide.

## Main results

* `Body.exists_generatedName_free`: **the search cannot fail**.
* `Body.isFresh_generateLocal`: what a generated local is.
* `Body.FreshInTurn.nodup_names`: names stay pairwise distinct.
-/

namespace Weaver

/-- Different numbers are written differently. -/
theorem natText_inj {m n : Nat} (h : natText m = natText n) : m = n := by
  rw [← natOfDigits_natText m, h, natOfDigits_natText]

namespace Body

/-! ### Names -/

/-- The names of the locals, in the order of declaration. -/
def names (b : Body) : List Text :=
  b.locals.map Local.name

/-- A body declares the names of its locals. -/
theorem declares_iff {b : Body} {name : Text} : b.declares name = true ↔ name ∈ b.names := by
  rw [declares, local?, List.find?_isSome, names, List.mem_map]
  exact exists_congr fun l => and_congr_right fun _ => beq_iff_eq

/-- A body declares no other names. -/
theorem declares_eq_false_iff {b : Body} {name : Text} :
    b.declares name = false ↔ name ∉ b.names := by
  rw [← declares_iff, Bool.not_eq_true]

/-- With distinct names, every declared local is found under its name. -/
theorem local?_eq_some_of_mem {b : Body} (hnd : b.names.Nodup) {l : Local} (hl : l ∈ b.locals) :
    b.local? l.name = some l := by
  cases h : b.local? l.name with
  | none =>
    rw [local?, List.find?_eq_none] at h
    exact absurd (beq_self_eq_true l.name) (h l hl)
  | some l' =>
    have hname : l'.name = l.name := by simpa using List.find?_some h
    exact congrArg some (List.inj_on_of_nodup_map hnd (List.mem_of_find?_eq_some h) hl hname)

/-- Different numbers give different names. -/
theorem generatedName_inj {ty : Ty} {m n : Nat} (h : generatedName ty m = generatedName ty n) :
    m = n := by
  rw [generatedName, generatedName, List.cons.injEq, List.cons.injEq] at h
  exact natText_inj h.2.2

/-! ### The search for a free name -/

/-- **The search cannot fail.** One more candidate than there are locals leaves one free. -/
theorem exists_generatedName_free (b : Body) (ty : Ty) :
    ∃ n ∈ List.range (b.locals.length + 1), b.declares (generatedName ty n) = false := by
  by_contra hall
  push Not at hall
  let candidates := (List.range (b.locals.length + 1)).map (generatedName ty)
  have hnd : candidates.Nodup := List.nodup_range.map fun _ _ => generatedName_inj
  have hsub : candidates ⊆ b.names := by
    intro name hname
    obtain ⟨n, hn, rfl⟩ := List.mem_map.1 hname
    exact declares_iff.1 (by simpa using hall n hn)
  have hle := (List.subperm_of_subset hnd hsub).length_le
  rw [List.length_map, List.length_range, names, List.length_map] at hle
  omega

/-- The number of the name is the least one that is free. -/
theorem freshNumber_spec (b : Body) (ty : Ty) :
    b.declares (generatedName ty (b.freshNumber ty)) = false ∧
      ∀ k < b.freshNumber ty, b.declares (generatedName ty k) = true := by
  cases h : (List.range (b.locals.length + 1)).find? fun n => !b.declares (generatedName ty n) with
  | none =>
    obtain ⟨n, hn, hfree⟩ := exists_generatedName_free b ty
    have := List.find?_eq_none.1 h n hn
    simp [hfree] at this
  | some n =>
    have hn : b.freshNumber ty = n := by rw [freshNumber, h, Option.getD_some]
    rw [hn]
    obtain ⟨hfree, -, hbefore⟩ := List.find?_range_eq_some.1 h
    exact ⟨by simpa using hfree, fun k hk => by simpa using hbefore k hk⟩

/-- The local `l` has the **first free name** of those generated for its type. -/
def IsFresh (b : Body) (l : Local) : Prop :=
  ∃ n, l.name = generatedName l.ty n ∧ l.name ∉ b.names ∧
    ∀ k < n, generatedName l.ty k ∈ b.names

/-! ### Declarations one after the other -/

/-- The body with further locals behind its own. -/
def withLocals (b : Body) (ls : List Local) : Body :=
  { b with locals := b.locals ++ ls }

@[simp] theorem withLocals_nil (b : Body) : b.withLocals [] = b := by
  rw [withLocals, List.append_nil]

/-- Further locals may be declared one after the other. -/
theorem withLocals_append (b : Body) (ls ls' : List Local) :
    b.withLocals (ls ++ ls') = (b.withLocals ls).withLocals ls' := by
  simp [withLocals]

@[simp] theorem names_withLocals (b : Body) (ls : List Local) :
    (b.withLocals ls).names = b.names ++ ls.map Local.name := by
  simp [names, withLocals]

/-- Generating a local declares a fresh one of the given type. -/
theorem isFresh_generateLocal (b : Body) (ty : Ty) :
    ∃ l : Local, l.ty = ty ∧ b.IsFresh l ∧ b.generateLocal ty = (l, b.withLocals [l]) := by
  obtain ⟨hfree, hbefore⟩ := b.freshNumber_spec ty
  refine ⟨(b.generateLocal ty).1, rfl, ⟨b.freshNumber ty, rfl, ?_, fun k hk => ?_⟩, rfl⟩
  · exact declares_eq_false_iff.1 hfree
  · exact declares_iff.1 (hbefore k hk)

/-- Each of the locals is fresh once the ones before it are declared. -/
def FreshInTurn : Body → List Local → Prop
  | _, [] => True
  | b, l :: ls => b.IsFresh l ∧ FreshInTurn (b.withLocals [l]) ls

/-- Locals are fresh in turn if the first ones are, and the others once these are declared. -/
theorem freshInTurn_append {b : Body} {ls ls' : List Local} :
    b.FreshInTurn (ls ++ ls') ↔ b.FreshInTurn ls ∧ (b.withLocals ls).FreshInTurn ls' := by
  induction ls generalizing b with
  | nil => simp [FreshInTurn]
  | cons l ls ih =>
    rw [List.cons_append, FreshInTurn, FreshInTurn, ih, ← withLocals_append, List.singleton_append,
      and_assoc]

/-- The statements of a body do not matter for it. -/
theorem FreshInTurn.congr {b b' : Body} {ls : List Local} (h : b.FreshInTurn ls)
    (hlocals : b.locals = b'.locals) : b'.FreshInTurn ls := by
  induction ls generalizing b b' with
  | nil => trivial
  | cons l ls ih =>
    obtain ⟨⟨n, hname, hfree, hbefore⟩, hrest⟩ := h
    rw [names, hlocals] at hfree hbefore
    refine ⟨⟨n, hname, hfree, hbefore⟩, ih hrest ?_⟩
    rw [withLocals, withLocals, hlocals]

/-- **Names stay pairwise distinct** when fresh locals are declared. -/
theorem FreshInTurn.nodup_names {b : Body} {ls : List Local} (h : b.FreshInTurn ls)
    (hnd : b.names.Nodup) : (b.withLocals ls).names.Nodup := by
  induction ls generalizing b with
  | nil => simpa using hnd
  | cons l ls ih =>
    obtain ⟨⟨n, -, hfree, -⟩, hrest⟩ := h
    have hone : (b.withLocals [l]).names.Nodup := by
      rw [names_withLocals, List.map_singleton, ← List.concat_eq_append]
      exact hnd.concat hfree
    have := ih hrest hone
    rwa [← withLocals_append, List.singleton_append] at this

end Body

end Weaver
