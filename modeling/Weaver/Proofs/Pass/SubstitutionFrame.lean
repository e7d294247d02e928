import Weaver.Proofs.Pass.Pairing

/-!
# Faults and Frame of a Substitution

The locals of the old class are renamed one after the other, each time in the whole body. What
can go wrong is a new name that is declared already: by a local of another class, or by one of
the old class that comes later in the list, but not by one that came before and has given its
name up. So the names that count are those declared at the turn of a local, and they can be
told from the body before the first renaming. The statements are edited afterwards, and the
queue of these edits cannot fail.

## Main definitions

* `Substitution.namesAtTurn`, `Substitution.Clashes`, `Substitution.FirstClash`: when a new name
  is taken.
* `Substitution.Follows`: what may become of a statement.
* `Substitution.Replaced`, `Substitution.Law`: the whole of it.

## Main results

* `Substitution.retypeAll_cases`: the renaming of all locals, by its first clash.
* `Substitution.law_replaceType`: **when a substitution fails**, and what one that succeeds
  leaves alone.
-/

namespace Weaver

/-! ### Locals under edits -/

/-- An edit of the chain leaves the locals alone. -/
theorem Edit.locals_of_apply {e : Edit} {b b' : Body} {n : Nat} (h : e.apply b = .ok (n, b')) :
    b'.locals = b.locals := by
  cases e with
  | insertBefore anchor new =>
    cases hp : b.position? anchor with
    | none => simp [apply, Body.insertBefore, hp, Except.map] at h
    | some i =>
      simp only [apply, Body.insertBefore, hp, Except.map, Except.ok.injEq, Prod.mk.injEq] at h
      rw [← h.2, Body.insertAt]
  | insertAfter anchor new =>
    cases hp : b.position? anchor with
    | none => simp [apply, Body.insertAfter, hp, Except.map] at h
    | some i =>
      simp only [apply, Body.insertAfter, hp, Except.map, Except.ok.injEq, Prod.mk.injEq] at h
      rw [← h.2, Body.insertAt]
  | remove id =>
    cases hp : b.position? id with
    | none => simp [apply, Body.remove?, hp] at h
    | some i =>
      cases hs : b.stmts[i]? with
      | none => simp [apply, Body.remove?, hp, hs] at h
      | some s =>
        simp only [apply, Body.remove?, hp, hs, Option.map_some, Except.ok.injEq,
          Prod.mk.injEq] at h
        rw [← h.2]

/-- A queue of edits keeps the locals, however far it gets. -/
theorem EditLog.locals_commit (log : EditLog) (b : Body) : (log.commit b).2.locals = b.locals := by
  induction log generalizing b with
  | nil => rfl
  | cons e rest ih =>
    rw [commit]
    cases h : e.apply b with
    | error fault => rfl
    | ok r =>
      obtain ⟨n, b'⟩ := r
      exact (ih b').trans (Edit.locals_of_apply h)

/-- With distinct names there is one local to replace. -/
theorem Body.replaceLocal_eq_map {name : Text} {ls : List Local} (hnd : (ls.map Local.name).Nodup)
    (new : Local) :
    replaceLocal name new ls = ls.map fun l => if l.name = name then new else l := by
  induction ls with
  | nil => rfl
  | cons l ls ih =>
    rw [List.map_cons, List.nodup_cons] at hnd
    rw [replaceLocal, List.map_cons]
    split
    · next hl =>
      have hothers : ls.map (fun l => if l.name = name then new else l) = ls := by
        refine (List.map_congr_left fun l' hl' => if_neg ?_).trans (List.map_id _)
        rintro rfl
        exact hnd.1 (hl ▸ List.mem_map_of_mem hl')
      rw [hothers]
    · rw [ih hnd.2]

namespace Substitution

/-! ### New names at their turn -/

/-- The names declared once those in `done` have been replaced. -/
def namesAtTurn (b : Body) (done : List Text) : List Text :=
  b.names.map fun n => if done.contains n then replacedName n else n

/-- When it is the turn of the name at the position `i`, its new name is declared. -/
def Clashes (b : Body) (names : List Text) (i : Nat) : Prop :=
  ∃ n, names[i]? = some n ∧ replacedName n ∈ namesAtTurn b (names.take i)

/-- The first name that clashes when its turn comes. -/
def FirstClash (b : Body) (names : List Text) (n : Text) : Prop :=
  ∃ i, names[i]? = some n ∧ Clashes b names i ∧ ∀ j < i, ¬Clashes b names j

/-- What becomes of a local if those of the given names are renamed and retyped. -/
def retypedLocal (new : Text) (names : List Text) (l : Local) : Local :=
  if names.contains l.name then { name := replacedName l.name, ty := .class_ new } else l

section

variable {b b' : Body} {new n : Text} {names : List Text}

/-- The new name is another one. -/
theorem replacedName_ne (n : Text) : replacedName n ≠ n :=
  fun h => absurd (List.append_left_eq_self.1 h) (by simp)

@[simp] theorem namesAtTurn_nil (b : Body) : namesAtTurn b [] = b.names := by
  simp [namesAtTurn]

/-- The first name clashes if its new one is declared from the beginning. -/
theorem clashes_zero_iff : Clashes b (n :: names) 0 ↔ replacedName n ∈ b.names := by
  simp [Clashes]

/-- One renaming fails for one reason only. -/
theorem retypeLocal_replacedName_cases (new : Text) (hn : n ∈ b.names) :
    replacedName n ∈ b.names ∧ b.retypeLocal n (replacedName n) (.class_ new) =
        .error (.duplicateLocal (replacedName n)) ∨
      replacedName n ∉ b.names ∧
        ∃ l b', b.retypeLocal n (replacedName n) (.class_ new) = .ok (l, b') := by
  by_cases hfree : replacedName n ∈ b.names
  · refine .inl ⟨hfree, ?_⟩
    rw [Body.retypeLocal, if_pos ⟨(replacedName_ne n).symm, Body.declares_iff.2 hfree⟩]
  · refine .inr ⟨hfree, ?_⟩
    rw [Body.retypeLocal, if_neg fun h => hfree (Body.declares_iff.1 h.2),
      if_pos (Body.declares_iff.2 hn)]
    exact ⟨_, _, rfl⟩

/-- What one renaming makes of the locals. -/
theorem locals_of_retypeLocal (hnd : b.names.Nodup) {l : Local}
    (h : b.retypeLocal n (replacedName n) (.class_ new) = .ok (l, b')) :
    b'.locals = b.locals.map (retypedLocal new [n]) := by
  obtain ⟨-, -, rfl, rfl⟩ := Body.retypeLocal_eq_ok h
  rw [Body.replaceLocal_eq_map hnd]
  refine List.map_congr_left fun l _ => ?_
  by_cases hl : l.name = n <;> simp [retypedLocal, hl]

/-- The names of the replaced locals get the mark, and no others do. -/
theorem name_retyped (l : Local) :
    (retypedLocal new names l).name =
      if names.contains l.name then replacedName l.name else l.name := by
  rw [retypedLocal]
  split <;> rfl

/-- Once all names are replaced, the retyped locals have the names of that turn. -/
theorem map_name_retyped (b : Body) (new : Text) (names : List Text) :
    (b.locals.map (retypedLocal new names)).map Local.name = namesAtTurn b names := by
  rw [namesAtTurn, Body.names, List.map_map, List.map_map]
  exact List.map_congr_left fun l _ => name_retyped l

/-- A body with the retyped locals declares the names of that turn. -/
theorem names_eq_of_locals (h : b'.locals = b.locals.map (retypedLocal new names)) :
    b'.names = namesAtTurn b names := by
  rw [Body.names, h, map_name_retyped]

/-- Renaming one local more, for a local of the body. -/
theorem retyped_retyped {l : Local} (hnew : replacedName n ∉ names) :
    retypedLocal new names (retypedLocal new [n] l) = retypedLocal new (n :: names) l := by
  by_cases hl : l.name = n
  · simp [retypedLocal, hl, hnew]
  · simp [retypedLocal, hl]

/-- The names at a later turn can be told before the first one. -/
theorem namesAtTurn_of_locals (h : b'.locals = b.locals.map (retypedLocal new [n]))
    (hnew : replacedName n ∉ names) : namesAtTurn b' names = namesAtTurn b (n :: names) := by
  have hmap : b'.locals.map (retypedLocal new names) =
      b.locals.map (retypedLocal new (n :: names)) := by
    rw [h, List.map_map]
    exact List.map_congr_left fun l _ => retyped_retyped hnew
  rw [← map_name_retyped b' new, ← map_name_retyped b new, hmap]

/-- Clashes behind a renaming that succeeds. -/
theorem clashes_succ_iff (h : b'.locals = b.locals.map (retypedLocal new [n]))
    (hnew : replacedName n ∉ names) (i : Nat) :
    Clashes b (n :: names) (i + 1) ↔ Clashes b' names i := by
  have htake : replacedName n ∉ names.take i := fun hmem => hnew (List.mem_of_mem_take hmem)
  rw [Clashes, Clashes, List.getElem?_cons_succ, List.take_succ_cons,
    namesAtTurn_of_locals h htake]

/-- A first name that is free leaves the first clash to the other names. -/
theorem FirstClash.cons (h : b'.locals = b.locals.map (retypedLocal new [n]))
    (hnew : replacedName n ∉ names) (hfree : replacedName n ∉ b.names) {m : Text}
    (hfirst : FirstClash b' names m) : FirstClash b (n :: names) m := by
  obtain ⟨i, hm, hi, hbefore⟩ := hfirst
  refine ⟨i + 1, hm, (clashes_succ_iff h hnew i).2 hi, fun j hj => ?_⟩
  cases j with
  | zero => exact fun hclash => hfree (clashes_zero_iff.1 hclash)
  | succ j =>
    rw [clashes_succ_iff h hnew]
    exact hbefore j (Nat.lt_of_succ_lt_succ hj)

/-- If the first name is free and the others do not clash, none does. -/
theorem not_clashes_cons (h : b'.locals = b.locals.map (retypedLocal new [n]))
    (hnew : replacedName n ∉ names) (hfree : replacedName n ∉ b.names)
    (hnone : ∀ i, ¬Clashes b' names i) (i : Nat) : ¬Clashes b (n :: names) i := by
  cases i with
  | zero => exact fun hclash => hfree (clashes_zero_iff.1 hclash)
  | succ i =>
    rw [clashes_succ_iff h hnew]
    exact hnone i

/-- The first clash is one. -/
theorem FirstClash.clashes (h : FirstClash b names n) : ∃ i, Clashes b names i :=
  let ⟨i, _, hi, _⟩ := h
  ⟨i, hi⟩

/-- The other names stay declared. -/
theorem mem_names_of_ne (h : b'.locals = b.locals.map (retypedLocal new [n])) {m : Text}
    (hm : m ∈ b.names) (hne : m ≠ n) : m ∈ b'.names := by
  rw [names_eq_of_locals h]
  refine List.mem_map.2 ⟨m, hm, if_neg ?_⟩
  rwa [List.contains_iff_mem, List.mem_singleton]

/-- **The renaming of all locals** stops at the first clash. Without one it succeeds. -/
theorem retypeAll_cases (new : Text) (hnd : names.Nodup) (hsub : names ⊆ b.names)
    (hb : b.names.Nodup) :
    (∃ n, FirstClash b names n ∧
        (retypeAll new names b).1 = .error (.duplicateLocal (replacedName n))) ∨
      (∀ i, ¬Clashes b names i) ∧
        ∃ b', retypeAll new names b = (.ok (names.map fun n => (n, replacedName n)), b') ∧
          b'.locals = b.locals.map (retypedLocal new names) := by
  induction names generalizing b with
  | nil =>
    refine .inr ⟨fun i => by simp [Clashes], b, rfl, ?_⟩
    have hsame : b.locals.map (retypedLocal new []) = b.locals.map id :=
      List.map_congr_left fun l _ => rfl
    rw [hsame, List.map_id]
  | cons n rest ih =>
    rw [List.nodup_cons] at hnd
    rw [List.cons_subset] at hsub
    rw [retypeAll]
    obtain ⟨hclash, herr⟩ | ⟨hfree, l, b₁, hok⟩ :=
      retypeLocal_replacedName_cases new hsub.1
    · rw [herr]
      exact .inl ⟨n, ⟨0, rfl, clashes_zero_iff.2 hclash, fun j hj => absurd hj (Nat.not_lt_zero j)⟩,
        rfl⟩
    · -- The other names have kept their places, so a later clash is one of the rest.
      have hlocals := locals_of_retypeLocal hb hok
      have hnew : replacedName n ∉ rest := fun h => hfree (hsub.2 h)
      have hrest : rest ⊆ b₁.names := fun m hm =>
        mem_names_of_ne hlocals (hsub.2 hm) (ne_of_mem_of_not_mem hm hnd.1)
      rw [hok]
      obtain ⟨m, hfirst, herr⟩ | ⟨hnone, b', hall, hlocals'⟩ :=
        ih hnd.2 hrest (Body.nodup_names_retypeLocal hok hb)
      · refine .inl ⟨m, hfirst.cons hlocals hnew hfree, ?_⟩
        simp only [herr, Except.map]
      · refine .inr ⟨not_clashes_cons hlocals hnew hfree hnone, b', ?_, ?_⟩
        · simp only [hall, Except.map, List.map_cons]
        · rw [hlocals', hlocals, List.map_map]
          exact List.map_congr_left fun l _ => retyped_retyped hnew

end

/-! ### The law -/

/-- The statement `t` is `s`, except that an allocation of the old class may have turned to the
new one and a special call on the old class may have gone over. -/
inductive Follows (scene : Scene) (old new : Text) (retyped : List Text) : Stmt → Stmt → Prop
  | same (s : Stmt) : Follows scene old new retyped s s
  | allocation {x : Text} : x ∈ retyped →
      Follows scene old new retyped (.assignVar x (.alloc ⟨old⟩)) (.assignVar x (.alloc ⟨new⟩))
  | call {e : Invocation} {target : MethodRef} : e.kind = .special → e.method.cls.chars = old →
      Redirects scene old new retyped e target →
      Follows scene old new retyped (.invoke e) (.invoke { e with method := target })

/-- The names of the locals of a class, in the order of declaration. -/
def namesOf (b : Body) (cls : Text) : List Text :=
  (b.locals.filter fun l => l.ty.isClass cls).map Local.name

/-- **What a substitution that succeeds has done.** -/
structure Replaced (scene : Scene) (old new : Text) (b : Body) (report : SubstitutionReport)
    (b' : Body) : Prop where
  /-- The report lists the locals of the old class with their new names, in the order of
  declaration. -/
  renamed_eq : report.renamed = (namesOf b old).map fun n => (n, replacedName n)
  /-- They have these names and the new class as type, in their places; the others are untouched. -/
  locals_eq : b'.locals = b.locals.map fun l =>
    if l.ty.isClass old then { name := replacedName l.name, ty := .class_ new } else l
  /-- No local of the old class is left. -/
  none_left : ∀ l ∈ b'.locals, l.ty.isClass old = false
  length_eq : b'.statements.length = b.statements.length
  /-- Every statement is the one that was in its place, with the locals renamed. -/
  follows : ∀ {i : Nat} {s : Stmt}, b.statements[i]? = some s → ∃ t, b'.statements[i]? = some t ∧
    Follows scene old new (report.renamed.map Prod.snd) (renamedStmt report.renamed s) t

/-- **When a substitution fails, and what it does otherwise.** -/
structure Law (scene : Scene) (old new : Text) (b : Body)
    (result : Except Fault SubstitutionReport × Body) : Prop where
  /-- It fails exactly if a new name is declared when its turn comes. -/
  fails_iff : (∃ fault, result.1 = .error fault) ↔ ∃ i, Clashes b (namesOf b old) i
  /-- The fault is the first of these. -/
  fault_eq : ∀ {fault : Fault}, result.1 = .error fault →
    ∃ n, FirstClash b (namesOf b old) n ∧ fault = .duplicateLocal (replacedName n)
  /-- The queued edits of the statements never fail. -/
  commits : ∀ {renamed : List (Text × Text)} {b₁ : Body},
    retypeAll new (namesOf b old) b = (.ok renamed, b₁) →
      ∃ n b₂, EditLog.commit (flush (scan scene old new (renamed.map Prod.snd) b₁)).log b₁ =
        (.ok n, b₂)
  replaced : ∀ {report : SubstitutionReport}, result.1 = .ok report →
    Replaced scene old new b report result.2

/-- Every statement follows, be it replaced or not. -/
theorem follows_replacement? (scene : Scene) (old new : Text) (retyped : List Text) (s : Stmt)
    (rest : List Stmt) :
    Follows scene old new retyped s ((replacement? scene old new retyped s rest).getD s) := by
  cases hr : replacement? scene old new retyped s rest with
  | none => exact .same s
  | some t =>
    rw [Option.getD_some]
    rw [replacement?] at hr
    cases hspecial : s.special? old with
    | some e =>
      rw [hspecial] at hr
      obtain ⟨rfl, hkind, hcls⟩ := Stmt.eq_of_special? hspecial
      obtain ⟨target, htarget, rfl⟩ := redirection?_eq_some_iff.1 hr
      exact .call hkind hcls htarget
    | none =>
      rw [hspecial] at hr
      obtain ⟨x, hx, ht⟩ := Option.bind_eq_some_iff.1 hr
      obtain rfl := Stmt.eq_of_allocated? hx
      split at ht
      · next hretyped =>
        obtain rfl := Option.some.inj ht
        exact .allocation (by simpa using (Bool.and_eq_true_iff.1 hretyped).1)
      · cases ht

section

variable {b : Body} {old new : Text}

/-- With distinct names, the type of a local can be told from its name. -/
theorem name_mem_namesOf_iff (hnd : b.names.Nodup) {l : Local} (hl : l ∈ b.locals) :
    l.name ∈ namesOf b old ↔ l.ty.isClass old = true := by
  rw [namesOf, List.mem_map]
  constructor
  · rintro ⟨l', hl', hname⟩
    obtain ⟨hmem, hty⟩ := List.mem_filter.1 hl'
    rwa [← List.inj_on_of_nodup_map hnd hmem hl hname]
  · exact fun hty => ⟨l, List.mem_filter.2 ⟨hl, hty⟩, rfl⟩

/-- Retyping by name is retyping by class, since names are declared once. -/
theorem locals_retyped (hnd : b.names.Nodup) :
    b.locals.map (retypedLocal new (namesOf b old)) = b.locals.map fun l =>
      if l.ty.isClass old then { name := replacedName l.name, ty := .class_ new } else l := by
  refine List.map_congr_left fun l hl => ?_
  rw [retypedLocal]
  exact if_congr (List.contains_iff_mem.trans (name_mem_namesOf_iff hnd hl)) rfl rfl

/-- No local of the old class is left. -/
theorem isClass_eq_false_of_mem (hne : old ≠ new) {ls : List Local} {l : Local}
    (hl : l ∈ ls.map fun l =>
      if l.ty.isClass old then { name := replacedName l.name, ty := .class_ new } else l) :
    l.ty.isClass old = false := by
  obtain ⟨l', -, rfl⟩ := List.mem_map.1 hl
  split
  · exact beq_false_of_ne hne.symm
  · next hty => exact Bool.eq_false_iff.2 hty

end

/-- **A substitution that succeeds** has renamed the locals of the old class and carried out the
edits of one pass. The report counts what the pass has found. -/
theorem replaceType_eq_ok {b b' : Body} {scene : Scene} {old new : Text}
    {report : SubstitutionReport} (h : b.replaceType scene old new = (.ok report, b')) :
    ∃ b₁ n, retypeAll new (namesOf b old) b = (.ok report.renamed, b₁) ∧
      let r := flush (scan scene old new (report.renamed.map Prod.snd) b₁)
      EditLog.commit r.log b₁ = (.ok n, b') ∧
        report = { renamed := report.renamed, rewritten := r.rewritten, untouched := r.untouched
                   skipped := r.skipped
                   warnings := checkReplacement scene old new ++ r.warnings } := by
  rw [Body.replaceType, ← namesOf] at h
  dsimp only at h
  split at h
  · cases h
  · next renamed b₁ hretype =>
    rw [Prod.mk.injEq] at h
    obtain ⟨houtcome, hbody⟩ := h
    cases hcommit :
        (EditLog.commit (flush (scan scene old new (renamed.map Prod.snd) b₁)).log b₁).1 with
    | error fault =>
      rw [hcommit] at houtcome
      cases houtcome
    | ok n =>
      rw [hcommit, Except.map, Except.ok.injEq] at houtcome
      subst houtcome
      exact ⟨b₁, n, hretype, Prod.ext hcommit hbody, rfl⟩

/-- Whether it succeeds can be decided. -/
theorem exists_of_isOk {b : Body} {scene : Scene} {old new : Text}
    (h : (b.replaceType scene old new).1.isOk = true) :
    ∃ report b', b.replaceType scene old new = (.ok report, b') := by
  generalize b.replaceType scene old new = run at h
  obtain ⟨fault | report, b'⟩ := run
  · cases h
  · exact ⟨report, b', rfl⟩

/-- A substitution that succeeds has retyped the locals of the old class and left the others
alone. -/
theorem locals_of_replaceType {b b' : Body} (hnd : b.names.Nodup) {scene : Scene} {old new : Text}
    {report : SubstitutionReport} (h : b.replaceType scene old new = (.ok report, b')) :
    b'.locals = b.locals.map (retypedLocal new (namesOf b old)) := by
  have hsublist : (namesOf b old).Sublist b.names := List.filter_sublist.map _
  obtain ⟨b₁, n, hretype, hcommit, -⟩ := replaceType_eq_ok h
  have hsame : b'.locals = b₁.locals := by
    have hcommitted := EditLog.locals_commit
      (flush (scan scene old new (report.renamed.map Prod.snd) b₁)).log b₁
    rwa [hcommit] at hcommitted
  obtain ⟨_, -, herr⟩ | ⟨-, b₂, hok, hlocals⟩ :=
    retypeAll_cases new (hsublist.nodup hnd) hsublist.subset hnd
  · rw [hretype] at herr
    cases herr
  · rw [hretype, Prod.mk.injEq] at hok
    rw [hsame, hok.2, hlocals]

/-- A clash among the locals ends the substitution. -/
theorem replaceType_of_error {b : Body} (scene : Scene) {old new : Text} {fault : Fault}
    (h : (retypeAll new (namesOf b old) b).1 = .error fault) :
    (b.replaceType scene old new).1 = .error fault := by
  rw [Body.replaceType, ← namesOf]
  split
  · next heq =>
    rw [heq] at h
    exact congrArg _ (Except.error.inj h)
  · next heq =>
    rw [heq] at h
    cases h

/-- Once the locals are renamed, the queued edits succeed. -/
theorem exists_replaced {b b₁ : Body} (hb : b.Sound) (scene : Scene) {old new : Text}
    (hne : old ≠ new)
    (hok : retypeAll new (namesOf b old) b =
      (.ok ((namesOf b old).map fun n => (n, replacedName n)), b₁))
    (hlocals : b₁.locals = b.locals.map (retypedLocal new (namesOf b old))) :
    ∃ report n b₂, b.replaceType scene old new = (.ok report, b₂) ∧
      EditLog.commit (flush (scan scene old new (report.renamed.map Prod.snd) b₁)).log b₁ =
        (.ok n, b₂) ∧
      Replaced scene old new b report b₂ := by
  obtain ⟨-, hids, hnext, hstmts⟩ := retypeAll_eq_ok hok
  generalize hrenamed : (namesOf b old).map (fun n => (n, replacedName n)) = renamed at hok hstmts
  obtain ⟨n, b₂, hcommit, hlength, hafter⟩ := commit_scan scene old new (renamed.map Prod.snd)
    (b := b₁) (hids ▸ hb.nodup_ids) (hids ▸ hnext ▸ hb.ids_lt)
  have hlocals₂ : b₂.locals = b₁.locals := by
    have h := congrArg (fun r => r.2.locals) hcommit
    rw [EditLog.locals_commit] at h
    exact h.symm
  rw [hlocals, locals_retyped hb.nodup_names] at hlocals₂
  obtain ⟨report, hrun, rfl⟩ : ∃ report, b.replaceType scene old new = (.ok report, b₂) ∧
      report.renamed = renamed := by
    rw [Body.replaceType, ← namesOf, hok]
    dsimp only
    rw [hcommit]
    exact ⟨_, rfl, rfl⟩
  refine ⟨report, n, b₂, hrun, hcommit, hrenamed.symm, hlocals₂, fun l hl => ?_, ?_,
    fun {i s} hs => ⟨_, hafter ?_, follows_replacement? ..⟩⟩
  · exact isClass_eq_false_of_mem hne (hlocals₂ ▸ hl)
  · rw [hlength, hstmts, List.length_map]
  · rw [hstmts, List.getElem?_map, hs, Option.map_some]

/-- **Faults and frame of a substitution**, for every body: it fails exactly if, with the locals
of the old class renamed one after the other, a new name is declared when its turn comes.
Otherwise the statements stay in their places under the new names, except for allocations and
special calls on the old class, and so do the locals, except for those of the old class. -/
theorem law_replaceType {b : Body} (hb : b.Sound) (scene : Scene) {old new : Text}
    (hne : old ≠ new) : Law scene old new b (b.replaceType scene old new) := by
  have hsublist : (namesOf b old).Sublist b.names := List.filter_sublist.map _
  obtain ⟨n, hfirst, herr⟩ | ⟨hnone, b₁, hok, hlocals⟩ :=
    retypeAll_cases new (hsublist.nodup hb.nodup_names) hsublist.subset hb.nodup_names
  · have hrun := replaceType_of_error scene herr
    refine ⟨iff_of_true ⟨_, hrun⟩ hfirst.clashes, fun h => ?_, fun h => ?_, fun h => ?_⟩
    · rw [hrun, Except.error.injEq] at h
      exact ⟨n, hfirst, h.symm⟩
    · rw [h] at herr
      cases herr
    · rw [hrun] at h
      cases h
  · obtain ⟨report, k, b₂, hrun, hcommit, hreplaced⟩ := exists_replaced hb scene hne hok hlocals
    rw [hrun]
    refine ⟨?_, fun h => ?_, fun h => ?_, fun h => ?_⟩
    · exact iff_of_false (fun ⟨_, h⟩ => by cases h) fun ⟨i, hi⟩ => hnone i hi
    · cases h
    · rw [hok, Prod.mk.injEq, Except.ok.injEq, ← hreplaced.renamed_eq] at h
      obtain ⟨rfl, rfl⟩ := h
      exact ⟨k, b₂, hcommit⟩
    · obtain rfl := Except.ok.inj h
      exact hreplaced

end Substitution

namespace SampleSubstitution

theorem sound_body : body.Sound :=
  ⟨by decide, by decide, by decide⟩

/-- The law for two objects whose allocations are interleaved. -/
theorem law_replaceType_interleaved :
    body.Sound ∧ "a.Old".toList ≠ "b.New".toList ∧
      ∃ report b', body.replaceType scene "a.Old".toList "b.New".toList = (.ok report, b') ∧
        Substitution.Replaced scene "a.Old".toList "b.New".toList body report b' ∧
        b'.locals = [⟨"replaced_x".toList, .class_ "b.New".toList⟩,
          ⟨"replaced_y".toList, .class_ "b.New".toList⟩] := by
  have hne : "a.Old".toList ≠ "b.New".toList := by decide
  have hlaw := Substitution.law_replaceType sound_body scene hne
  refine ⟨sound_body, hne, ?_⟩
  generalize hrun : body.replaceType scene "a.Old".toList "b.New".toList = run at hlaw
  obtain ⟨outcome | report, b'⟩ := run
  · have hok : (body.replaceType scene "a.Old".toList "b.New".toList).1.isOk = true := by
      decide +kernel
    rw [hrun] at hok
    cases hok
  · have hreplaced := hlaw.replaced rfl
    exact ⟨report, b', rfl, hreplaced, hreplaced.locals_eq.trans (by decide)⟩

/-- The body with two locals of the old class, declared one after the other. -/
def declaring (first second : Text) : Body :=
  { body with locals := [⟨first, .class_ "a.Old".toList⟩, ⟨second, .class_ "a.Old".toList⟩] }

/-- A local that comes later holds its name, and one that came before has given it up. -/
example :
    ((declaring "x".toList "replaced_x".toList).replaceType scene "a.Old".toList
        "b.New".toList).1.isOk = false ∧
      ((declaring "replaced_x".toList "x".toList).replaceType scene "a.Old".toList
        "b.New".toList).1.isOk = true := by
  decide +kernel

end SampleSubstitution

end Weaver
