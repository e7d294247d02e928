import Weaver.Proofs.Pass.SubstitutionFrame

/-!
# The Order of Queued Replacements

A substitution ends with the allocations for which no constructor call came. They are kept by
their locals, and nothing fixes the order in which they are enumerated. It does not matter
either: a queue of replacements of different statements puts each of them into the place of the
statement it replaces, whatever has been replaced before. Only the handles of the new statements
show the order, since they are issued one after the other.

## Conventions

An order is a function that rearranges every list of allocations. `Body.replaceTypeIn` is the
substitution with the order as a parameter, and `Body.replaceTypeIn_id` says that the order in
which the allocations came is the one of `Body.replaceType`.

## Main definitions

* `Substitution.IsOrder`, `Body.replaceTypeIn`: a substitution in any order.
* `Body.Alike`: the same body up to the handles of its statements.
* `Body.OrderLaw`: what does not depend on the order.

## Main results

* `EditLog.commit_perm`: a queue of replacements in two orders.
* `Body.orderLaw`: **the result of a substitution does not depend on the order**.
-/

namespace Weaver

/-- Two bodies have the same locals and the same sequence of statements, which may have different
handles. -/
structure Body.Alike (b b' : Body) : Prop where
  method_eq : b.method = b'.method
  locals_eq : b.locals = b'.locals
  statements_eq : b.statements = b'.statements

theorem Body.Alike.refl (b : Body) : b.Alike b :=
  ⟨rfl, rfl, rfl⟩

/-! ### Queues in two orders -/

namespace EditLog

variable {reps reps' : List (StmtId × Stmt)} {b : Body}

/-- What a queue leaves in the place of a statement is unique if no handle comes twice. -/
theorem rightUnique_leaves (h : (reps.map Prod.fst).Nodup) :
    Relator.RightUnique (Leaves reps) := by
  rintro e s t (hs | ⟨hs, rfl⟩) (ht | ⟨ht, rfl⟩)
  · exact congrArg Prod.snd (List.inj_on_of_nodup_map h hs ht rfl)
  · exact absurd (List.mem_map_of_mem hs) ht
  · exact absurd (List.mem_map_of_mem ht) hs
  · rfl

/-- What a queue of replacements leaves does not depend on its order. -/
theorem Leaves.of_perm (h : reps'.Perm reps) {e : StmtId × Stmt} {s : Stmt}
    (hs : Leaves reps' e s) : Leaves reps e s :=
  hs.imp h.mem_iff.1 (And.imp_left fun hout hin => hout ((h.map Prod.fst).mem_iff.2 hin))

/-- What is placed is what the queue leaves. -/
theorem Places.leaves {next : Nat} {e e' : StmtId × Stmt} (h : Places next reps e e') :
    Leaves reps e e'.2 := by
  rcases h with ⟨hin, -⟩ | ⟨hout, rfl⟩
  · exact .inl hin
  · exact .inr ⟨hout, rfl⟩

/-- **A queue of replacements in two orders**: both succeed, every statement is replaced in its
place or stays, and the two bodies are alike. -/
theorem commit_perm (hnd : b.ids.Nodup) (hlt : ∀ id ∈ b.ids, id.index < b.nextId)
    (hreps : (reps.map Prod.fst).Nodup) (hsub : ∀ id ∈ reps.map Prod.fst, id ∈ b.ids)
    (hperm : reps'.Perm reps) :
    ∃ b₁ b₂, commit (replacements reps) b = (.ok reps.length, b₁) ∧
      commit (replacements reps') b = (.ok reps.length, b₂) ∧ b₁.Alike b₂ ∧
      List.Forall₂ (Places b.nextId reps) b.stmts b₁.stmts := by
  have hids := hperm.map Prod.fst
  obtain ⟨b₁, hcommit₁, hmethod₁, hlocals₁, hplaces₁⟩ :=
    commit_replacements_stmts hnd hlt hreps hsub
  obtain ⟨b₂, hcommit₂, hmethod₂, hlocals₂, hplaces₂⟩ :=
    commit_replacements_stmts hnd hlt (hids.nodup_iff.2 hreps)
      fun id hid => hsub id (hids.subset hid)
  have hleaves₁ : List.Forall₂ (Leaves reps) b.stmts b₁.statements := by
    rw [Body.statements, List.forall₂_map_right_iff]
    exact hplaces₁.imp fun e e' h => h.leaves
  have hleaves₂ : List.Forall₂ (Leaves reps) b.stmts b₂.statements := by
    rw [Body.statements, List.forall₂_map_right_iff]
    exact hplaces₂.imp fun e e' h => h.leaves.of_perm hperm
  rw [hperm.length_eq] at hcommit₂
  exact ⟨b₁, b₂, hcommit₁, hcommit₂, ⟨hmethod₁.trans hmethod₂.symm, hlocals₁.trans hlocals₂.symm,
    (rightUnique_leaves hreps).forall₂ hleaves₁ hleaves₂⟩, hplaces₁⟩

end EditLog

/-! ### Substitutions in two orders -/

namespace Substitution

/-- An order in which the allocations that still wait are enumerated. -/
def IsOrder (order : List Pending → List Pending) : Prop :=
  ∀ waiting, (order waiting).Perm waiting

/-- Rewrites the allocations that still wait, in the given order. -/
def flushIn (order : List Pending → List Pending) (r : Scan) : Scan :=
  (order r.pending).foldl (fun r p => r.rewrite p.id p.replacement) r

end Substitution

/-- The substitution of `new` for `old`, with the allocations that still wait at the end
enumerated in the given order. -/
def Body.replaceTypeIn (order : List Substitution.Pending → List Substitution.Pending) (b : Body)
    (scene : Scene) (old new : Text) : Except Fault SubstitutionReport × Body :=
  match Substitution.retypeAll new (Substitution.namesOf b old) b with
  | (.error fault, b) => (.error fault, b)
  | (.ok renamed, b) =>
    let r := Substitution.flushIn order
      (Substitution.scan scene old new (renamed.map Prod.snd) b)
    let (outcome, b) := EditLog.commit r.log b
    (outcome.map fun _ =>
      { renamed, rewritten := r.rewritten, untouched := r.untouched, skipped := r.skipped
        warnings := Substitution.checkReplacement scene old new ++ r.warnings }, b)

/-- The order in which the allocations wait is one of the orders. -/
theorem Body.replaceTypeIn_id (b : Body) (scene : Scene) (old new : Text) :
    b.replaceTypeIn id scene old new = b.replaceType scene old new :=
  rfl

namespace Substitution

variable {order order' : List Pending → List Pending}

/-- The order as it is. -/
theorem isOrder_id : IsOrder id :=
  fun waiting => .refl waiting

/-- The order backwards. -/
theorem isOrder_reverse : IsOrder List.reverse :=
  List.reverse_perm

/-- Rewriting what waits queues its replacements in the given order. -/
theorem flushIn_eq (order : List Pending → List Pending) (r : Scan) :
    flushIn order r =
      { r with log := r.log ++ EditLog.replacements ((order r.pending).map Pending.rep)
               rewritten := r.rewritten + (order r.pending).length } :=
  foldl_rewrite _ _

/-- The queue of one pass over a body in two orders. -/
theorem commit_flushIn_perm (scene : Scene) (old new : Text) (retyped : List Text) {b : Body}
    (hnd : b.ids.Nodup) (hlt : ∀ id ∈ b.ids, id.index < b.nextId) (h : IsOrder order)
    (h' : IsOrder order') :
    ∃ n b₁ b₂,
      EditLog.commit (flushIn order (scan scene old new retyped b)).log b = (.ok n, b₁) ∧
      EditLog.commit (flushIn order' (scan scene old new retyped b)).log b = (.ok n, b₂) ∧
      b₁.Alike b₂ := by
  obtain ⟨reps, hholds, hperm⟩ := holds_foldl scene old new Scan.holds_empty b.stmts
  rw [← scan] at hholds hperm
  generalize scan scene old new retyped b = r at hholds hperm
  have hperm : (reps ++ r.pending.map Pending.rep).Perm
      (lookAhead scene old new retyped b.stmts) := hperm
  have hqueue : ∀ {order}, IsOrder order → ∃ reps', (flushIn order r).log =
      EditLog.replacements reps' ∧ reps'.Perm (lookAhead scene old new retyped b.stmts) := by
    intro order h
    refine ⟨reps ++ (order r.pending).map Pending.rep, ?_, ?_⟩
    · rw [flushIn_eq, hholds.log_eq, EditLog.replacements_append]
    · exact (((h r.pending).map Pending.rep).append_left reps).trans hperm
  obtain ⟨reps₁, hlog₁, hperm₁⟩ := hqueue h
  obtain ⟨reps₂, hlog₂, hperm₂⟩ := hqueue h'
  have hids := hperm₁.map Prod.fst
  obtain ⟨b₁, b₂, hcommit₁, hcommit₂, halike, -⟩ := EditLog.commit_perm hnd hlt
    (hids.nodup_iff.2 ((ids_lookAhead b.stmts).nodup hnd))
    (fun id hid => (ids_lookAhead b.stmts).subset (hids.subset hid)) (hperm₂.trans hperm₁.symm)
  rw [hlog₁, hlog₂]
  exact ⟨_, b₁, b₂, hcommit₁, hcommit₂, halike⟩

/-- **A substitution in two orders** ends alike. -/
theorem replaceTypeIn_alike {b : Body} (hnd : b.ids.Nodup)
    (hlt : ∀ id ∈ b.ids, id.index < b.nextId) (scene : Scene) (old new : Text)
    (h : IsOrder order) (h' : IsOrder order') :
    (b.replaceTypeIn order scene old new).1 = (b.replaceTypeIn order' scene old new).1 ∧
      (b.replaceTypeIn order scene old new).2.Alike (b.replaceTypeIn order' scene old new).2 := by
  rw [Body.replaceTypeIn, Body.replaceTypeIn]
  rcases hretype : retypeAll new (namesOf b old) b with ⟨fault | renamed, b₁⟩
  · exact ⟨rfl, .refl b₁⟩
  · obtain ⟨-, hids, hnext, -⟩ := retypeAll_eq_ok hretype
    obtain ⟨n, b₂, b₃, hcommit, hcommit', halike⟩ := commit_flushIn_perm scene old new
      (renamed.map Prod.snd) (b := b₁) (hids ▸ hnd) (hids ▸ hnext ▸ hlt) h h'
    dsimp only
    rw [hcommit, hcommit', flushIn_eq, flushIn_eq, (h _).length_eq, (h' _).length_eq]
    exact ⟨rfl, halike⟩

end Substitution

/-- **What does not depend on the order of edits**, for a body. -/
structure Body.OrderLaw (b : Body) : Prop where
  /-- The order in which the allocations came is one of the orders, and the substitution takes
  it. -/
  usual : Substitution.IsOrder id ∧ ∀ (scene : Scene) (old new : Text),
    b.replaceType scene old new = b.replaceTypeIn id scene old new
  /-- A substitution has the same outcome and gives the same locals and statements, whatever the
  order of the allocations that still wait. -/
  substitution : ∀ (scene : Scene) (old new : Text)
      {order order' : List Substitution.Pending → List Substitution.Pending},
    Substitution.IsOrder order → Substitution.IsOrder order' →
      (b.replaceTypeIn order scene old new).1 = (b.replaceTypeIn order' scene old new).1 ∧
        (b.replaceTypeIn order scene old new).2.Alike (b.replaceTypeIn order' scene old new).2
  /-- A queue of replacements of different statements succeeds in any order, and gives the same
  locals and statements. Each statement is replaced in its place or stays there. -/
  queue : ∀ {reps reps' : List (StmtId × Stmt)}, (reps.map Prod.fst).Nodup →
    (∀ id ∈ reps.map Prod.fst, id ∈ b.ids) → reps'.Perm reps →
      ∃ b₁ b₂, EditLog.commit (EditLog.replacements reps) b = (.ok reps.length, b₁) ∧
        EditLog.commit (EditLog.replacements reps') b = (.ok reps.length, b₂) ∧ b₁.Alike b₂ ∧
        List.Forall₂ (EditLog.Places b.nextId reps) b.stmts b₁.stmts

/-- **The order of edits does not matter**, for a body whose handles are distinct and below its
counter, as those of every body are. -/
theorem Body.orderLaw {b : Body} (hnd : b.ids.Nodup) (hlt : ∀ id ∈ b.ids, id.index < b.nextId) :
    b.OrderLaw where
  usual := ⟨Substitution.isOrder_id, fun scene old new => (b.replaceTypeIn_id scene old new).symm⟩
  substitution scene old new _ _ h h' :=
    Substitution.replaceTypeIn_alike hnd hlt scene old new h h'
  queue hreps hsub hperm := EditLog.commit_perm hnd hlt hreps hsub hperm

namespace SampleSubstitution

/-- Two objects for which no constructor is called. -/
def unconstructed : Body :=
  { body with
    stmts := [(⟨0⟩, allocate "x".toList), (⟨1⟩, allocate "y".toList), (⟨2⟩, .ret none)]
    nextId := 3 }

/-- Both allocations wait until the end. In the two orders they get different handles. -/
theorem orderLaw_unconstructed :
    unconstructed.ids.Nodup ∧ (∀ id ∈ unconstructed.ids, id.index < unconstructed.nextId) ∧
      let run := unconstructed.replaceType scene "a.Old".toList "b.New".toList
      let run' := unconstructed.replaceTypeIn List.reverse scene "a.Old".toList "b.New".toList
      run.1 = run'.1 ∧ run.2.Alike run'.2 ∧ run.2.ids ≠ run'.2.ids ∧
        run.2.statements.map Stmt.text =
          ["replaced_x = new b.New".toList, "replaced_y = new b.New".toList, "return".toList] ∧
      ∃ b₁ b₂,
        EditLog.commit (EditLog.replacements [(⟨2⟩, .label "l".toList), (⟨0⟩, .ret none)])
          unconstructed = (.ok 2, b₁) ∧
        EditLog.commit (EditLog.replacements [(⟨0⟩, .ret none), (⟨2⟩, .label "l".toList)])
          unconstructed = (.ok 2, b₂) ∧ b₁.Alike b₂ := by
  have hnd : unconstructed.ids.Nodup := by decide
  have hlt : ∀ id ∈ unconstructed.ids, id.index < unconstructed.nextId := by decide
  have hlaw := Body.orderLaw hnd hlt
  obtain ⟨houtcome, halike⟩ := hlaw.substitution scene "a.Old".toList "b.New".toList
    Substitution.isOrder_id Substitution.isOrder_reverse
  have hswap := List.Perm.swap (⟨0⟩, .ret none) (⟨2⟩, .label "l".toList)
    ([] : List (StmtId × Stmt))
  obtain ⟨b₁, b₂, h₁, h₂, hqueue, -⟩ := hlaw.queue (by decide) (by decide) hswap.symm
  exact ⟨hnd, hlt, houtcome, halike, by decide +kernel, by decide +kernel, b₁, b₂, h₁, h₂, hqueue⟩

end SampleSubstitution

end Weaver
