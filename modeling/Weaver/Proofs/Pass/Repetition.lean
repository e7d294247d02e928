import Weaver.Proofs.Pass.SubstitutionFrame

/-!
# Substituting a Class Twice

After a substitution a body may still mention the old class: allocations and constructor calls
stay where the new class does not declare the constructor, and so does everything that does not
concern a renamed local. A second substitution of the same class meets all of them again and
edits none, because it edits statements on retyped locals only. The first one has left no local
of the old class, so for the second one no local is retyped.

## Main definitions

* `Substitution.Scan.Idle`: the invariant of a pass without retyped locals.

## Main results

* `Substitution.idle_foldl`: such a pass queues nothing.
* `Body.replaceType_again`: **a substitution is idempotent**.
-/

namespace Weaver

namespace Substitution

variable {scene : Scene} {old new : Text} {r : Scan}

/-! ### A pass without retyped locals -/

/-- Nothing is queued, nothing waits, and no allocation had to stay with its call. -/
structure Scan.Idle (r : Scan) : Prop where
  pending_eq : r.pending = []
  log_eq : r.log = []
  rewritten_eq : r.rewritten = 0
  warnings_eq : r.warnings = []

/-- At first the scan is idle. -/
theorem Scan.idle_empty : Scan.empty.Idle :=
  ⟨rfl, rfl, rfl, rfl⟩

/-- Giving up a statement keeps the scan idle. -/
theorem Scan.Idle.skip (h : r.Idle) (s : Stmt) (why : SkipReason) : (r.skip s why).Idle :=
  ⟨h.pending_eq, h.log_eq, h.rewritten_eq, h.warnings_eq⟩

/-- Leaving a statement alone keeps the scan idle. -/
theorem Scan.Idle.leave (h : r.Idle) : r.leave.Idle :=
  ⟨h.pending_eq, h.log_eq, h.rewritten_eq, h.warnings_eq⟩

/-- In an idle scan there is nothing to drop. -/
theorem Scan.Idle.dropPending (h : r.Idle) (x : Text) : r.dropPending x = r := by
  rw [Scan.dropPending, h.pending_eq, List.filter_nil, ← h.pending_eq]

/-- In an idle scan nothing waits. -/
theorem Scan.Idle.pending? (h : r.Idle) (x : Text) : r.pending? x = none := by
  rw [Scan.pending?, h.pending_eq, List.find?_nil]

/-- A special call goes over on a retyped receiver only. -/
theorem exists_rewriteSpecial_nil (scene : Scene) (old new : Text) (e : Invocation) :
    ∃ why, rewriteSpecial scene old new [] e = .error why := by
  rw [rewriteSpecial]
  rcases redirected? scene old new e.method with _ | target
  · exact ⟨_, rfl⟩
  · rcases e.base with _ | base <;> exact ⟨_, rfl⟩

/-- Without retyped locals, special calls keep the scan idle. -/
theorem Scan.Idle.scanSpecial (h : r.Idle) (id : StmtId) (s : Stmt) (e : Invocation) :
    (scanSpecial scene old new [] r id s e).Idle := by
  obtain ⟨why, hwhy⟩ := exists_rewriteSpecial_nil scene old new e
  rw [Substitution.scanSpecial, hwhy]
  rcases e.base with _ | base
  · exact h.skip s why
  · simp only [Option.bind_some, h.pending?, h.dropPending]
    exact h.skip s why

/-- **Without retyped locals, every statement keeps the scan idle.** -/
theorem Scan.Idle.scanStmt (h : r.Idle) (entry : StmtId × Stmt) :
    (scanStmt scene old new [] r entry).Idle := by
  obtain ⟨id, s⟩ := entry
  rcases hspecial : s.special? old with _ | e
  · rcases halloc : s.allocated? old with _ | x
    · rw [scanStmt_of_other_eq scene old new [] r id halloc hspecial]
      split
      · split
        · exact h.skip s .nonLocalTarget
        · exact h.leave
      · exact h
    · rw [scanStmt_of_allocated? scene old new [] r id halloc, if_neg List.not_mem_nil]
      exact h.skip s .missingLocal
  · rw [scanStmt_of_special? scene old new [] r id hspecial]
    exact h.scanSpecial id s e

/-- **A pass without retyped locals queues nothing.** -/
theorem idle_foldl (h : r.Idle) (stmts : List (StmtId × Stmt)) :
    (stmts.foldl (scanStmt scene old new []) r).Idle := by
  induction stmts generalizing r with
  | nil => exact h
  | cons entry rest ih => exact ih (h.scanStmt entry)

/-- At its end an idle scan has nothing to rewrite. -/
theorem Scan.Idle.flush_eq (h : r.Idle) : flush r = r := by
  rw [flush, h.pending_eq, List.foldl_nil]

/-! ### Bodies without locals of the old class -/

/-- A body without locals of the class has no names of such. -/
theorem namesOf_eq_nil {b : Body} (h : ∀ l ∈ b.locals, l.ty.isClass old = false) :
    namesOf b old = [] := by
  rw [namesOf, List.map_eq_nil_iff, List.filter_eq_nil_iff]
  intro l hl
  rw [h l hl]
  exact Bool.false_ne_true

/-- Without locals of the old class a substitution succeeds and changes nothing at all. -/
theorem replaceType_of_no_locals {b : Body} (scene : Scene) (new : Text)
    (h : ∀ l ∈ b.locals, l.ty.isClass old = false) :
    ∃ report, b.replaceType scene old new = (.ok report, b) ∧ report.renamed = [] ∧
      report.rewritten = 0 ∧ report.warnings = checkReplacement scene old new := by
  have hscan : (scan scene old new [] b).Idle := idle_foldl Scan.idle_empty b.stmts
  have hretype : retypeAll new (namesOf b old) b = (.ok [], b) := by
    rw [namesOf_eq_nil h, retypeAll]
  rw [Body.replaceType, ← namesOf, hretype]
  simp only [List.map_nil, hscan.flush_eq, hscan.log_eq, EditLog.commit, hscan.rewritten_eq,
    hscan.warnings_eq, List.append_nil]
  exact ⟨_, rfl, rfl, rfl, rfl⟩

/-- A substitution that succeeds leaves no local of the old class. -/
theorem isClass_eq_false_of_replaceType {b b' : Body} {report : SubstitutionReport}
    (hne : old ≠ new) (hnd : b.names.Nodup) (h : b.replaceType scene old new = (.ok report, b')) :
    ∀ l ∈ b'.locals, l.ty.isClass old = false := by
  intro l hl
  rw [locals_of_replaceType hnd h, locals_retyped hnd] at hl
  exact isClass_eq_false_of_mem hne hl

end Substitution

/-- **A substitution is idempotent.** Once it has succeeded, the same substitution succeeds on the
resulting body in any scene, such as the one that holds this body now. It renames and rewrites
nothing and leaves the body as it is, whatever the first one had to leave on the old class. -/
theorem Body.replaceType_again {b b' : Body} {scene : Scene} {old new : Text}
    {report : SubstitutionReport} (hne : old ≠ new) (hnd : b.names.Nodup)
    (h : b.replaceType scene old new = (.ok report, b')) (scene' : Scene) :
    ∃ report', b'.replaceType scene' old new = (.ok report', b') ∧ report'.renamed = [] ∧
      report'.rewritten = 0 ∧
      report'.warnings = Substitution.checkReplacement scene' old new :=
  Substitution.replaceType_of_no_locals scene' new
    (Substitution.isClass_eq_false_of_replaceType hne hnd h)

namespace SampleSubstitution

/-- The first run keeps an allocation and its constructor call on the old class, and the second
one leaves both. -/
theorem replaceType_again_interleaved :
    "a.Old".toList ≠ "b.New".toList ∧ body.names.Nodup ∧
      ∃ report b' report', body.replaceType scene "a.Old".toList "b.New".toList = (.ok report, b') ∧
        b'.statements.map Stmt.text =
          ["replaced_x = new a.Old".toList, "replaced_y = new b.New".toList,
            "specialinvoke replaced_x.<a.Old: void <init>()>()".toList,
            "specialinvoke replaced_y.<b.New: void <init>(int)>(1)".toList] ∧
        b'.replaceType scene "a.Old".toList "b.New".toList = (.ok report', b') ∧
        report'.renamed = [] ∧ report'.rewritten = 0 := by
  have hne : "a.Old".toList ≠ "b.New".toList := by decide
  have hnd : body.names.Nodup := by decide
  refine ⟨hne, hnd, ?_⟩
  have hok : (body.replaceType scene "a.Old".toList "b.New".toList).1.isOk = true := by
    decide +kernel
  obtain ⟨report, b', hrun⟩ := Substitution.exists_of_isOk hok
  obtain ⟨report', hagain, hrenamed, hrewritten, -⟩ := Body.replaceType_again hne hnd hrun scene
  refine ⟨report, b', report', hrun, ?_, hagain, hrenamed, hrewritten⟩
  obtain rfl : (body.replaceType scene "a.Old".toList "b.New".toList).2 = b' := congrArg _ hrun
  decide +kernel

end SampleSubstitution

end Weaver
