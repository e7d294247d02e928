import Weaver.Proofs.Jimple.Regrouping
import Weaver.Proofs.Pass.BodyHistory
import Weaver.Proofs.Pass.SubstitutionFrame

/-!
# Substitution in Regrouped Bodies

A substitution renames the locals of the old class one after the other, in the order of their
declaration, and each of them may clash with a name that is declared at this point. In regrouped
bodies it is the same locals in the same order, and the names declared at each point are the same,
though not in the same order: retyped locals move to the type of the new class, so that the bodies
need not be regrouped any more, but only **reordered**. That is enough for what comes behind, since
the scan over the statements looks at no local, and at handles only to queue its edits.

## Main definitions

* `Body.Reordered`: bodies with the same statements and the same locals in some order.
* `Substitution.Scan.Alike`: what two scans have found, apart from handles.

## Main results

* `Substitution.retypeAll_reordered`: renaming one after the other.
* `Substitution.scan_alike`: **the scan counts, skips and warns alike**.
* `Body.Regrouped.replaceType`: **the substitution ends alike**, with the same statements.
-/

namespace Weaver

/-! ### Reordered locals -/

/-- The body `b'` has the statements of `b`, and its locals in some order. -/
structure Body.Reordered (b b' : Body) : Prop where
  statements_eq : b'.statements = b.statements
  perm : b'.locals.Perm b.locals

/-- Regrouping puts the locals in another order. -/
theorem Body.Regrouped.reordered {b b' : Body} (h : b.Regrouped b') : b.Reordered b' :=
  ⟨h.statements_eq, h.perm⟩

namespace Body.Reordered

variable {b b' : Body} (h : b.Reordered b')
include h

/-- Both bodies declare the same names. -/
theorem declares_eq (name : Text) : b'.declares name = b.declares name := by
  rw [Bool.eq_iff_iff, declares_iff, declares_iff]
  exact (h.perm.map Local.name).mem_iff

/-- **One renaming** fails on both, or gives reordered bodies. -/
theorem retypeLocal_cases (hnd : b.names.Nodup) (name newName : Text) (ty : Ty) :
    (∃ fault, b.retypeLocal name newName ty = .error fault ∧
        b'.retypeLocal name newName ty = .error fault) ∨
      ∃ l b₁ b₁', b.retypeLocal name newName ty = .ok (l, b₁) ∧
        b'.retypeLocal name newName ty = .ok (l, b₁') ∧ b₁.Reordered b₁' := by
  rw [Body.retypeLocal, Body.retypeLocal, h.declares_eq, h.declares_eq]
  by_cases hclash : name ≠ newName ∧ b.declares newName
  · rw [if_pos hclash, if_pos hclash]
    exact .inl ⟨_, rfl, rfl⟩
  · rw [if_neg hclash, if_neg hclash]
    cases b.declares name with
    | false => exact .inl ⟨_, rfl, rfl⟩
    | true =>
      refine .inr ⟨_, _, _, rfl, rfl, ?_, ?_⟩
      · have hrename : ∀ c : Body, (c.stmts.map fun s => (s.1, s.2.rename name newName)).map
            Prod.snd = c.statements.map (Stmt.rename name newName) := by
          intro c
          rw [statements, List.map_map, List.map_map]
          rfl
        rw [statements, statements, hrename, hrename, h.statements_eq]
      · have hnd' : b'.names.Nodup := (h.perm.map Local.name).nodup_iff.2 hnd
        rw [replaceLocal_eq_map hnd, replaceLocal_eq_map hnd']
        exact h.perm.map _

end Body.Reordered

namespace Substitution

/-- **Renaming one after the other** ends alike, and leaves reordered bodies. -/
theorem retypeAll_reordered {b b' : Body} (h : b.Reordered b') (hb : b.Sound) (new : Text)
    (names : List Text) : (retypeAll new names b').1 = (retypeAll new names b).1 ∧
      (retypeAll new names b).2.Reordered (retypeAll new names b').2 := by
  induction names generalizing b b' with
  | nil => exact ⟨rfl, h⟩
  | cons name rest ih =>
    rw [retypeAll, retypeAll]
    obtain ⟨fault, hrun, hrun'⟩ | ⟨l, b₁, b₁', hrun, hrun', hnext⟩ :=
      h.retypeLocal_cases hb.nodup_names name (replacedName name) (.class_ new)
    · rw [hrun, hrun']
      exact ⟨rfl, h⟩
    · rw [hrun, hrun']
      obtain ⟨houtcome, hbodies⟩ := ih hnext ((Body.retypeLocal_evolves hrun).sound hb)
      simp only [houtcome]
      exact ⟨trivial, hbodies⟩

/-! ### Scans -/

section

variable {s s' : Scene} (h : s.Regrouped s') (old new : Text)
include h

/-- A redirected call asks the scene for a method, not for its body. -/
theorem redirected?_regrouped : redirected? s' old new = redirected? s old new := by
  funext m
  rw [redirected?, redirected?]
  split
  · rw [isSome_of_rel (h.method? _)]
  · rfl

/-- A statement is scanned alike in both scenes. -/
theorem scanStmt_regrouped (retyped : List Text) :
    scanStmt s' old new retyped = scanStmt s old new retyped := by
  have hspecial : scanSpecial s' old new retyped = scanSpecial s old new retyped := by
    funext r id t e
    simp only [scanSpecial, rewriteSpecial, redirected?_regrouped h]
  funext r entry
  simp only [scanStmt, hspecial]

/-- A statement is replaced alike in both scenes. -/
theorem replacement?_regrouped (retyped : List Text) :
    replacement? s' old new retyped = replacement? s old new retyped := by
  have hredirection : redirection? s' old new retyped = redirection? s old new retyped := by
    funext e
    rw [redirection?, redirection?, redirected?_regrouped h]
  have hturns : turns s' old new retyped = turns s old new retyped := by
    funext x rest
    simp only [turns, hredirection]
  funext t rest
  simp only [replacement?, hturns, hredirection]

/-- The new class is checked alike in both scenes. -/
theorem checkReplacement_regrouped : checkReplacement s' old new = checkReplacement s old new := by
  rw [checkReplacement, checkReplacement, h.isSubclass_eq]
  have hclass := h.class? ⟨new⟩
  generalize s.class? ⟨new⟩ = c at hclass
  generalize s'.class? ⟨new⟩ = c' at hclass
  cases hclass with
  | none => rfl
  | some hc => simp only [hc.isAbstract_eq]

end

/-- Two scans have found **the same**, apart from the handles of statements: allocations wait on
the same locals, and all counts, reasons and warnings agree. -/
structure Scan.Alike (r r' : Scan) : Prop where
  pending : r'.pending.map Pending.base = r.pending.map Pending.base
  rewritten : r'.rewritten = r.rewritten
  untouched : r'.untouched = r.untouched
  skipped : r'.skipped = r.skipped
  warnings : r'.warnings = r.warnings

namespace Scan.Alike

theorem refl (r : Scan) : r.Alike r :=
  ⟨rfl, rfl, rfl, rfl, rfl⟩

variable {r r' : Scan} (h : r.Alike r')
include h

/-- Scans stay alike when both rewrite a statement. -/
theorem rewrite (id id' : StmtId) (t t' : Stmt) :
    (r.rewrite id t).Alike (r'.rewrite id' t') :=
  ⟨h.pending, congrArg (· + 1) h.rewritten, h.untouched, h.skipped, h.warnings⟩

/-- Scans stay alike when both give up a statement. -/
theorem skip (s : Stmt) (why : SkipReason) : (r.skip s why).Alike (r'.skip s why) :=
  ⟨h.pending, h.rewritten, h.untouched, congrArg (· ++ _) h.skipped, h.warnings⟩

/-- Scans stay alike when both leave a statement alone. -/
theorem leave : r.leave.Alike r'.leave :=
  ⟨h.pending, h.rewritten, congrArg (· + 1) h.untouched, h.skipped, h.warnings⟩

/-- Scans stay alike when both drop an allocation. -/
theorem dropPending (x : Text) : (r.dropPending x).Alike (r'.dropPending x) := by
  refine ⟨?_, h.rewritten, h.untouched, h.skipped, h.warnings⟩
  have hfilter : ∀ ps : List Pending, (ps.filter fun p => p.base != x).map Pending.base =
      (ps.map Pending.base).filter (· != x) := fun ps => by
    rw [List.filter_map]
    rfl
  rw [Scan.dropPending, Scan.dropPending, hfilter, hfilter, h.pending]

/-- An allocation waits on a local in both, or in neither. -/
theorem pending?_rel (x : Text) :
    Option.Rel (fun p p' => p'.base = p.base) (r.pending? x) (r'.pending? x) := by
  have hpairs : List.Forall₂ (fun p p' : Pending => p'.base = p.base) r.pending r'.pending := by
    have heq := h.pending
    rw [← List.forall₂_eq_eq_eq, List.forall₂_map_left_iff, List.forall₂_map_right_iff] at heq
    exact heq.flip
  exact find?_rel hpairs fun p p' hp => by rw [hp]

/-- An allocation waits from now on. -/
theorem await {p p' : Pending} (hp : p'.base = p.base) : (r.await p).Alike (r'.await p') := by
  have hwait := h.pending?_rel p.base
  have hdrop := h.dropPending p.base
  have hpush : Scan.Alike
      { r.dropPending p.base with pending := (r.dropPending p.base).pending ++ [p] }
      { r'.dropPending p.base with pending := (r'.dropPending p.base).pending ++ [p'] } := by
    refine ⟨?_, hdrop.rewritten, hdrop.untouched, hdrop.skipped, hdrop.warnings⟩
    rw [List.map_append, List.map_append, hdrop.pending, List.map_singleton, List.map_singleton, hp]
  rw [Scan.await, Scan.await, hp]
  generalize r.pending? p.base = q at hwait
  generalize r'.pending? p.base = q' at hwait
  cases hwait with
  | none => exact hpush
  | some _ => exact hpush.rewrite ..

/-- Scans stay alike when both warn about the same local. -/
theorem warn {x x' : Text} (hx : x' = x) (old : Text) :
    Scan.Alike { r with warnings := r.warnings ++ [.allocationKept x old] }
      { r' with warnings := r'.warnings ++ [.allocationKept x' old] } := by
  refine ⟨h.pending, h.rewritten, h.untouched, h.skipped, ?_⟩
  dsimp only
  rw [h.warnings, hx]

/-- A special call is answered alike, together with the allocation that waits for it. -/
theorem scanSpecial (scene : Scene) (old new : Text) (retyped : List Text) (id id' : StmtId)
    (t : Stmt) (e : Invocation) :
    (Substitution.scanSpecial scene old new retyped r id t e).Alike
      (Substitution.scanSpecial scene old new retyped r' id' t e) := by
  rw [Substitution.scanSpecial, Substitution.scanSpecial]
  cases hbase : e.base with
  | none =>
    simp only [Option.bind_none]
    cases rewriteSpecial scene old new retyped e with
    | error why => exact h.skip t why
    | ok new => exact h.rewrite ..
  | some x =>
    simp only [Option.bind_some]
    have hwait := h.pending?_rel x
    have hdrop := h.dropPending x
    generalize r.pending? x = q at hwait
    generalize r'.pending? x = q' at hwait
    cases rewriteSpecial scene old new retyped e with
    | error why =>
      have hskip := hdrop.skip t why
      cases hwait with
      | none => exact hskip
      | some hp => exact hskip.warn hp old
    | ok new =>
      have hrewrite := hdrop.rewrite id id' new new
      cases hwait with
      | none => exact hrewrite
      | some _ => exact hrewrite.rewrite ..

/-- **One statement**, under any handles. -/
theorem scanStmt (scene : Scene) (old new : Text) (retyped : List Text) (id id' : StmtId)
    (t : Stmt) : (Substitution.scanStmt scene old new retyped r (id, t)).Alike
      (Substitution.scanStmt scene old new retyped r' (id', t)) := by
  cases hspecial : t.special? old with
  | some e =>
    rw [scanStmt_of_special? scene old new retyped r id hspecial,
      scanStmt_of_special? scene old new retyped r' id' hspecial]
    exact h.scanSpecial ..
  | none =>
    cases halloc : t.allocated? old with
    | some x =>
      rw [scanStmt_of_allocated? scene old new retyped r id halloc,
        scanStmt_of_allocated? scene old new retyped r' id' halloc]
      split
      · exact h.await rfl
      · exact h.skip ..
    | none =>
      rw [scanStmt_of_other_eq scene old new retyped r id halloc hspecial,
        scanStmt_of_other_eq scene old new retyped r' id' halloc hspecial]
      split
      · split
        · exact h.skip ..
        · exact h.leave
      · exact h

/-- **All statements**, under any handles. -/
theorem foldl (scene : Scene) (old new : Text) (retyped : List Text)
    {entries entries' : List (StmtId × Stmt)}
    (hstmts : entries'.map Prod.snd = entries.map Prod.snd) :
    (entries.foldl (Substitution.scanStmt scene old new retyped) r).Alike
      (entries'.foldl (Substitution.scanStmt scene old new retyped) r') := by
  induction entries generalizing entries' r r' with
  | nil =>
    rw [List.map_eq_nil_iff.1 hstmts]
    exact h
  | cons entry entries ih =>
    obtain ⟨entry', entries', rfl⟩ := List.exists_cons_of_ne_nil fun hnil : entries' = [] => by
      rw [hnil] at hstmts
      cases hstmts
    obtain ⟨hstmt, hrest⟩ := List.cons.inj hstmts
    obtain ⟨id, t⟩ := entry
    obtain ⟨id', t'⟩ := entry'
    obtain rfl : t' = t := hstmt
    exact ih (h.scanStmt scene old new retyped id id' t') hrest

end Scan.Alike

/-- **The scan counts, skips and warns alike**, with what still waits in the end. -/
theorem scan_alike (scene : Scene) (old new : Text) (retyped : List Text) {b b' : Body}
    (h : b.Reordered b') :
    (flush (scan scene old new retyped b)).Alike (flush (scan scene old new retyped b')) := by
  have hscan : (scan scene old new retyped b).Alike (scan scene old new retyped b') :=
    (Scan.Alike.refl .empty).foldl scene old new retyped h.statements_eq
  have hlength := congrArg List.length hscan.pending
  rw [List.length_map, List.length_map] at hlength
  rw [flush, flush, foldl_rewrite, foldl_rewrite]
  refine ⟨hscan.pending, ?_, hscan.untouched, hscan.skipped, hscan.warnings⟩
  dsimp only
  rw [hscan.rewritten, hlength]

end Substitution

/-! ### The substitution -/

/-- **A substitution ends alike** on regrouped bodies, in regrouped scenes: with the same fault, or
with the same report and the same statements. -/
theorem Body.Regrouped.replaceType {b b' : Body} (h : b.Regrouped b') (hb : b.Sound)
    (hb' : b'.Sound) {s s' : Scene} (hs : s.Regrouped s') (old new : Text) :
    (b'.replaceType s' old new).1 = (b.replaceType s old new).1 ∧
      ((b.replaceType s old new).1.isOk = true →
        (b'.replaceType s' old new).2.statements = (b.replaceType s old new).2.statements) := by
  have hnames := h.names_of_class_eq old
  let names := (b.locals.filter fun l => l.ty.isClass old).map Local.name
  obtain ⟨houtcome, hreordered⟩ := Substitution.retypeAll_reordered h.reordered hb new names
  have hsound := (Substitution.retypeAll_evolves new names b).sound hb
  have hsound' := (Substitution.retypeAll_evolves new names b').sound hb'
  rw [Body.replaceType, Body.replaceType, hnames]
  dsimp only
  generalize hrun : Substitution.retypeAll new names b = run at houtcome hreordered hsound
  generalize hrun' : Substitution.retypeAll new names b' = run' at houtcome hreordered hsound'
  obtain ⟨outcome, b₁⟩ := run
  obtain ⟨outcome', b₁'⟩ := run'
  obtain rfl : outcome' = outcome := houtcome
  cases outcome' with
  | error fault => exact ⟨rfl, fun hok => by cases hok⟩
  | ok renamed =>
    dsimp only at hreordered hsound hsound' ⊢
    let retyped := renamed.map Prod.snd
    -- From here on the bodies have the same statements, and their locals do not matter any more.
    have hscan := Substitution.scan_alike s old new retyped hreordered
    obtain ⟨n, b₂, hcommit, hlength, hafter⟩ :=
      Substitution.commit_scan s old new retyped hsound.nodup_ids hsound.ids_lt
    obtain ⟨n', b₂', hcommit', hlength', hafter'⟩ :=
      Substitution.commit_scan s' old new retyped hsound'.nodup_ids hsound'.ids_lt
    have hscan' : Substitution.scan s' old new retyped b₁' =
        Substitution.scan s old new retyped b₁' := by
      rw [Substitution.scan, Substitution.scan, Substitution.scanStmt_regrouped hs]
    rw [hcommit, hcommit', hscan', hscan.rewritten, hscan.untouched, hscan.skipped, hscan.warnings,
      Substitution.checkReplacement_regrouped hs]
    refine ⟨rfl, fun _ => List.ext_getElem? fun i => ?_⟩
    rw [hreordered.statements_eq] at hlength' hafter'
    change b₂'.statements[i]? = b₂.statements[i]?
    cases hi : b₁.statements[i]? with
    | none =>
      have hle := List.getElem?_eq_none_iff.1 hi
      rw [List.getElem?_eq_none (by omega), List.getElem?_eq_none (by omega)]
    | some t =>
      rw [hafter hi, hafter' hi, Substitution.replacement?_regrouped hs]

end Weaver
