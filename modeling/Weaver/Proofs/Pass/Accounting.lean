import Weaver.Proofs.Pass.SubstitutionFrame

/-!
# The Books of a Substitution

The report of a substitution counts statements: those that were rewritten, those that were given
up, and those that were left alone. Allocations that stay with their constructor call are not
among them, but there is a warning for each. Together these are the statements that mention the
old class, each of them once.

An allocation is booked late: when another one displaces it, when its constructor call comes, or
at the end. Until then it waits. What stays the same during the pass is the sum of everything that
is booked and everything that waits.

## Main definitions

* `Substitution.Fate`, `Substitution.fate?`: what becomes of a statement, by looking ahead.
* `Substitution.Scan.total`: the sum of what is booked and what waits.
* `Substitution.Accounted`: the law.

## Main results

* `Substitution.gains_scanStmt`, `Substitution.gains_foldl`: what one statement and a whole pass
  add to the books.
* `Body.replaceType_accounted`: **the report accounts for every statement that mentions the old
  class**.
-/

namespace Weaver

/-- Whether a warning says that an allocation keeps the old class. -/
def SubstitutionWarning.keepsAllocation : SubstitutionWarning → Bool
  | allocationKept _ _ => true
  | _ => false

/-- Each replacement is two edits. -/
theorem EditLog.length_replacements (reps : List (StmtId × Stmt)) :
    (replacements reps).length = 2 * reps.length := by
  induction reps with
  | nil => rfl
  | cons r rest ih =>
    have hcons : replacements (r :: rest) = replacement r.1 r.2 ++ replacements rest := rfl
    rw [hcons, List.length_append, ih, List.length_cons, Nat.mul_add, Nat.add_comm]
    rfl

namespace Substitution

/-! ### Fates -/

/-- What becomes of a statement that mentions the old class. -/
inductive Fate where
  | rewritten
  | untouched
  /-- An allocation stays since its constructor call stays. -/
  | kept
  | skipped (why : SkipReason)
deriving DecidableEq, Repr

/-- The entry of the report for a statement that is given up. -/
def skippedEntry (s : Stmt) : Option Fate → List (Text × SkipReason)
  | some (.skipped why) => [(s.text, why)]
  | _ => []

section

variable (scene : Scene) (old new : Text) (retyped : List Text)

/-- The fate of a statement with the given ones behind it, if it mentions the old class. -/
def fate? (s : Stmt) (rest : List Stmt) : Option Fate :=
  match s.special? old with
  | some e =>
    match rewriteSpecial scene old new retyped e with
    | .ok _ => some .rewritten
    | .error why => some (.skipped why)
  | none =>
    match s.allocated? old with
    | some x =>
      if List.elem x retyped then
        if turns scene old new retyped x rest then some .rewritten else some .kept
      else some (.skipped .missingLocal)
    | none =>
      if s.mentions old then
        if s.allocates old then some (.skipped .nonLocalTarget) else some .untouched
      else none

/-- A special call on the old class goes over, or is given up for a reason. -/
theorem fate?_of_special? {s : Stmt} {e : Invocation} (h : s.special? old = some e)
    (rest : List Stmt) :
    fate? scene old new retyped s rest =
      match rewriteSpecial scene old new retyped e with
      | .ok _ => some .rewritten
      | .error why => some (.skipped why) := by
  rw [fate?, h]

/-- An allocation into a retyped local turns or stays; any other one is given up. -/
theorem fate?_of_allocated? {s : Stmt} {x : Text} (h : s.allocated? old = some x)
    (rest : List Stmt) :
    fate? scene old new retyped s rest =
      if List.elem x retyped then
        if turns scene old new retyped x rest then some .rewritten else some .kept
      else some (.skipped .missingLocal) := by
  rw [fate?, Stmt.special?_of_allocated? h, h]

/-- Other statements are given up or left alone if they mention the old class. -/
theorem fate?_of_other {s : Stmt} (halloc : s.allocated? old = none)
    (hspecial : s.special? old = none) (rest : List Stmt) :
    fate? scene old new retyped s rest =
      if s.mentions old then
        if s.allocates old then some (.skipped .nonLocalTarget) else some .untouched
      else none := by
  rw [fate?, hspecial, halloc]

/-- The fates of the statements in a chain. -/
def fates : List (StmtId × Stmt) → List (Option Fate)
  | [] => []
  | (_, s) :: rest => fate? scene old new retyped s (rest.map Prod.snd) :: fates rest

/-- Every statement has a fate, if only that of being passed over. -/
theorem length_fates (stmts : List (StmtId × Stmt)) :
    (fates scene old new retyped stmts).length = stmts.length := by
  induction stmts with
  | nil => rfl
  | cons entry rest ih => rw [fates, List.length_cons, List.length_cons, ih]

/-- The fate of a statement depends on it and on those behind it. -/
theorem getElem?_fates (stmts : List (StmtId × Stmt)) (i : Nat) :
    (fates scene old new retyped stmts)[i]? = stmts[i]?.map fun e =>
      fate? scene old new retyped e.2 ((stmts.drop (i + 1)).map Prod.snd) := by
  induction stmts generalizing i with
  | nil => rfl
  | cons entry rest ih =>
    cases i with
    | zero => rfl
    | succ i =>
      rw [fates, List.getElem?_cons_succ, List.getElem?_cons_succ, List.drop_succ_cons]
      exact ih i

/-- The statements that mention the old class have a fate, and no others. -/
theorem isSome_fate? (s : Stmt) (rest : List Stmt) :
    (fate? scene old new retyped s rest).isSome = s.mentions old := by
  rcases hspecial : s.special? old with _ | e
  · rcases halloc : s.allocated? old with _ | x
    · rw [fate?_of_other scene old new retyped halloc hspecial]
      cases s.mentions old
      · rfl
      · cases s.allocates old <;> rfl
    · rw [fate?_of_allocated? scene old new retyped halloc, Stmt.mentions_of_allocated? halloc]
      split
      · split <;> rfl
      · rfl
  · rw [fate?_of_special? scene old new retyped hspecial, Stmt.mentions_of_special? hspecial]
    cases rewriteSpecial scene old new retyped e <;> rfl

/-- The rewritten statements are those for which the look ahead has a replacement. -/
theorem fate?_eq_rewritten_iff (s : Stmt) (rest : List Stmt) :
    fate? scene old new retyped s rest = some .rewritten ↔
      (replacement? scene old new retyped s rest).isSome = true := by
  rw [replacement?]
  rcases hspecial : s.special? old with _ | e
  · rcases halloc : s.allocated? old with _ | x
    · rw [fate?_of_other scene old new retyped halloc hspecial]
      cases s.mentions old
      · simp
      · cases s.allocates old <;> simp
    · rw [fate?_of_allocated? scene old new retyped halloc]
      by_cases hx : x ∈ retyped
      · cases hturns : turns scene old new retyped x rest <;> simp [hx, hturns]
      · simp [hx]
  · obtain ⟨-, hkind, -⟩ := Stmt.eq_of_special? hspecial
    rw [fate?_of_special? scene old new retyped hspecial]
    dsimp only
    rw [← rewriteSpecial_eq scene old new retyped hkind]
    cases rewriteSpecial scene old new retyped e <;> simp [Except.toOption]

/-- The replacements are the statements whose fate is to be rewritten. -/
theorem length_lookAhead (stmts : List (StmtId × Stmt)) :
    (lookAhead scene old new retyped stmts).length =
      (fates scene old new retyped stmts).count (some .rewritten) := by
  induction stmts with
  | nil => rfl
  | cons entry rest ih =>
    obtain ⟨id, s⟩ := entry
    have hiff := fate?_eq_rewritten_iff scene old new retyped s (rest.map Prod.snd)
    rw [lookAhead, fates, List.length_append, ih, List.count_cons, Nat.add_comm]
    rcases hr : replacement? scene old new retyped s (rest.map Prod.snd) with _ | t
    · have hfate : fate? scene old new retyped s (rest.map Prod.snd) ≠ some .rewritten := by
        simp [hiff, hr]
      simp [hfate]
    · have hfate : fate? scene old new retyped s (rest.map Prod.snd) = some .rewritten := by
        simp [hiff, hr]
      simp [hfate]

/-- Every statement that mentions the old class has exactly one of the four fates. -/
theorem countP_mentions (stmts : List (StmtId × Stmt)) :
    stmts.countP (fun e => e.2.mentions old) =
      (fates scene old new retyped stmts).count (some .rewritten) +
        (fates scene old new retyped stmts).count (some .untouched) +
        ((stmts.zip (fates scene old new retyped stmts)).flatMap
          fun p => skippedEntry p.1.2 p.2).length +
        (fates scene old new retyped stmts).count (some .kept) := by
  induction stmts with
  | nil => rfl
  | cons entry rest ih =>
    obtain ⟨id, s⟩ := entry
    have hsome := isSome_fate? scene old new retyped s (rest.map Prod.snd)
    rw [fates, List.countP_cons, ih, List.zip_cons_cons, List.flatMap_cons, List.length_append]
    simp only [List.count_cons, ← hsome]
    rcases fate? scene old new retyped s (rest.map Prod.snd) with _ | f
    · simp [skippedEntry]
    · cases f <;> simp [skippedEntry] <;> omega

end

/-! ### Books -/

/-- Everything that is booked, and what still waits. -/
def Scan.total (r : Scan) : Nat :=
  r.rewritten + r.untouched + r.skipped.length + r.warnings.length + r.pending.length

/-- The queue holds two edits for each rewritten statement, and all warnings are about
allocations that stay. -/
structure Scan.Booked (r : Scan) : Prop where
  length_log : r.log.length = 2 * r.rewritten
  warnings : ∀ w ∈ r.warnings, w.keepsAllocation = true

/-- What has been added to the books: entries for statements that are given up, the number of
those that are left alone, and the number of all. -/
structure Scan.Gains (r r' : Scan) (skipped : List (Text × SkipReason)) (untouched all : Nat) :
    Prop where
  skipped_eq : r'.skipped = r.skipped ++ skipped
  untouched_eq : r'.untouched = r.untouched + untouched
  total_eq : r'.total = r.total + all
  booked : r.Booked → r'.Booked

variable {scene : Scene} {old new : Text} {retyped : List Text} {r r' r'' : Scan}

/-- At first nothing is booked. -/
theorem Scan.booked_empty : Scan.empty.Booked :=
  ⟨rfl, fun w hw => by cases hw⟩

theorem Scan.Gains.refl (r : Scan) : r.Gains r [] 0 0 :=
  ⟨(List.append_nil _).symm, rfl, rfl, id⟩

/-- What is added in two steps is added together. -/
theorem Scan.Gains.trans {l l' : List (Text × SkipReason)} {m m' n n' : Nat}
    (h : r.Gains r' l m n) (h' : r'.Gains r'' l' m' n') :
    r.Gains r'' (l ++ l') (m + m') (n + n') where
  skipped_eq := by rw [h'.skipped_eq, h.skipped_eq, List.append_assoc]
  untouched_eq := by rw [h'.untouched_eq, h.untouched_eq, Nat.add_assoc]
  total_eq := by rw [h'.total_eq, h.total_eq, Nat.add_assoc]
  booked := h'.booked ∘ h.booked

/-! ### One operation -/

/-- A rewritten statement counts once. -/
theorem Scan.total_rewrite (r : Scan) (id : StmtId) (t : Stmt) :
    (r.rewrite id t).total = r.total + 1 := by
  simp only [total, rewrite]
  omega

/-- A statement that is given up counts once. -/
theorem Scan.total_skip (r : Scan) (s : Stmt) (why : SkipReason) :
    (r.skip s why).total = r.total + 1 := by
  simp only [total, skip, List.length_append, List.length_singleton]
  omega

/-- A statement that is left alone counts once. -/
theorem Scan.total_leave (r : Scan) : r.leave.total = r.total + 1 := by
  simp only [total, leave]
  omega

/-- An allocation that no longer waits has still to be booked. -/
theorem Scan.total_dropPending (h : (r.pending.map Pending.base).Nodup) (x : Text) :
    (r.dropPending x).total + (r.pending? x).toList.length = r.total := by
  have hlength := (Scan.pending_perm h x).length_eq
  rw [List.length_append] at hlength
  have htotal : (r.dropPending x).total = r.rewritten + r.untouched + r.skipped.length +
      r.warnings.length + (r.dropPending x).pending.length := rfl
  rw [htotal, total]
  omega

/-- A rewritten statement keeps the books in order. -/
theorem Scan.Booked.rewrite (h : r.Booked) (id : StmtId) (t : Stmt) : (r.rewrite id t).Booked where
  length_log := by
    have hlength : (r.rewrite id t).log.length = r.log.length + 2 := List.length_append
    rw [hlength, h.length_log]
    rfl
  warnings := h.warnings

/-- Dropping an allocation keeps the books in order. -/
theorem Scan.Booked.dropPending (h : r.Booked) (x : Text) : (r.dropPending x).Booked :=
  ⟨h.length_log, h.warnings⟩

/-- Giving up a statement keeps the books in order. -/
theorem Scan.Booked.skip (h : r.Booked) (s : Stmt) (why : SkipReason) : (r.skip s why).Booked :=
  ⟨h.length_log, h.warnings⟩

/-- Giving up a statement adds one entry, with its reason. -/
theorem Scan.gains_skip (r : Scan) (s : Stmt) (why : SkipReason) :
    r.Gains (r.skip s why) [(s.text, why)] 0 1 :=
  ⟨rfl, rfl, r.total_skip s why, fun h => h.skip s why⟩

/-- Leaving a statement alone adds to its count only. -/
theorem Scan.gains_leave (r : Scan) : r.Gains r.leave [] 1 1 :=
  ⟨(List.append_nil _).symm, rfl, r.total_leave, fun h => ⟨h.length_log, h.warnings⟩⟩

/-- An allocation that waits counts at once, and one that it displaces counts as before. -/
theorem Scan.gains_await (h : (r.pending.map Pending.base).Nodup) (p : Pending) :
    r.Gains (r.await p) [] 0 1 := by
  have hdrop := Scan.total_dropPending h p.base
  have hpush : Scan.total
      { r.dropPending p.base with pending := (r.dropPending p.base).pending ++ [p] } =
        (r.dropPending p.base).total + 1 := by
    simp only [Scan.total, List.length_append, List.length_singleton]
    omega
  rw [Scan.await]
  rcases hwait : r.pending? p.base with _ | q
  · rw [hwait] at hdrop
    exact ⟨(List.append_nil _).symm, rfl, hpush.trans (congrArg (· + 1) hdrop),
      fun hb => ⟨hb.length_log, hb.warnings⟩⟩
  · rw [hwait, Option.toList_some, List.length_singleton] at hdrop
    refine ⟨(List.append_nil _).symm, rfl, ?_, fun hb => ?_⟩
    · rw [Scan.total_rewrite, hpush, hdrop]
    · have hpushed : Scan.Booked
          { r.dropPending p.base with pending := (r.dropPending p.base).pending ++ [p] } :=
        ⟨hb.length_log, hb.warnings⟩
      exact hpushed.rewrite q.id q.replacement

/-- The allocation that waits for a special call is booked together with it. -/
theorem Scan.gains_scanSpecial (scene : Scene) (old new : Text) (retyped : List Text)
    (h : (r.pending.map Pending.base).Nodup) (id : StmtId) (s : Stmt) (e : Invocation) :
    r.Gains (scanSpecial scene old new retyped r id s e)
      (match rewriteSpecial scene old new retyped e with
        | .ok _ => []
        | .error why => [(s.text, why)]) 0 1 := by
  rw [scanSpecial]
  -- What waits on the receiver is dropped and booked again, as a warning or as a rewritten
  -- statement.
  rcases e.base with _ | x
  · rcases rewriteSpecial scene old new retyped e with why | t
    · exact r.gains_skip s why
    · exact ⟨(List.append_nil _).symm, rfl, r.total_rewrite id t, fun hb => hb.rewrite id t⟩
  · have hdrop := Scan.total_dropPending h x
    rw [Option.bind_some]
    dsimp only
    rcases rewriteSpecial scene old new retyped e with why | t
    · rcases hwait : r.pending? x with _ | p
      · rw [hwait] at hdrop
        exact ⟨rfl, rfl, (Scan.total_skip _ s why).trans (congrArg (· + 1) hdrop),
          fun hb => (hb.dropPending x).skip s why⟩
      · rw [hwait, Option.toList_some, List.length_singleton] at hdrop
        refine ⟨rfl, rfl, ?_, fun hb => ⟨hb.length_log, fun w hw => ?_⟩⟩
        · have hskip := (r.dropPending x).total_skip s why
          rw [hdrop] at hskip
          rw [← hskip]
          simp only [Scan.total, List.length_append, List.length_singleton]
          omega
        · rcases List.mem_append.1 hw with hw | hw
          · exact hb.warnings w hw
          · rw [List.mem_singleton.1 hw]
            rfl
    · rcases hwait : r.pending? x with _ | p
      · rw [hwait] at hdrop
        exact ⟨(List.append_nil _).symm, rfl,
          (Scan.total_rewrite _ id t).trans (congrArg (· + 1) hdrop),
          fun hb => (hb.dropPending x).rewrite id t⟩
      · rw [hwait, Option.toList_some, List.length_singleton] at hdrop
        refine ⟨(List.append_nil _).symm, rfl, ?_, fun hb => ?_⟩
        · rw [Scan.total_rewrite, Scan.total_rewrite, hdrop]
        · exact ((hb.dropPending x).rewrite id t).rewrite p.id p.replacement

/-! ### One statement and a whole pass -/

/-- **One statement** is booked by its fate. -/
theorem gains_scanStmt (scene : Scene) (old new : Text) (retyped : List Text)
    (h : (r.pending.map Pending.base).Nodup) (id : StmtId) (s : Stmt) (rest : List Stmt) :
    r.Gains (scanStmt scene old new retyped r (id, s))
      (skippedEntry s (fate? scene old new retyped s rest))
      (if fate? scene old new retyped s rest = some .untouched then 1 else 0)
      (if s.mentions old then 1 else 0) := by
  rcases hspecial : s.special? old with _ | e
  · rcases halloc : s.allocated? old with _ | x
    · rw [scanStmt_of_other_eq scene old new retyped r id halloc hspecial,
        fate?_of_other scene old new retyped halloc hspecial]
      cases s.mentions old
      · exact .refl r
      · cases s.allocates old
        · exact r.gains_leave
        · exact r.gains_skip s .nonLocalTarget
    · rw [scanStmt_of_allocated? scene old new retyped r id halloc,
        fate?_of_allocated? scene old new retyped halloc, Stmt.mentions_of_allocated? halloc]
      by_cases hx : x ∈ retyped
      · have hawait := Scan.gains_await h
          { base := x, id, replacement := .assignVar x (.alloc ⟨new⟩) }
        cases turns scene old new retyped x rest <;> simpa [hx, skippedEntry] using hawait
      · simpa [hx, skippedEntry] using r.gains_skip s .missingLocal
  · have hcall := Scan.gains_scanSpecial scene old new retyped h id s e
    rw [scanStmt_of_special? scene old new retyped r id hspecial,
      fate?_of_special? scene old new retyped hspecial, Stmt.mentions_of_special? hspecial]
    cases hrewrite : rewriteSpecial scene old new retyped e <;> rw [hrewrite] at hcall <;>
      simpa [skippedEntry] using hcall

/-- **A whole pass** books every statement by its fate. -/
theorem gains_foldl (scene : Scene) (old new : Text) (retyped : List Text)
    {reps : List (StmtId × Stmt)} (h : r.Holds retyped reps) (stmts : List (StmtId × Stmt)) :
    r.Gains (stmts.foldl (scanStmt scene old new retyped) r)
      ((stmts.zip (fates scene old new retyped stmts)).flatMap fun p => skippedEntry p.1.2 p.2)
      ((fates scene old new retyped stmts).count (some .untouched))
      (stmts.countP fun e => e.2.mentions old) := by
  induction stmts generalizing r reps with
  | nil => exact .refl r
  | cons entry rest ih =>
    obtain ⟨id, s⟩ := entry
    obtain ⟨reps', hholds, -⟩ := advances scene old new h id s (rest.map Prod.snd)
    have hstep := gains_scanStmt scene old new retyped h.nodup_pending id s (rest.map Prod.snd)
    have hrun := hstep.trans (ih hholds)
    rw [fates, List.zip_cons_cons, List.flatMap_cons, List.foldl_cons, List.count_cons,
      List.countP_cons, Nat.add_comm (List.count _ _), Nat.add_comm (List.countP _ _)]
    simpa only [beq_iff_eq] using hrun

/-- The warnings before the pass are about the new class. -/
theorem countP_checkReplacement (scene : Scene) (old new : Text) :
    (checkReplacement scene old new).countP SubstitutionWarning.keepsAllocation = 0 := by
  rw [checkReplacement]
  rcases scene.class? ⟨new⟩ with _ | c
  · rfl
  · cases hc : c.isAbstract <;> cases hs : scene.isSubclass ⟨new⟩ ⟨old⟩ <;>
      simp [hc, SubstitutionWarning.keepsAllocation]

/-! ### The law -/

/-- **How a substitution accounts for the statements of a body**, given before and after it and
with the locals renamed before. The places of the statements are told by `fates`. -/
structure Accounted (old : Text) (report : SubstitutionReport)
    (before after : List (StmtId × Stmt)) (fates : List (Option Fate)) : Prop where
  /-- Every statement that mentions the old class is counted once. -/
  balance : before.countP (fun e => e.2.mentions old) =
    report.rewritten + report.untouched + report.skipped.length +
      report.warnings.countP SubstitutionWarning.keepsAllocation
  length_fates : fates.length = before.length
  /-- The statements that mention the old class have a fate, and no others. -/
  mentions : ∀ {i : Nat} {e : StmtId × Stmt}, before[i]? = some e →
    ((∃ f, fates[i]? = some (some f)) ↔ e.2.mentions old = true)
  rewritten_eq : report.rewritten = fates.count (some .rewritten)
  untouched_eq : report.untouched = fates.count (some .untouched)
  kept_eq : report.warnings.countP SubstitutionWarning.keepsAllocation = fates.count (some .kept)
  /-- The skipped statements are listed in their order, with their texts. -/
  skipped_eq : report.skipped = (before.zip fates).flatMap fun p => skippedEntry p.1.2 p.2
  length_eq : after.length = before.length
  /-- The rewritten ones are replaced under handles that no statement had before, -/
  replaced : ∀ {i : Nat}, fates[i]? = some (some .rewritten) →
    ∃ e, after[i]? = some e ∧ e.1 ∉ before.map Prod.fst
  /-- and all others stay in their places. -/
  stays : ∀ {i : Nat} {e : StmtId × Stmt}, before[i]? = some e →
    fates[i]? ≠ some (some .rewritten) → after[i]? = some e
  /-- The number of rewritten statements is the number of new handles. -/
  replaced_eq : report.rewritten = after.countP fun e => decide (e.1 ∉ before.map Prod.fst)
  /-- Every skipped entry is the text of a statement that is still in its place. -/
  skipped_stays : ∀ entry ∈ report.skipped, ∃ (i : Nat) (e : StmtId × Stmt),
    before[i]? = some e ∧ after[i]? = some e ∧ e.2.text = entry.1 ∧
      fates[i]? = some (some (.skipped entry.2))

/-- **The counts of the report** are those of the fates. -/
theorem flush_scan_counts (scene : Scene) (old new : Text) (retyped : List Text) (b : Body) :
    let r := flush (scan scene old new retyped b)
    let fs := fates scene old new retyped b.stmts
    r.rewritten = fs.count (some .rewritten) ∧ r.untouched = fs.count (some .untouched) ∧
      r.skipped = (b.stmts.zip fs).flatMap (fun p => skippedEntry p.1.2 p.2) ∧
      r.warnings.countP SubstitutionWarning.keepsAllocation = fs.count (some .kept) := by
  intro r fs
  obtain ⟨reps, hholds, hperm⟩ := holds_foldl scene old new Scan.holds_empty b.stmts
  have hgains := gains_foldl scene old new retyped Scan.holds_empty b.stmts
  have hflush : r = _ := foldl_rewrite _ _
  rw [← scan] at hholds hperm hgains
  generalize scan scene old new retyped b = sc at hholds hperm hgains hflush
  obtain ⟨hskipped, huntouched, htotal, hbooked⟩ := hgains
  obtain ⟨hqueue, hwarnings⟩ := hbooked Scan.booked_empty
  -- The queue has two edits for each rewritten statement, and with those that wait the statements
  -- it replaces are all that the look ahead finds.
  have hrewritten : sc.rewritten + sc.pending.length = fs.count (some .rewritten) := by
    have hlength := hperm.length_eq
    rw [hholds.log_eq, EditLog.length_replacements] at hqueue
    rw [List.length_append, List.length_map] at hlength
    have hfound : sc.rewritten = reps.length := by omega
    rw [hfound, hlength]
    exact length_lookAhead scene old new retyped b.stmts
  have huntouched : sc.untouched = fs.count (some .untouched) :=
    huntouched.trans (Nat.zero_add _)
  have hkept : sc.warnings.countP SubstitutionWarning.keepsAllocation =
      fs.count (some .kept) := by
    have hall := countP_mentions scene old new retyped b.stmts
    have hempty : Scan.empty.total = 0 := rfl
    have hlisted : sc.skipped.length = _ := congrArg List.length hskipped
    rw [List.countP_eq_length.2 hwarnings]
    rw [hempty, Scan.total, hlisted, hall] at htotal
    change _ = 0 + (fs.count _ + fs.count _ + _ + fs.count _) at htotal
    simp only [Scan.empty, List.nil_append] at htotal
    omega
  rw [hflush]
  exact ⟨hrewritten, huntouched, hskipped, hkept⟩

/-- What is skipped has a place among the fates. -/
theorem exists_place_of_mem_skipped {before : List (StmtId × Stmt)} {fates : List (Option Fate)}
    {entry : Text × SkipReason}
    (h : entry ∈ (before.zip fates).flatMap fun p => skippedEntry p.1.2 p.2) :
    ∃ (i : Nat) (e : StmtId × Stmt), before[i]? = some e ∧ e.2.text = entry.1 ∧
      fates[i]? = some (some (.skipped entry.2)) := by
  obtain ⟨⟨e, f⟩, hmem, hentry⟩ := List.mem_flatMap.1 h
  obtain ⟨i, hi⟩ := List.mem_iff_getElem?.1 hmem
  obtain ⟨he, hf⟩ := List.getElem?_zip_eq_some.1 hi
  dsimp only at hentry he hf
  unfold skippedEntry at hentry
  split at hentry
  · rw [List.mem_singleton.1 hentry]
    exact ⟨i, e, he, rfl, hf⟩
  · cases hentry

/-- Handles in a chain whose replaced places are told by fates. -/
theorem countP_new_handles {before after : List (StmtId × Stmt)} {fates : List (Option Fate)}
    (hfates : fates.length = before.length) (hlength : after.length = before.length)
    (hreplaced : ∀ {i : Nat}, fates[i]? = some (some .rewritten) →
      ∃ e, after[i]? = some e ∧ e.1 ∉ before.map Prod.fst)
    (hstays : ∀ {i : Nat} {e : StmtId × Stmt}, before[i]? = some e →
      fates[i]? ≠ some (some .rewritten) → after[i]? = some e) :
    after.countP (fun e => decide (e.1 ∉ before.map Prod.fst)) =
      fates.count (some .rewritten) := by
  have hsame : (after.map fun e => decide (e.1 ∉ before.map Prod.fst)) =
      fates.map (· == some .rewritten) := by
    refine List.ext_getElem (by rw [List.length_map, List.length_map, hlength, hfates])
      fun i hi hi' => ?_
    rw [List.length_map] at hi hi'
    rw [List.getElem_map, List.getElem_map]
    have hget : fates[i]? = some fates[i] := List.getElem?_eq_getElem hi'
    by_cases hfate : fates[i] = some .rewritten
    · obtain ⟨e, he, hnew⟩ := hreplaced (hget.trans (congrArg some hfate))
      rw [List.getElem?_eq_getElem hi, Option.some.injEq] at he
      rw [he, hfate, decide_eq_true hnew]
      rfl
    · have hold : before[i]? = some before[i] := List.getElem?_eq_getElem (hlength ▸ hi)
      have he := hstays hold (by rwa [hget, Ne, Option.some.injEq])
      rw [List.getElem?_eq_getElem hi, Option.some.injEq] at he
      have hmem : before[i].1 ∈ before.map Prod.fst :=
        List.mem_map_of_mem (List.mem_of_getElem? hold)
      rw [he, decide_eq_false (not_not.2 hmem), beq_false_of_ne hfate]
  have hcount := congrArg (List.countP id) hsame
  rw [List.countP_map, List.countP_map] at hcount
  exact hcount

/-- The edits of a pass over a body, whose locals have been renamed, are accounted for. -/
theorem accounted_of_commit {b b' : Body} (hnd : b.ids.Nodup)
    (hlt : ∀ id ∈ b.ids, id.index < b.nextId) {scene : Scene} {old new : Text}
    {retyped : List Text} {n : Nat}
    (hcommit : EditLog.commit (flush (scan scene old new retyped b)).log b = (.ok n, b'))
    {report : SubstitutionReport}
    (hrewritten : report.rewritten = (flush (scan scene old new retyped b)).rewritten)
    (huntouched : report.untouched = (flush (scan scene old new retyped b)).untouched)
    (hskipped : report.skipped = (flush (scan scene old new retyped b)).skipped)
    (hwarnings : report.warnings = checkReplacement scene old new ++
      (flush (scan scene old new retyped b)).warnings) :
    Accounted old report b.stmts b'.stmts (fates scene old new retyped b.stmts) := by
  obtain ⟨reps, hlog, hperm⟩ := scan_perm scene old new Scan.holds_empty b.stmts
  obtain ⟨b₂, hcommit₂, -, hlength, hafter⟩ :=
    commit_lookAhead scene old new retyped hnd hlt hperm
  rw [← hlog] at hcommit₂
  obtain rfl : b₂ = b' := congrArg Prod.snd (hcommit₂.symm.trans hcommit)
  obtain ⟨hcount₁, hcount₂, hcount₃, hcount₄⟩ := flush_scan_counts scene old new retyped b
  rw [← hrewritten] at hcount₁
  rw [← huntouched] at hcount₂
  rw [← hskipped] at hcount₃
  have hkept : report.warnings.countP SubstitutionWarning.keepsAllocation =
      (fates scene old new retyped b.stmts).count (some .kept) := by
    rw [hwarnings, List.countP_append, countP_checkReplacement, Nat.zero_add, hcount₄]
  -- Position by position, the queue does what the look ahead says.
  have hfate : ∀ {i : Nat} {e : StmtId × Stmt}, b.stmts[i]? = some e →
      (fates scene old new retyped b.stmts)[i]? =
        some (fate? scene old new retyped e.2 (b.statements.drop (i + 1))) := by
    intro i e he
    rw [getElem?_fates, he, Option.map_some, Body.statements, List.map_drop]
  have hreplaced : ∀ {i : Nat},
      (fates scene old new retyped b.stmts)[i]? = some (some .rewritten) →
        ∃ e, b₂.stmts[i]? = some e ∧ e.1 ∉ b.stmts.map Prod.fst := by
    intro i hi
    rcases he : b.stmts[i]? with _ | ⟨id, s⟩
    · rw [getElem?_fates, he] at hi
      cases hi
    · rw [hfate he, Option.some.injEq, fate?_eq_rewritten_iff] at hi
      obtain ⟨id', hget, hnew⟩ := hafter he
      rw [if_pos hi] at hnew
      exact ⟨_, hget, fun hin => absurd (hlt id' hin) (Nat.not_lt.2 hnew)⟩
  have hstays : ∀ {i : Nat} {e : StmtId × Stmt}, b.stmts[i]? = some e →
      (fates scene old new retyped b.stmts)[i]? ≠ some (some .rewritten) →
        b₂.stmts[i]? = some e := by
    rintro i ⟨id, s⟩ he hi
    rw [hfate he, Ne, Option.some.injEq, fate?_eq_rewritten_iff, Bool.not_eq_true,
      Option.isSome_eq_false_iff, Option.isNone_iff_eq_none] at hi
    obtain ⟨id', hget, hsame⟩ := hafter he
    rw [hi] at hget hsame
    obtain rfl : id' = id := hsame
    exact hget
  exact {
    balance := by rw [countP_mentions, ← hcount₁, ← hcount₂, ← hcount₃, ← hkept]
    length_fates := length_fates scene old new retyped b.stmts
    mentions := fun {i e} he => by
      rw [hfate he, ← isSome_fate? scene old new retyped e.2 (b.statements.drop (i + 1)),
        Option.isSome_iff_exists]
      simp only [Option.some.injEq]
    rewritten_eq := hcount₁
    untouched_eq := hcount₂
    kept_eq := hkept
    skipped_eq := hcount₃
    length_eq := hlength
    replaced := hreplaced
    stays := hstays
    replaced_eq := by
      rw [hcount₁]
      exact (countP_new_handles (length_fates scene old new retyped b.stmts) hlength hreplaced
        hstays).symm
    skipped_stays := fun entry hentry => by
      obtain ⟨i, e, he, htext, hskip⟩ := exists_place_of_mem_skipped (hcount₃ ▸ hentry)
      refine ⟨i, e, he, hstays he ?_, htext, hskip⟩
      rw [hskip]
      simp }

end Substitution

/-- **The report accounts for every statement that mentions the old class**, for a body whose
handles are distinct and below its counter, as those of every body are. -/
theorem Body.replaceType_accounted {b b' : Body} {scene : Scene} {old new : Text}
    {report : SubstitutionReport} (hnd : b.ids.Nodup) (hlt : ∀ id ∈ b.ids, id.index < b.nextId)
    (h : b.replaceType scene old new = (.ok report, b')) :
    ∃ fates, Substitution.Accounted old report
      (b.stmts.map fun e => (e.1, Substitution.renamedStmt report.renamed e.2)) b'.stmts fates := by
  obtain ⟨b₁, n, hretype, hcommit, hreport⟩ := Substitution.replaceType_eq_ok h
  obtain ⟨-, hids, hnext, -⟩ := Substitution.retypeAll_eq_ok hretype
  rw [← Substitution.stmts_of_retypeAll hretype]
  exact ⟨_, Substitution.accounted_of_commit (hids ▸ hnd) (hids ▸ hnext ▸ hlt) hcommit
    (congrArg SubstitutionReport.rewritten hreport)
    (congrArg SubstitutionReport.untouched hreport)
    (congrArg SubstitutionReport.skipped hreport)
    (congrArg SubstitutionReport.warnings hreport)⟩

namespace SampleSubstitution

/-- Statements of every fate: the object in `x` has no constructor that can go over, `z` has
another type, and a field of the old class is read. -/
def mixed : Body :=
  { body with
    locals := body.locals ++ [⟨"z".toList, .class_ "java.lang.Object".toList⟩]
    stmts := body.stmts ++ [
      (⟨4⟩, allocate "z".toList),
      (⟨5⟩, .assignVar "z".toList
        (.staticField { cls := ⟨"a.Old".toList⟩, ty := .int, name := "count".toList })),
      (⟨6⟩, .ret none)]
    nextId := 7 }

/-- The account of a body whose statements meet every kind of fate. -/
theorem replaceType_accounted_mixed :
    mixed.ids.Nodup ∧ (∀ id ∈ mixed.ids, id.index < mixed.nextId) ∧
      ∃ report b' fates,
        mixed.replaceType scene "a.Old".toList "b.New".toList = (.ok report, b') ∧
        Substitution.Accounted "a.Old".toList report
          (mixed.stmts.map fun e => (e.1, Substitution.renamedStmt report.renamed e.2))
          b'.stmts fates ∧
        report.rewritten = 2 ∧ report.untouched = 1 ∧
        report.skipped =
          [("specialinvoke replaced_x.<a.Old: void <init>()>()".toList, .unresolvedConstructor),
            ("z = new a.Old".toList, .missingLocal)] ∧
        report.warnings.countP SubstitutionWarning.keepsAllocation = 1 := by
  have hnd : mixed.ids.Nodup := by decide
  have hlt : ∀ id ∈ mixed.ids, id.index < mixed.nextId := by decide
  refine ⟨hnd, hlt, ?_⟩
  generalize hrun : mixed.replaceType scene "a.Old".toList "b.New".toList = run
  have hreport : ∃ report ∈ (mixed.replaceType scene "a.Old".toList "b.New".toList).1.toOption,
      report.rewritten = 2 ∧ report.untouched = 1 ∧
        report.skipped =
          [("specialinvoke replaced_x.<a.Old: void <init>()>()".toList, .unresolvedConstructor),
            ("z = new a.Old".toList, .missingLocal)] ∧
        report.warnings.countP SubstitutionWarning.keepsAllocation = 1 := by
    decide +kernel
  obtain ⟨outcome | report, b'⟩ := run
  · rw [hrun] at hreport
    obtain ⟨report, hmem, -⟩ := hreport
    cases hmem
  · rw [hrun] at hreport
    obtain ⟨report', hmem, hcounts⟩ := hreport
    obtain rfl : report = report' := Option.some.inj hmem
    obtain ⟨fates, haccounted⟩ := Body.replaceType_accounted hnd hlt hrun
    exact ⟨report, b', fates, rfl, haccounted, hcounts⟩

end SampleSubstitution

end Weaver
