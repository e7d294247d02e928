import Mathlib.Data.List.Forall2
import Weaver.Pass.Substitution
import Weaver.Proofs.Jimple.Evolution
import Weaver.Proofs.Text.Cutting

/-!
# Allocation and Constructor Move Together

The substitution of a class goes over a body once. Allocations wait for the constructor call
on their local; a call takes the allocation along or leaves it behind, a second allocation
on the same local sets the first one free, and what still waits at the end is free as well.
Edits are queued on the way and out of order.

All this is the same as looking ahead: what becomes of an allocation is decided by the next
statement behind it that allocates into its local or is a special call on it. The invariant
that ties the two together is about the rest of the body: of the allocations that wait, the
ones that will be rewritten are those that a look ahead from here sets free.

## Main definitions

* `Stmt.allocated?`, `Stmt.special?`: the statements in question.
* `Substitution.replacement?`: what takes the place of a statement, by looking ahead.
* `Substitution.Redirects`, `Substitution.FreeAhead`, `Substitution.Paired`: the law.

## Main results

* `EditLog.commit_replacements_stmts`: a queue of replacements, in any order.
* `Substitution.advances`, `Substitution.scan_perm`: scanning is looking ahead.
* `Body.replaceType_paired`: allocation and constructor move together.
-/

namespace Weaver

/-! ### Statements on a class -/

namespace Stmt

/-- The local into which a statement allocates an object of the class `old`. -/
def allocated? (old : Text) : Stmt → Option Text
  | .assign (.var x) (.alloc cls) => if cls.chars = old then some x else none
  | _ => none

/-- Whether a statement allocates an object of the class `old`, wherever it is stored. -/
def allocates (old : Text) : Stmt → Bool
  | .assign _ (.alloc cls) => cls.chars == old
  | _ => false

/-- The invocation of a special call on the class `old`. -/
def special? (old : Text) : Stmt → Option Invocation
  | .invoke e => if e.kind = .special ∧ e.method.cls.chars = old then some e else none
  | _ => none

/-- Whether a statement allocates an object of the class `old` into the local `x` or is a
special call on this class with the receiver `x`. -/
def concerns (old x : Text) (s : Stmt) : Bool :=
  s.allocated? old == some x || (s.special? old).any fun e => e.base == some x

/-- The local is assigned a new object of the class. -/
theorem eq_of_allocated? {old x : Text} {s : Stmt} (h : s.allocated? old = some x) :
    s = .assignVar x (.alloc ⟨old⟩) := by
  unfold allocated? at h
  split at h
  · split at h
    · next hcls =>
      obtain rfl := Option.some.inj h
      rw [← hcls]
      rfl
    · cases h
  · cases h

/-- The statement is a special call, and its method is of the class. -/
theorem eq_of_special? {old : Text} {s : Stmt} {e : Invocation} (h : s.special? old = some e) :
    s = .invoke e ∧ e.kind = .special ∧ e.method.cls.chars = old := by
  unfold special? at h
  split at h
  · split at h
    · next hspecial =>
      obtain rfl := Option.some.inj h
      exact ⟨rfl, hspecial⟩
    · cases h
  · cases h

/-- An allocation is no special call. -/
theorem special?_of_allocated? {old x : Text} {s : Stmt} (h : s.allocated? old = some x) :
    s.special? old = none := by
  rw [eq_of_allocated? h]
  rfl

/-- Allocations of a class mention it. -/
theorem mentions_of_allocated? {old x : Text} {s : Stmt} (h : s.allocated? old = some x) :
    s.mentions old = true := by
  rw [eq_of_allocated? h]
  have hvalue : old <:+ (Value.alloc ⟨old⟩).text := List.suffix_append _ _
  have htext : (Value.alloc ⟨old⟩).text <:+ (assignVar x (.alloc ⟨old⟩)).text :=
    List.suffix_append _ _
  exact Text.contains_of_infix (hvalue.trans htext).isInfix

/-- Special calls on a class mention it. -/
theorem mentions_of_special? {old : Text} {s : Stmt} {e : Invocation}
    (h : s.special? old = some e) : s.mentions old = true := by
  obtain ⟨rfl, -, rfl⟩ := eq_of_special? h
  obtain ⟨kind, base, method, args⟩ := e
  have hmethod : method.cls.chars <:+: method.text := by
    rw [MethodRef.text, List.append_assoc, List.append_assoc]
    exact (List.suffix_cons '<' _).isInfix.trans (List.prefix_append _ _).isInfix
  have hcall : method.text <:+: (Call.text ⟨kind, base, method, args⟩) := by
    rw [Call.text, Call.render]
    refine List.IsInfix.trans ?_ (List.prefix_append _ _).isInfix
    refine List.IsInfix.trans ?_ (List.prefix_append _ _).isInfix
    refine List.IsInfix.trans ?_ (List.suffix_append _ _).isInfix
    cases base with
    | none => exact (List.suffix_cons ' ' _).isInfix
    | some base =>
      have hdot : method.text <:+: base ++ '.' :: method.text :=
        (List.suffix_cons '.' _).isInfix.trans (List.suffix_append _ _).isInfix
      exact hdot.trans (List.suffix_cons ' ' _).isInfix
  exact Text.contains_of_infix (hmethod.trans hcall)

end Stmt

/-! ### Queues of replacements -/

namespace EditLog

/-- The queue that puts another statement in the place of each of the handles. -/
def replacements (reps : List (StmtId × Stmt)) : EditLog :=
  reps.flatMap fun r => replacement r.1 r.2

/-- Two queues of replacements make one. -/
theorem replacements_append (reps reps' : List (StmtId × Stmt)) :
    replacements (reps ++ reps') = replacements reps ++ replacements reps' :=
  List.flatMap_append

/-- An edit that succeeds is followed by the rest of the queue. -/
theorem commit_cons_of_ok {e : Edit} {b b' : Body} {n : Nat} (h : e.apply b = .ok (n, b'))
    (rest : EditLog) :
    commit (e :: rest) b = ((commit rest b').1.map (n + ·), (commit rest b').2) := by
  rw [commit, h]

/-- **One replacement**: the chain is cut at the handle, and the new statement takes the
place under a new one. -/
theorem commit_replacement {b : Body} {pre post : List (StmtId × Stmt)} {id : StmtId} {s : Stmt}
    (hb : b.stmts = pre ++ (id, s) :: post) (hpre : id ∉ pre.map Prod.fst) (new : Stmt)
    (rest : EditLog) {b₁ : Body} (hb₁ : b₁ = { b with stmts := pre ++ (⟨b.nextId⟩, new) :: post
                                                      nextId := b.nextId + 1 }) :
    commit (replacement id new ++ rest) b =
      ((commit rest b₁).1.map (1 + ·), (commit rest b₁).2) := by
  let b₂ : Body := { b with stmts := pre ++ (id, s) :: (⟨b.nextId⟩, new) :: post
                            nextId := b.nextId + 1 }
  have hinsert : (Edit.insertAfter id [new]).apply b = .ok (1, b₂) := by
    rw [Edit.apply, Body.insertAfter_of_split hb hpre]
    rfl
  have hremove : (Edit.remove id).apply b₂ = .ok (0, b₁) := by
    rw [Edit.apply, Body.remove?_of_split rfl hpre, hb₁]
  have hform : replacement id new ++ rest = .insertAfter id [new] :: .remove id :: rest := rfl
  rw [hform, commit_cons_of_ok hinsert, commit_cons_of_ok hremove]
  cases (commit rest b₁).1 <;> simp [Except.map]

/-- What a queue of replacements leaves in the place of a statement. -/
def Leaves (reps : List (StmtId × Stmt)) (e : StmtId × Stmt) (s : Stmt) : Prop :=
  (e.1, s) ∈ reps ∨ e.1 ∉ reps.map Prod.fst ∧ s = e.2

/-- What relates the elements of two lists one by one may treat a single one differently. -/
theorem forall₂_exchange {α β : Type} {R R' : α → β → Prop} {p : α → Prop} {pre post : List α}
    {a a' : α} {ts : List β} (h : List.Forall₂ R (pre ++ a :: post) ts)
    (hp : ∀ e ∈ pre ++ post, p e) (hkeep : ∀ e t, p e → R e t → R' e t)
    (hnew : ∀ t, R a t → R' a' t) : List.Forall₂ R' (pre ++ a' :: post) ts := by
  induction pre generalizing ts with
  | nil =>
    obtain ⟨t, ts, ht, hts, rfl⟩ := List.forall₂_cons_left_iff.1 h
    exact .cons (hnew t ht)
      (((List.forall₂_and_left _ _).2 ⟨hp, hts⟩).imp fun e t h => hkeep e t h.1 h.2)
  | cons e pre ih =>
    obtain ⟨t, ts, ht, hts, rfl⟩ := List.forall₂_cons_left_iff.1 h
    exact .cons (hkeep e t (hp e List.mem_cons_self) ht)
      (ih hts fun e he => hp e (List.mem_cons_of_mem _ he))

/-- What a queue of replacements makes of an entry of the chain: a statement that is replaced gets
a handle from `next` on, and any other entry stays. -/
def Places (next : Nat) (reps : List (StmtId × Stmt)) (e e' : StmtId × Stmt) : Prop :=
  (e.1, e'.2) ∈ reps ∧ next ≤ e'.1.index ∨ e.1 ∉ reps.map Prod.fst ∧ e' = e

/-- **A queue of replacements** of different statements succeeds, and every statement is
replaced or left in its place: a replaced one under a handle that had not been issued, any other
under its own. -/
theorem commit_replacements_stmts {reps : List (StmtId × Stmt)} {b : Body} (hnd : b.ids.Nodup)
    (hlt : ∀ id ∈ b.ids, id.index < b.nextId) (hreps : (reps.map Prod.fst).Nodup)
    (hsub : ∀ id ∈ reps.map Prod.fst, id ∈ b.ids) :
    ∃ b', commit (replacements reps) b = (.ok reps.length, b') ∧ b'.method = b.method ∧
      b'.locals = b.locals ∧ List.Forall₂ (Places b.nextId reps) b.stmts b'.stmts := by
  induction reps generalizing b with
  | nil =>
    refine ⟨b, rfl, rfl, rfl, ?_⟩
    rw [List.forall₂_same]
    exact fun e _ => .inr ⟨List.not_mem_nil, rfl⟩
  | cons r rest ih =>
    obtain ⟨i, new⟩ := r
    rw [List.map_cons, List.nodup_cons] at hreps
    have hid : i ∈ b.ids := hsub i List.mem_cons_self
    obtain ⟨⟨id, s⟩, hmem, heq⟩ := List.mem_map.1 hid
    change id = i at heq
    subst i
    obtain ⟨pre, post, hb⟩ := List.append_of_mem hmem
    have hids : b.ids = pre.map Prod.fst ++ id :: post.map Prod.fst := by simp [Body.ids, hb]
    rw [hids, List.nodup_middle, List.nodup_cons] at hnd
    obtain ⟨hnotin, hnd⟩ := hnd
    rw [List.mem_append, not_or] at hnotin
    -- The first edits put the new statement under the next handle. The hypotheses hold of this body
    -- too.
    let b₁ : Body := { b with stmts := pre ++ (⟨b.nextId⟩, new) :: post, nextId := b.nextId + 1 }
    have hids₁ : b₁.ids = pre.map Prod.fst ++ ⟨b.nextId⟩ :: post.map Prod.fst := by
      simp [Body.ids, b₁]
    have hnext : b₁.nextId = b.nextId + 1 := rfl
    have hold : ∀ i ∈ pre.map Prod.fst ++ post.map Prod.fst, i.index < b.nextId := by
      intro i hi
      refine hlt i ?_
      rw [hids]
      rw [List.mem_append] at hi ⊢
      exact hi.imp_right (List.mem_cons_of_mem _)
    have hfresh : ∀ i ∈ rest.map Prod.fst, i.index < b.nextId :=
      fun i hi => hlt i (hsub i (List.mem_cons_of_mem _ hi))
    obtain ⟨b', hcommit, hmethod, hlocals, hplaces⟩ := ih (b := b₁)
      (by
        rw [hids₁, List.nodup_middle, List.nodup_cons]
        exact ⟨fun hi => Nat.lt_irrefl _ (hold _ hi), hnd⟩)
      (by
        intro i hi
        rw [hids₁, List.mem_append, List.mem_cons] at hi
        obtain hi | rfl | hi := hi
        · have := hold i (List.mem_append_left _ hi)
          omega
        · exact Nat.lt_succ_self _
        · have := hold i (List.mem_append_right _ hi)
          omega)
      hreps.2
      (by
        intro i hi
        have hne : i ≠ id := fun h => hreps.1 (h ▸ hi)
        have hib := hsub i (List.mem_cons_of_mem _ hi)
        rw [hids, List.mem_append, List.mem_cons] at hib
        rw [hids₁, List.mem_append, List.mem_cons]
        exact hib.imp_right fun h => .inr (h.resolve_left hne))
    refine ⟨b', ?_, hmethod, hlocals, ?_⟩
    · have hcons : replacements ((id, new) :: rest) = replacement id new ++ replacements rest := rfl
      rw [hcons, commit_replacement hb hnotin.1 new _ rfl, hcommit, List.length_cons, Nat.add_comm]
      rfl
    -- The rest of the queue leaves the new statement alone, and the others fare with it as before.
    · rw [hb]
      refine forall₂_exchange (p := fun e => e.1 ≠ id) hplaces ?_ (fun e e' hne h => ?_)
        fun e' h => ?_
      · rintro e he rfl
        exact (List.mem_append.1 he).elim (fun h => hnotin.1 (List.mem_map_of_mem h))
          fun h => hnotin.2 (List.mem_map_of_mem h)
      · rw [hnext] at h
        refine h.imp (And.imp (List.mem_cons_of_mem _) Nat.le_of_succ_le) (And.imp_left fun h => ?_)
        rw [List.map_cons, List.mem_cons, not_or]
        exact ⟨hne, h⟩
      · obtain ⟨h, -⟩ | ⟨-, rfl⟩ := h
        · exact absurd (hfresh _ (List.mem_map_of_mem h)) (Nat.lt_irrefl _)
        · exact .inl ⟨List.mem_cons_self, Nat.le_refl _⟩

end EditLog

/-! ### Looking ahead -/

namespace Substitution

section

variable (scene : Scene) (old new : Text) (retyped : List Text)

/-- What becomes of a special call on the class `old`: it goes to the method that the
substitution in the text of its reference names, if the receiver is retyped and the scene
declares this method. -/
def redirection? (e : Invocation) : Option Stmt :=
  (redirected? scene old new e.method).bind fun target =>
    if e.base.any (List.elem · retyped) then some (.invoke { e with method := target }) else none

/-- Whether an allocation into the local `x` may change, by the next of the statements behind
it that concerns `x`: a special call that stays holds it back, and nothing else does. -/
def turns (x : Text) (rest : List Stmt) : Bool :=
  match rest.find? (Stmt.concerns old x) with
  | none => true
  | some t => (t.special? old).all fun e => (redirection? scene old new retyped e).isSome

/-- What takes the place of a statement with the given ones behind it. -/
def replacement? (s : Stmt) (rest : List Stmt) : Option Stmt :=
  match s.special? old with
  | some e => redirection? scene old new retyped e
  | none =>
    (s.allocated? old).bind fun x =>
      if List.elem x retyped && turns scene old new retyped x rest then
        some (.assignVar x (.alloc ⟨new⟩))
      else none

/-- The replacements in a chain, in its order. -/
def lookAhead : List (StmtId × Stmt) → List (StmtId × Stmt)
  | [] => []
  | (id, s) :: rest =>
    ((replacement? scene old new retyped s (rest.map Prod.snd)).map (id, ·)).toList ++
      lookAhead rest

end

variable {scene : Scene} {old new : Text} {retyped : List Text}

/-- A special call is rewritten exactly if it is redirected. -/
theorem rewriteSpecial_eq (scene : Scene) (old new : Text) (retyped : List Text) {e : Invocation}
    (hkind : e.kind = .special) : (rewriteSpecial scene old new retyped e).toOption =
      redirection? scene old new retyped e := by
  obtain ⟨kind, base, method, args⟩ := e
  obtain rfl : kind = .special := hkind
  unfold rewriteSpecial redirection?
  cases redirected? scene old new method with
  | none => rfl
  | some target =>
    cases base with
    | none => simp [Except.toOption]
    | some base => by_cases h : base ∈ retyped <;> simp [h, Except.toOption]

/-- A statement that does not concern the local is looked past. -/
theorem turns_cons_of_not_concerns {x : Text} {s : Stmt} (h : s.concerns old x = false)
    (rest : List Stmt) :
    turns scene old new retyped x (s :: rest) = turns scene old new retyped x rest := by
  rw [turns, List.find?_cons_of_neg (by rw [h]; exact Bool.false_ne_true), turns]

/-- In front of another allocation into the local, an allocation turns. -/
theorem turns_cons_of_allocated? {x : Text} {s : Stmt} (h : s.allocated? old = some x)
    (rest : List Stmt) : turns scene old new retyped x (s :: rest) = true := by
  have hconcerns : s.concerns old x = true := by simp [Stmt.concerns, h]
  rw [turns, List.find?_cons_of_pos hconcerns]
  simp [Stmt.special?_of_allocated? h]

/-- In front of a special call on the local, an allocation turns if the call goes over. -/
theorem turns_cons_of_special? {x : Text} {s : Stmt} {e : Invocation} (h : s.special? old = some e)
    (hbase : e.base = some x) (rest : List Stmt) :
    turns scene old new retyped x (s :: rest) = (redirection? scene old new retyped e).isSome := by
  have hconcerns : s.concerns old x = true := by simp [Stmt.concerns, h, hbase]
  rw [turns, List.find?_cons_of_pos hconcerns]
  simp [h]

/-! ### One statement of the scan -/

/-- The replacement that an allocation waits for. -/
def Pending.rep (p : Pending) : StmtId × Stmt :=
  (p.id, p.replacement)

/-- The invariant of the scan: at most one allocation waits on each local, only on retyped
ones, and the queue holds replacements, here `reps`. -/
structure Scan.Holds (retyped : List Text) (r : Scan) (reps : List (StmtId × Stmt)) : Prop where
  nodup_pending : (r.pending.map Pending.base).Nodup
  pending_retyped : ∀ p ∈ r.pending, p.base ∈ retyped
  log_eq : r.log = EditLog.replacements reps

/-- The scan begins with an empty queue. -/
theorem Scan.holds_empty : Scan.Holds retyped .empty [] :=
  ⟨List.nodup_nil, by simp [Scan.empty], rfl⟩

/-- Of the allocations that wait, the one on a local and the others. -/
theorem Scan.pending_perm {r : Scan} (h : (r.pending.map Pending.base).Nodup) (x : Text) :
    r.pending.Perm ((r.pending? x).toList ++ (r.dropPending x).pending) := by
  rw [pending?, dropPending]
  generalize r.pending = ps at h ⊢
  induction ps with
  | nil => exact .nil
  | cons p ps ih =>
    rw [List.map_cons, List.nodup_cons] at h
    by_cases hp : p.base = x
    · have hothers : ps.filter (fun p => p.base != x) = ps := by
        refine List.filter_eq_self.2 fun q hq => ?_
        rw [bne_iff_ne]
        rintro rfl
        exact h.1 (hp ▸ List.mem_map_of_mem hq)
      simp [hp, hothers]
    · rw [List.find?_cons_of_neg (by simpa using hp), List.filter_cons_of_pos (by simpa using hp)]
      exact (ih h.2).cons p |>.trans List.perm_middle.symm

/-- The replacements that a look ahead sets free among the allocations that wait. -/
def freed (scene : Scene) (old new : Text) (retyped : List Text) (waiting : List Pending)
    (rest : List Stmt) : List (StmtId × Stmt) :=
  (waiting.filter fun p => turns scene old new retyped p.base rest).map Pending.rep

section

variable (scene : Scene) (old new : Text) (retyped : List Text)

/-- A statement that concerns a single local decides about the allocation waiting on it. -/
theorem freed_cons {r : Scan} (h : (r.pending.map Pending.base).Nodup) {x : Text} {s : Stmt}
    (hothers : ∀ y, y ≠ x → s.concerns old y = false) (rest : List Stmt) :
    (freed scene old new retyped r.pending (s :: rest)).Perm
      ((if turns scene old new retyped x (s :: rest) then (r.pending? x).toList.map Pending.rep
        else []) ++ freed scene old new retyped (r.dropPending x).pending rest) := by
  have hperm := ((r.pending_perm h x).filter
    fun p => turns scene old new retyped p.base (s :: rest)).map Pending.rep
  rw [List.filter_append, List.map_append] at hperm
  refine hperm.trans (List.Perm.append (.of_eq ?_) (.of_eq ?_))
  · cases hwait : r.pending? x with
    | none => simp
    | some p =>
      have hp : p.base = x := by simpa using List.find?_some hwait
      simp only [Option.toList_some, List.filter_cons, List.filter_nil, hp]
      split <;> rfl
  · refine congrArg _ (List.filter_congr fun p hp => ?_)
    have hne : p.base ≠ x := bne_iff_ne.1 (List.mem_filter.1 hp).2
    exact turns_cons_of_not_concerns (hothers _ hne) rest

/-- A statement that concerns no waiting allocation sets none free. -/
theorem freed_cons_of_not_concerns {waiting : List Pending} {s : Stmt}
    (h : ∀ p ∈ waiting, s.concerns old p.base = false) (rest : List Stmt) :
    freed scene old new retyped waiting (s :: rest) = freed scene old new retyped waiting rest :=
  congrArg (List.map Pending.rep)
    (List.filter_congr fun p hp => turns_cons_of_not_concerns (h p hp) rest)

/-- An allocation waits if its local is retyped, else it is given up. -/
theorem scanStmt_of_allocated? (r : Scan) (id : StmtId) {s : Stmt} {x : Text}
    (h : s.allocated? old = some x) :
    scanStmt scene old new retyped r (id, s) =
      if x ∈ retyped then r.await { base := x, id, replacement := .assignVar x (.alloc ⟨new⟩) }
      else r.skip s .missingLocal := by
  have hmentions := Stmt.mentions_of_allocated? h
  obtain rfl := Stmt.eq_of_allocated? h
  rw [Stmt.assignVar] at hmentions ⊢
  simp [scanStmt, hmentions, scanAllocation]

/-- Special calls on the old class are scanned as such. -/
theorem scanStmt_of_special? (r : Scan) (id : StmtId) {s : Stmt} {e : Invocation}
    (h : s.special? old = some e) :
    scanStmt scene old new retyped r (id, s) = scanSpecial scene old new retyped r id s e := by
  have hmentions := Stmt.mentions_of_special? h
  obtain ⟨rfl, hkind, hcls⟩ := Stmt.eq_of_special? h
  simp [scanStmt, hmentions, hkind, hcls]

/-- Other statements are given up or left alone if they mention the old class. -/
theorem scanStmt_of_other_eq (r : Scan) (id : StmtId) {s : Stmt} (halloc : s.allocated? old = none)
    (hspecial : s.special? old = none) :
    scanStmt scene old new retyped r (id, s) =
      if s.mentions old then
        if s.allocates old then r.skip s .nonLocalTarget else r.leave
      else r := by
  cases hmentions : s.mentions old with
  | false => simp [scanStmt, hmentions]
  | true =>
    cases s with
    | assign lhs rhs =>
      cases rhs with
      | alloc cls =>
        by_cases hcls : cls.chars = old
        · cases lhs with
          | var x => simp [Stmt.allocated?, hcls] at halloc
          | _ => simp [scanStmt, hmentions, hcls, Stmt.allocates, scanAllocation]
        · simp [scanStmt, hmentions, hcls, Stmt.allocates]
      | _ => simp [scanStmt, hmentions, Stmt.allocates]
    | invoke e =>
      have he : ¬(e.kind = .special ∧ e.method.cls.chars = old) := by
        intro he
        simp [Stmt.special?, he] at hspecial
      simp [scanStmt, hmentions, Stmt.allocates, he]
    | _ => simp [scanStmt, hmentions, Stmt.allocates]

/-- Other statements leave the queue and the allocations that wait as they are. -/
theorem scanStmt_of_other (r : Scan) (id : StmtId) {s : Stmt} (halloc : s.allocated? old = none)
    (hspecial : s.special? old = none) :
    (scanStmt scene old new retyped r (id, s)).pending = r.pending ∧
      (scanStmt scene old new retyped r (id, s)).log = r.log := by
  rw [scanStmt_of_other_eq scene old new retyped r id halloc hspecial]
  split
  · split <;> exact ⟨rfl, rfl⟩
  · exact ⟨rfl, rfl⟩

end

/-- The invariant is kept by queueing a replacement. -/
theorem Scan.Holds.rewrite {r : Scan} {reps : List (StmtId × Stmt)} (h : r.Holds retyped reps)
    (id : StmtId) (t : Stmt) : (r.rewrite id t).Holds retyped (reps ++ [(id, t)]) where
  nodup_pending := h.nodup_pending
  pending_retyped := h.pending_retyped
  log_eq := by
    rw [EditLog.replacements_append, ← h.log_eq]
    rfl

/-- The invariant is kept by dropping an allocation. -/
theorem Scan.Holds.dropPending {r : Scan} {reps : List (StmtId × Stmt)} (h : r.Holds retyped reps)
    (x : Text) : (r.dropPending x).Holds retyped reps where
  nodup_pending := h.nodup_pending.sublist (List.filter_sublist.map _)
  pending_retyped p hp := h.pending_retyped p (List.mem_of_mem_filter hp)
  log_eq := h.log_eq

/-- An allocation that comes to wait queues the one that has waited on its local. -/
theorem Scan.Holds.await {r : Scan} {reps : List (StmtId × Stmt)} (h : r.Holds retyped reps)
    {p : Pending} (hp : p.base ∈ retyped) :
    (r.await p).Holds retyped (reps ++ (r.pending? p.base).toList.map Pending.rep) ∧
      (r.await p).pending = (r.dropPending p.base).pending ++ [p] := by
  have hpush : Scan.Holds retyped
      { r.dropPending p.base with pending := (r.dropPending p.base).pending ++ [p] } reps := by
    have hdrop := h.dropPending p.base
    refine ⟨?_, ?_, hdrop.log_eq⟩
    · have hnotin : p.base ∉ (r.dropPending p.base).pending.map Pending.base := by
        intro hin
        obtain ⟨q, hq, hbase⟩ := List.mem_map.1 hin
        exact bne_iff_ne.1 (List.mem_filter.1 hq).2 hbase
      simpa using hdrop.nodup_pending.concat hnotin
    · intro q hq
      obtain hq | hq := List.mem_append.1 hq
      · exact hdrop.pending_retyped q hq
      · rwa [List.mem_singleton.1 hq]
  unfold Scan.await
  dsimp only
  cases hwait : r.pending? p.base with
  | none => exact ⟨by simpa using hpush, rfl⟩
  | some q => exact ⟨hpush.rewrite q.id q.replacement, rfl⟩

/-- A special call that goes over queues its replacement and what waits on its receiver, and nothing
waits there any more. -/
theorem Scan.Holds.scanSpecial {r : Scan} {reps : List (StmtId × Stmt)} (h : r.Holds retyped reps)
    (scene : Scene) (old new : Text) (id : StmtId) (s : Stmt) {e : Invocation}
    (hkind : e.kind = .special) {x : Text}
    (hbase : e.base = some x) :
    (scanSpecial scene old new retyped r id s e).Holds retyped
        (reps ++ (redirection? scene old new retyped e).elim []
          fun t => (id, t) :: (r.pending? x).toList.map Pending.rep) ∧
      (scanSpecial scene old new retyped r id s e).pending = (r.dropPending x).pending := by
  have hdrop := h.dropPending x
  rw [← rewriteSpecial_eq scene old new retyped hkind]
  unfold Substitution.scanSpecial
  simp only [hbase, Option.bind_some]
  cases rewriteSpecial scene old new retyped e with
  | error why =>
    have hkept : ((r.dropPending x).skip s why).Holds retyped reps :=
      ⟨hdrop.nodup_pending, hdrop.pending_retyped, hdrop.log_eq⟩
    cases r.pending? x with
    | none => exact ⟨by simpa [Except.toOption] using hkept, rfl⟩
    | some p =>
      refine ⟨?_, rfl⟩
      simpa [Except.toOption] using ⟨hkept.nodup_pending, hkept.pending_retyped, hkept.log_eq⟩
  | ok t =>
    have hcall := hdrop.rewrite id t
    cases r.pending? x with
    | none => exact ⟨by simpa [Except.toOption] using hcall, rfl⟩
    | some p =>
      have hboth := hcall.rewrite p.id p.replacement
      exact ⟨by simpa [Except.toOption, Pending.rep] using hboth, rfl⟩

/-- A special call without a receiver is left alone, and nothing waits for it. -/
theorem scanSpecial_of_base_none (scene : Scene) (old new : Text) (retyped : List Text) (r : Scan)
    (id : StmtId) (s : Stmt) {e : Invocation}
    (hkind : e.kind = .special) (hbase : e.base = none) :
    (scanSpecial scene old new retyped r id s e).pending = r.pending ∧
      (scanSpecial scene old new retyped r id s e).log = r.log ∧
      redirection? scene old new retyped e = none := by
  have hnone : redirection? scene old new retyped e = none := by
    simp [redirection?, hbase]
  have hres := rewriteSpecial_eq scene old new retyped hkind
  rw [hnone] at hres
  unfold scanSpecial
  simp only [hbase, Option.bind_none]
  cases hcase : rewriteSpecial scene old new retyped e with
  | error why => exact ⟨rfl, rfl, hnone⟩
  | ok t => simp [hcase, Except.toOption] at hres

/-- What one statement of the scan owes to the look ahead: together, the replacements queued and
those set free from here on grow by the replacement of this statement. -/
def Advances (scene : Scene) (old new : Text) (retyped : List Text) (r : Scan)
    (reps : List (StmtId × Stmt)) (id : StmtId) (s : Stmt) (rest : List Stmt) : Prop :=
  let r' := scanStmt scene old new retyped r (id, s)
  ∃ reps', r'.Holds retyped reps' ∧
    (reps' ++ freed scene old new retyped r'.pending rest).Perm
      (reps ++ freed scene old new retyped r.pending (s :: rest) ++
        ((replacement? scene old new retyped s rest).map (id, ·)).toList)

/-- A statement that leaves everything as it is, concerns nothing that waits and is not to be
replaced. -/
theorem Advances.of_unchanged {r : Scan} {reps : List (StmtId × Stmt)} (h : r.Holds retyped reps)
    {id : StmtId} {s : Stmt} {rest : List Stmt}
    (hpending : (scanStmt scene old new retyped r (id, s)).pending = r.pending)
    (hlog : (scanStmt scene old new retyped r (id, s)).log = r.log)
    (hfree : ∀ p ∈ r.pending, s.concerns old p.base = false)
    (hnone : replacement? scene old new retyped s rest = none) :
    Advances scene old new retyped r reps id s rest := by
  refine ⟨reps, ⟨hpending ▸ h.nodup_pending, hpending ▸ h.pending_retyped, hlog ▸ h.log_eq⟩, ?_⟩
  rw [hpending, hnone, freed_cons_of_not_concerns _ _ _ _ hfree]
  simp

/-- **The step at a special call.** -/
theorem advances_of_special? {r : Scan} {reps : List (StmtId × Stmt)} (h : r.Holds retyped reps)
    (id : StmtId) {s : Stmt} {e : Invocation} (hs : s.special? old = some e) (rest : List Stmt) :
    Advances scene old new retyped r reps id s rest := by
  obtain ⟨-, hkind, -⟩ := Stmt.eq_of_special? hs
  have halloc : s.allocated? old = none := by
    rw [Option.eq_none_iff_forall_ne_some]
    intro x hx
    simp [Stmt.special?_of_allocated? hx] at hs
  have hstep := scanStmt_of_special? scene old new retyped r id hs
  have hreplacement : replacement? scene old new retyped s rest =
      redirection? scene old new retyped e := by
    rw [replacement?, hs]
  cases hbase : e.base with
  | none =>
    obtain ⟨hpending, hlog, hnone⟩ := scanSpecial_of_base_none scene old new retyped r
      id s hkind hbase
    refine .of_unchanged h (hstep ▸ hpending) (hstep ▸ hlog) ?_ (hreplacement.trans hnone)
    simp [Stmt.concerns, halloc, hs, hbase]
  | some x =>
    obtain ⟨hholds, hpending⟩ := h.scanSpecial scene old new id s hkind hbase
    have hothers : ∀ y, y ≠ x → s.concerns old y = false := by
      intro y hy
      simp [Stmt.concerns, halloc, hs, hbase, Ne.symm hy]
    have hfreed := freed_cons scene old new retyped h.nodup_pending hothers rest
    rw [turns_cons_of_special? hs hbase] at hfreed
    rw [Advances, hstep, hreplacement, hpending]
    refine ⟨_, hholds, ?_⟩
    cases hr : redirection? scene old new retyped e with
    | none =>
      simp only [hr, Option.isSome_none, Bool.false_eq_true, if_false, List.nil_append] at hfreed
      simpa using hfreed.symm.append_left reps
    | some t =>
      simp only [hr, Option.isSome_some, if_true] at hfreed
      simp only [Option.elim_some, Option.map_some, Option.toList_some, List.append_assoc]
      refine List.Perm.append_left reps ?_
      exact ((hfreed.symm.cons (id, t)).trans (List.perm_append_singleton _ _).symm)

/-- **The step at an allocation.** -/
theorem advances_of_allocated? {r : Scan} {reps : List (StmtId × Stmt)} (h : r.Holds retyped reps)
    (id : StmtId) {s : Stmt} {x : Text} (hs : s.allocated? old = some x) (rest : List Stmt) :
    Advances scene old new retyped r reps id s rest := by
  have hspecial := Stmt.special?_of_allocated? hs
  have hothers : ∀ y, y ≠ x → s.concerns old y = false := by
    intro y hy
    simp [Stmt.concerns, hs, hspecial, Ne.symm hy]
  have hstep := scanStmt_of_allocated? scene old new retyped r id hs
  have hreplacement : replacement? scene old new retyped s rest =
      if x ∈ retyped ∧ turns scene old new retyped x rest then some (.assignVar x (.alloc ⟨new⟩))
      else none := by
    rw [replacement?, hspecial, hs]
    simp only [Option.bind_some, Bool.and_eq_true, List.elem_iff]
  by_cases hx : x ∈ retyped
  · rw [if_pos hx] at hstep
    obtain ⟨hholds, hpending⟩ :=
      h.await (p := { base := x, id, replacement := .assignVar x (.alloc ⟨new⟩) }) hx
    have hfreed := freed_cons scene old new retyped h.nodup_pending hothers rest
    rw [turns_cons_of_allocated? hs, if_pos rfl] at hfreed
    rw [Advances, hstep, hreplacement, hpending]
    refine ⟨_, hholds, ?_⟩
    -- The allocation itself waits from now on and is replaced if the rest sets it free.
    have hlast : freed scene old new retyped
          ((r.dropPending x).pending ++
            [{ base := x, id, replacement := .assignVar x (.alloc ⟨new⟩) }]) rest =
        freed scene old new retyped (r.dropPending x).pending rest ++
          ((if x ∈ retyped ∧ turns scene old new retyped x rest then
            some (Stmt.assignVar x (.alloc ⟨new⟩)) else none).map (id, ·)).toList := by
      rw [freed, List.filter_append, List.map_append]
      cases hturns : turns scene old new retyped x rest <;>
        simp [freed, hx, hturns, Pending.rep]
    rw [hlast, ← List.append_assoc, List.append_assoc reps]
    exact (hfreed.symm.append_left reps).append_right _
  · rw [if_neg hx] at hstep
    refine .of_unchanged h (hstep ▸ rfl) (hstep ▸ rfl) (fun p hp => hothers _ ?_) ?_
    · rintro rfl
      exact hx (h.pending_retyped p hp)
    · rw [hreplacement, if_neg fun h => hx h.1]

/-- **One statement.** -/
theorem advances (scene : Scene) (old new : Text) {r : Scan} {reps : List (StmtId × Stmt)}
    (h : r.Holds retyped reps) (id : StmtId) (s : Stmt) (rest : List Stmt) :
    Advances scene old new retyped r reps id s rest := by
  cases hspecial : s.special? old with
  | some e => exact advances_of_special? h id hspecial rest
  | none =>
    cases halloc : s.allocated? old with
    | some x => exact advances_of_allocated? h id halloc rest
    | none =>
      obtain ⟨hpending, hlog⟩ := scanStmt_of_other scene old new retyped r id halloc hspecial
      refine .of_unchanged h hpending hlog ?_ ?_
      · simp [Stmt.concerns, halloc, hspecial]
      · simp [replacement?, halloc, hspecial]

/-- Rewriting the allocations that wait, one after the other. -/
theorem foldl_rewrite (waiting : List Pending) (r : Scan) :
    waiting.foldl (fun r p => r.rewrite p.id p.replacement) r =
      { r with log := r.log ++ EditLog.replacements (waiting.map Pending.rep)
               rewritten := r.rewritten + waiting.length } := by
  induction waiting generalizing r with
  | nil => simp [EditLog.replacements]
  | cons p rest ih =>
    have hlog : EditLog.replacements ((p :: rest).map Pending.rep) =
        EditLog.replacement p.id p.replacement ++ EditLog.replacements (rest.map Pending.rep) := rfl
    rw [List.foldl_cons, ih, Scan.rewrite, hlog, List.append_assoc, List.length_cons]
    simp only [Nat.add_assoc, Nat.add_comm 1]

/-- Scanning keeps the invariant, and together the replacements queued and those that still wait
are the ones found by looking ahead, in some order. -/
theorem holds_foldl (scene : Scene) (old new : Text) {r : Scan} {reps : List (StmtId × Stmt)}
    (h : r.Holds retyped reps) (stmts : List (StmtId × Stmt)) :
    ∃ reps', (stmts.foldl (scanStmt scene old new retyped) r).Holds retyped reps' ∧
      (reps' ++ (stmts.foldl (scanStmt scene old new retyped) r).pending.map Pending.rep).Perm
        (reps ++ freed scene old new retyped r.pending (stmts.map Prod.snd) ++
          lookAhead scene old new retyped stmts) := by
  induction stmts generalizing r reps with
  | nil => exact ⟨reps, h, by simp [freed, turns, lookAhead]⟩
  | cons entry rest ih =>
    obtain ⟨id, s⟩ := entry
    obtain ⟨reps₁, hholds, hperm⟩ := advances scene old new h id s (rest.map Prod.snd)
    obtain ⟨reps', hholds', hperm'⟩ := ih hholds
    refine ⟨reps', hholds', hperm'.trans ?_⟩
    rw [lookAhead, List.map_cons, ← List.append_assoc]
    exact hperm.append_right _

/-- **Scanning is looking ahead**: what is queued in the end are the replacements found by looking
ahead, in some order. -/
theorem scan_perm (scene : Scene) (old new : Text) {r : Scan} {reps : List (StmtId × Stmt)}
    (h : r.Holds retyped reps) (stmts : List (StmtId × Stmt)) :
    ∃ reps', (flush (stmts.foldl (scanStmt scene old new retyped) r)).log =
        EditLog.replacements reps' ∧
      reps'.Perm (reps ++ freed scene old new retyped r.pending (stmts.map Prod.snd) ++
        lookAhead scene old new retyped stmts) := by
  obtain ⟨reps', hholds, hperm⟩ := holds_foldl scene old new h stmts
  refine ⟨_, ?_, hperm⟩
  rw [flush, foldl_rewrite, hholds.log_eq, EditLog.replacements_append]

/-! ### The edited body -/

/-- The replacements have handles of the chain, in its order. -/
theorem ids_lookAhead (stmts : List (StmtId × Stmt)) :
    ((lookAhead scene old new retyped stmts).map Prod.fst).Sublist (stmts.map Prod.fst) := by
  induction stmts with
  | nil => exact .slnil
  | cons entry rest ih =>
    obtain ⟨id, s⟩ := entry
    rw [lookAhead, List.map_append]
    cases replacement? scene old new retyped s (rest.map Prod.snd) with
    | none => exact ih.cons id
    | some t => exact ih.cons_cons id

/-- The replacement under a handle is the one of the statement that has the handle. -/
theorem mem_lookAhead_of_split {pre post : List (StmtId × Stmt)} {id : StmtId} {s t : Stmt}
    (hpre : id ∉ pre.map Prod.fst) (hpost : id ∉ post.map Prod.fst) :
    (id, t) ∈ lookAhead scene old new retyped (pre ++ (id, s) :: post) ↔
      replacement? scene old new retyped s (post.map Prod.snd) = some t := by
  induction pre with
  | nil =>
    have hlater : (id, t) ∉ lookAhead scene old new retyped post := fun h =>
      hpost ((ids_lookAhead post).subset (List.mem_map.2 ⟨_, h, rfl⟩))
    rw [List.nil_append, lookAhead, List.mem_append, or_iff_left hlater]
    simp [Option.mem_toList]
  | cons entry pre ih =>
    obtain ⟨i, s'⟩ := entry
    rw [List.map_cons, List.mem_cons, not_or] at hpre
    rw [List.cons_append, lookAhead, List.mem_append, ih hpre.2, or_iff_right]
    simp only [Option.mem_toList, Option.map_eq_some_iff, Prod.mk.injEq]
    rintro ⟨u, -, hid, -⟩
    exact hpre.1 hid.symm

/-- Replacements that a look ahead finds, in any order, are carried out in place. A statement that
is replaced gets a handle that had not been issued. -/
theorem commit_lookAhead (scene : Scene) (old new : Text) (retyped : List Text) {b : Body}
    (hnd : b.ids.Nodup) (hlt : ∀ id ∈ b.ids, id.index < b.nextId) {reps : List (StmtId × Stmt)}
    (hperm : reps.Perm (lookAhead scene old new retyped b.stmts)) :
    ∃ b', EditLog.commit (EditLog.replacements reps) b = (.ok reps.length, b') ∧
      b'.locals = b.locals ∧ b'.stmts.length = b.stmts.length ∧
      ∀ {i : Nat} {id : StmtId} {s : Stmt}, b.stmts[i]? = some (id, s) →
        let r := replacement? scene old new retyped s (b.statements.drop (i + 1))
        ∃ id', b'.stmts[i]? = some (id', r.getD s) ∧
          if r.isSome then b.nextId ≤ id'.index else id' = id := by
  have hids := hperm.map Prod.fst
  obtain ⟨b', hcommit, -, hlocals, hplaces⟩ := EditLog.commit_replacements_stmts hnd hlt
    (hids.nodup_iff.2 ((ids_lookAhead b.stmts).nodup hnd))
    fun id hid => (ids_lookAhead b.stmts).subset (hids.subset hid)
  refine ⟨b', hcommit, hlocals, hplaces.length_eq.symm, fun {i id s} hget => ?_⟩
  obtain ⟨hi, hget⟩ := List.getElem?_eq_some_iff.1 hget
  have hsplit : b.stmts = b.stmts.take i ++ (id, s) :: b.stmts.drop (i + 1) := by
    rw [← hget, ← List.drop_eq_getElem_cons hi, List.take_append_drop]
  have hrest : b.statements.drop (i + 1) = (b.stmts.drop (i + 1)).map Prod.snd := by
    rw [Body.statements, List.map_drop]
  have hpre := Body.not_mem_of_nodup_split hnd hsplit
  have hpost : id ∉ (b.stmts.drop (i + 1)).map Prod.fst := by
    rw [Body.ids, hsplit, List.map_append, List.map_cons, List.nodup_middle, List.nodup_cons] at hnd
    exact fun h => hnd.1 (List.mem_append_right _ h)
  -- The handle stands at one place only, so the queue has for it what the look ahead finds there.
  have hmem : ∀ t, (id, t) ∈ reps ↔
      replacement? scene old new retyped s (b.statements.drop (i + 1)) = some t := by
    intro t
    rw [hperm.mem_iff, hsplit, mem_lookAhead_of_split hpre hpost, hrest]
  have hi' : i < b'.stmts.length := hplaces.length_eq ▸ hi
  have hplace := hplaces.get hi hi'
  rw [List.get_eq_getElem, hget, List.get_eq_getElem] at hplace
  rw [List.getElem?_eq_getElem hi']
  obtain ⟨hin, hnew⟩ | ⟨hout, hsame⟩ := hplace
  · rw [(hmem _).1 hin]
    exact ⟨_, rfl, hnew⟩
  · have hnone : replacement? scene old new retyped s (b.statements.drop (i + 1)) = none := by
      rw [Option.eq_none_iff_forall_ne_some]
      intro t ht
      exact hout (List.mem_map.2 ⟨_, (hmem t).2 ht, rfl⟩)
    rw [hnone, hsame]
    exact ⟨id, rfl, rfl⟩

/-- **The pass over a body**: every statement is replaced as the look ahead says. -/
theorem commit_scan (scene : Scene) (old new : Text) (retyped : List Text) {b : Body}
    (hnd : b.ids.Nodup) (hlt : ∀ id ∈ b.ids, id.index < b.nextId) :
    ∃ n b', EditLog.commit (flush (scan scene old new retyped b)).log b = (.ok n, b') ∧
      b'.statements.length = b.statements.length ∧
      ∀ {i : Nat} {s : Stmt}, b.statements[i]? = some s → b'.statements[i]? =
          some ((replacement? scene old new retyped s (b.statements.drop (i + 1))).getD s) := by
  obtain ⟨reps, hlog, hperm⟩ := scan_perm scene old new Scan.holds_empty b.stmts
  obtain ⟨b', hcommit, -, hlength, hafter⟩ := commit_lookAhead scene old new retyped hnd hlt hperm
  rw [← hlog] at hcommit
  refine ⟨_, b', hcommit, ?_, fun {i s} hs => ?_⟩
  · rw [Body.statements, Body.statements, List.length_map, List.length_map, hlength]
  · obtain ⟨⟨id, s'⟩, hget, rfl⟩ : ∃ e, b.stmts[i]? = some e ∧ e.2 = s := by
      simpa [Body.statements] using hs
    obtain ⟨id', hget', -⟩ := hafter hget
    rw [Body.statements, List.getElem?_map, hget']
    rfl

/-! ### Renaming the locals -/

/-- The statement with its locals renamed, one name after the other. -/
def renamedStmt (renamed : List (Text × Text)) (s : Stmt) : Stmt :=
  renamed.foldl (fun s r => s.rename r.1 r.2) s

/-- What a successful renaming makes of a body. -/
theorem retypeAll_eq_ok {names : List Text} {renamed : List (Text × Text)} {b b' : Body}
    (h : retypeAll new names b = (.ok renamed, b')) :
    renamed = names.map (fun name => (name, replacedName name)) ∧ b'.ids = b.ids ∧
      b'.nextId = b.nextId ∧ b'.statements = b.statements.map (renamedStmt renamed) := by
  induction names generalizing renamed b with
  | nil =>
    rw [retypeAll, Prod.mk.injEq, Except.ok.injEq] at h
    obtain ⟨rfl, rfl⟩ := h
    refine ⟨rfl, rfl, rfl, ?_⟩
    exact (List.map_id _).symm
  | cons name rest ih =>
    rw [retypeAll] at h
    cases hname : b.retypeLocal name (replacedName name) (.class_ new) with
    | error fault => simp [hname] at h
    | ok r =>
      obtain ⟨l, b₁⟩ := r
      simp only [hname, Prod.mk.injEq] at h
      obtain ⟨hrest, rfl⟩ := h
      cases houtcome : (retypeAll new rest b₁).1 with
      | error fault => simp [houtcome, Except.map] at hrest
      | ok renamed' =>
        rw [houtcome, Except.map, Except.ok.injEq] at hrest
        subst hrest
        obtain ⟨rfl, hids, hnext, hstmts⟩ := ih (Prod.ext houtcome rfl)
        obtain ⟨-, -, -, rfl⟩ := Body.retypeLocal_eq_ok hname
        refine ⟨rfl, ?_, hnext, ?_⟩
        · rw [hids, Body.ids, Body.ids, List.map_map]
          rfl
        · rw [hstmts, Body.statements, Body.statements, List.map_map, List.map_map, List.map_map]
          rfl

/-- Renaming keeps every statement under its handle. -/
theorem stmts_of_retypeAll {names : List Text} {renamed : List (Text × Text)} {b b' : Body}
    (h : retypeAll new names b = (.ok renamed, b')) :
    b'.stmts = b.stmts.map fun e => (e.1, renamedStmt renamed e.2) := by
  obtain ⟨-, hids, -, hstmts⟩ := retypeAll_eq_ok h
  have hfst : (b.stmts.map fun e => (e.1, renamedStmt renamed e.2)).map Prod.fst = b'.ids := by
    rw [hids, List.map_map]
    rfl
  have hsnd : (b.stmts.map fun e => (e.1, renamedStmt renamed e.2)).map Prod.snd =
      b'.statements := by
    rw [hstmts, Body.statements, List.map_map, List.map_map]
    rfl
  exact (List.zip_of_prod rfl rfl).trans (List.zip_of_prod hfst hsnd).symm

/-! ### The law -/

/-- The special call on the old class goes over to the method `target`: its receiver is retyped,
and the substitution in the text of its reference reads as this method, which the scene
declares. -/
def Redirects (scene : Scene) (old new : Text) (retyped : List Text) (e : Invocation)
    (target : MethodRef) : Prop :=
  (∃ x ∈ e.base, x ∈ retyped) ∧
    MethodRef.read (Text.replaceAll old new e.method.text) = .ok target ∧
      (scene.method? target).isSome

/-- Looking ahead from an allocation into `x`: nothing concerns `x` any more, or what does so
next is another allocation or a special call that goes over. -/
def FreeAhead (scene : Scene) (old new : Text) (retyped : List Text) (x : Text)
    (rest : List Stmt) : Prop :=
  ∀ t, rest.find? (Stmt.concerns old x) = some t →
    t.allocated? old = some x ∨
      ∃ e target, t.special? old = some e ∧ Redirects scene old new retyped e target

/-- A call is redirected to the method that it goes over to. -/
theorem redirection?_eq_some_iff {e : Invocation} {t : Stmt} :
    redirection? scene old new retyped e = some t ↔
      ∃ target, Redirects scene old new retyped e target ∧
        t = .invoke { e with method := target } := by
  have hany : e.base.any (List.elem · retyped) = true ↔ ∃ x ∈ e.base, x ∈ retyped := by
    simp [Option.any_eq_true]
  unfold redirection? redirected? Redirects
  rw [← hany]
  constructor
  · intro h
    obtain ⟨target, htarget, h⟩ := Option.bind_eq_some_iff.1 h
    split at htarget
    · next target' hread =>
      split at htarget
      · next hdeclared =>
        obtain rfl := Option.some.inj htarget
        split at h
        · next hbase => exact ⟨_, ⟨hbase, hread, hdeclared⟩, (Option.some.inj h).symm⟩
        · cases h
      · cases htarget
    · cases htarget
  · rintro ⟨target, ⟨hbase, hread, hdeclared⟩, rfl⟩
    simp only [hread, if_pos hdeclared, Option.bind_some, if_pos hbase]

/-- An allocation turns exactly if nothing ahead holds it back. -/
theorem turns_iff {x : Text} {rest : List Stmt} :
    turns scene old new retyped x rest = true ↔ FreeAhead scene old new retyped x rest := by
  unfold turns FreeAhead
  cases hnext : rest.find? (Stmt.concerns old x) with
  | none => simp
  | some t =>
    have hconcerns := List.find?_some hnext
    simp only [Option.some.injEq, forall_eq']
    cases hspecial : t.special? old with
    | none =>
      simp [Stmt.concerns, hspecial] at hconcerns
      simp [hconcerns]
    | some e =>
      have halloc : t.allocated? old ≠ some x := fun h => by
        simp [Stmt.special?_of_allocated? h] at hspecial
      simp [halloc, Option.isSome_iff_exists, redirection?_eq_some_iff]

/-- **What a substitution does to the statements of a body**, given before and after it and with
the locals renamed before. -/
structure Paired (scene : Scene) (old new : Text) (retyped : List Text)
    (before after : List Stmt) : Prop where
  length_eq : after.length = before.length
  /-- A special call on the old class goes over if and only if it can. -/
  call : ∀ {i : Nat} {e : Invocation}, before[i]? = some (.invoke e) → e.kind = .special →
    e.method.cls.chars = old →
      (∃ target, Redirects scene old new retyped e target ∧
          after[i]? = some (.invoke { e with method := target })) ∨
        (¬ ∃ target, Redirects scene old new retyped e target) ∧ after[i]? = before[i]?
  /-- An allocation into a retyped local changes if and only if it is free ahead. -/
  allocation : ∀ {i : Nat} {x : Text}, before[i]? = some (.assignVar x (.alloc ⟨old⟩)) →
    x ∈ retyped →
      (after[i]? = some (.assignVar x (.alloc ⟨new⟩)) ↔
          FreeAhead scene old new retyped x (before.drop (i + 1))) ∧
        (¬FreeAhead scene old new retyped x (before.drop (i + 1)) → after[i]? = before[i]?)
  /-- Every other statement stays. -/
  other : ∀ {i : Nat} {s : Stmt}, before[i]? = some s → s.special? old = none →
    (∀ x ∈ retyped, s.allocated? old ≠ some x) → after[i]? = before[i]?
  /-- An allocation and the next special call on it change both or stay both. -/
  together : ∀ {i j : Nat} {x : Text} {e : Invocation}, i < j →
    before[i]? = some (.assignVar x (.alloc ⟨old⟩)) → x ∈ retyped →
    before[j]? = some (.invoke e) → e.kind = .special → e.method.cls.chars = old →
    e.base = some x →
    (∀ k s, i < k → k < j → before[k]? = some s → s.concerns old x = false) →
      (after[i]? = some (.assignVar x (.alloc ⟨new⟩)) ∧ ∃ target,
          Redirects scene old new retyped e target ∧
            after[j]? = some (.invoke { e with method := target })) ∨
        after[i]? = before[i]? ∧ after[j]? = before[j]?

/-- The statement that a look ahead meets first. -/
theorem find?_concerns_of_next {stmts : List Stmt} {i j : Nat} {x : Text} {t : Stmt} (hij : i < j)
    (ht : stmts[j]? = some t) (hconcerns : t.concerns old x = true)
    (hbetween : ∀ k s, i < k → k < j → stmts[k]? = some s → s.concerns old x = false) :
    (stmts.drop (i + 1)).find? (Stmt.concerns old x) = some t := by
  have hj : i + 1 + (j - (i + 1)) = j := by omega
  rw [List.find?_eq_some_iff_getElem]
  obtain ⟨hlt, hget⟩ := List.getElem?_eq_some_iff.1 ht
  refine ⟨hconcerns, j - (i + 1), by rw [List.length_drop]; omega, ?_, fun k hk => ?_⟩
  · rw [List.getElem_drop]
    simpa [hj] using hget
  · have hklt : i + 1 + k < stmts.length := by omega
    have hget := List.getElem?_eq_getElem hklt
    rw [List.getElem_drop, hbetween (i + 1 + k) _ (by omega) (by omega) hget]
    rfl

/-- Statements that are replaced as the look ahead says are paired. -/
theorem Paired.of_replacement? {before after : List Stmt} (hne : old ≠ new)
    (hlength : after.length = before.length)
    (hafter : ∀ {i : Nat} {s : Stmt}, before[i]? = some s → after[i]? =
      some ((replacement? scene old new retyped s (before.drop (i + 1))).getD s)) :
    Paired scene old new retyped before after := by
  -- A call and an allocation, each as the look ahead leaves it; the rest puts them together.
  have hcall : ∀ {i : Nat} {e : Invocation}, before[i]? = some (.invoke e) → e.kind = .special →
      e.method.cls.chars = old →
        (∃ target, Redirects scene old new retyped e target ∧
            after[i]? = some (.invoke { e with method := target })) ∨
          (¬ ∃ target, Redirects scene old new retyped e target) ∧ after[i]? = before[i]? := by
    intro i e hi hkind hcls
    have hspecial : (Stmt.invoke e).special? old = some e := if_pos ⟨hkind, hcls⟩
    have hreplacement : replacement? scene old new retyped (.invoke e) (before.drop (i + 1)) =
        redirection? scene old new retyped e := by
      rw [replacement?, hspecial]
    rw [hafter hi, hreplacement, hi]
    cases hr : redirection? scene old new retyped e with
    | none =>
      refine .inr ⟨?_, rfl⟩
      rintro ⟨target, htarget⟩
      have hsome := redirection?_eq_some_iff.2 ⟨target, htarget, rfl⟩
      simp [hr] at hsome
    | some t =>
      obtain ⟨target, htarget, rfl⟩ := redirection?_eq_some_iff.1 hr
      exact .inl ⟨target, htarget, rfl⟩
  have hallocation : ∀ {i : Nat} {x : Text}, before[i]? = some (.assignVar x (.alloc ⟨old⟩)) →
      x ∈ retyped → after[i]? = some (if turns scene old new retyped x (before.drop (i + 1))
        then .assignVar x (.alloc ⟨new⟩) else .assignVar x (.alloc ⟨old⟩)) := by
    intro i x hi hx
    have hallocated : (Stmt.assignVar x (.alloc ⟨old⟩)).allocated? old = some x := if_pos rfl
    rw [hafter hi, replacement?, Stmt.special?_of_allocated? hallocated, hallocated]
    by_cases h : turns scene old new retyped x (before.drop (i + 1)) <;> simp [h, hx]
  refine ⟨hlength, hcall, fun {i x} hi hx => ?_, fun {i s} hi hspecial halloc => ?_, ?_⟩
  · rw [← turns_iff, hallocation hi hx, hi]
    by_cases h : turns scene old new retyped x (before.drop (i + 1)) <;>
      simp [h, Stmt.assignVar, hne]
  · rw [hafter hi, hi, replacement?, hspecial]
    cases hs : s.allocated? old with
    | none => rfl
    | some x =>
      have hx : x ∉ retyped := fun hx => halloc x hx hs
      simp [hx]
  · intro i j x e hij hi hx hj hkind hcls hbase hbetween
    have hspecial : (Stmt.invoke e).special? old = some e := if_pos ⟨hkind, hcls⟩
    have hconcerns : (Stmt.invoke e).concerns old x = true := by
      simp [Stmt.concerns, hspecial, hbase]
    have hnext := find?_concerns_of_next hij hj hconcerns hbetween
    -- Nothing between them concerns the local, so the allocation looks at this very call.
    have hturns : turns scene old new retyped x (before.drop (i + 1)) =
        (redirection? scene old new retyped e).isSome := by
      rw [turns, hnext]
      simp [hspecial]
    obtain ⟨target, htarget, hmoved⟩ | ⟨hnone, hstays⟩ := hcall hj hkind hcls
    · have hsome := redirection?_eq_some_iff.2 ⟨target, htarget, rfl⟩
      refine .inl ⟨?_, target, htarget, hmoved⟩
      rw [hallocation hi hx, hturns, hsome]
      rfl
    · have hr : redirection? scene old new retyped e = none := by
        rw [Option.eq_none_iff_forall_ne_some]
        intro t ht
        obtain ⟨target, htarget, -⟩ := redirection?_eq_some_iff.1 ht
        exact hnone ⟨target, htarget⟩
      refine .inr ⟨?_, hstays⟩
      rw [hallocation hi hx, hturns, hr, hi]
      rfl

end Substitution

/-- **Allocation and constructor move together**, for a body whose handles are distinct and
below its counter, as those of every body are. The retyped locals are the declared locals of the
old class under their new names, which the statements use beforehand. -/
theorem Body.replaceType_paired {b b' : Body} {scene : Scene} {old new : Text}
    {report : SubstitutionReport} (hne : old ≠ new) (hnd : b.ids.Nodup)
    (hlt : ∀ id ∈ b.ids, id.index < b.nextId)
    (h : b.replaceType scene old new = (.ok report, b')) :
    let names := (b.locals.filter fun l => l.ty.isClass old).map Local.name
    report.renamed = names.map (fun name => (name, Substitution.replacedName name)) ∧
      Substitution.Paired scene old new (names.map Substitution.replacedName)
        (b.statements.map (Substitution.renamedStmt report.renamed)) b'.statements := by
  intro names
  unfold replaceType at h
  dsimp only at h
  split at h
  · cases h
  · next renamed b₁ hretype =>
    obtain ⟨hrenamed, hids, hnext, hstmts⟩ := Substitution.retypeAll_eq_ok hretype
    obtain ⟨n, b₂, hcommit, hlength, hafter⟩ := Substitution.commit_scan scene old new
      (renamed.map Prod.snd) (b := b₁) (hids ▸ hnd) (hids ▸ hnext ▸ hlt)
    rw [hcommit, Prod.mk.injEq] at h
    obtain ⟨hreport, rfl⟩ := h
    obtain rfl := Except.ok.inj hreport
    have hretyped : renamed.map Prod.snd = names.map Substitution.replacedName := by
      rw [hrenamed, List.map_map]
      rfl
    refine ⟨hrenamed, ?_⟩
    rw [← hretyped, ← hstmts]
    exact .of_replacement? hne hlength hafter

namespace SampleSubstitution

/-- The signature of a constructor. -/
def constructor (params : List Ty) : Signature :=
  { ret := .void, name := "<init>".toList, params }

/-- A scene with one class, which has a constructor for a number. -/
def scene : Scene :=
  { classes :=
      [{ name := ⟨"b.New".toList⟩
         modifiers := []
         isInterface := false
         superclass := none
         interfaces := []
         fields := []
         methods := [{ sig := constructor [.int], modifiers := [], throws := [], body := none }] }]
    entryPoints := []
    ordered := List.pairwise_singleton _ _ }

/-- The allocation of an object of the old class. -/
def allocate (x : Text) : Stmt :=
  .assignVar x (.alloc ⟨"a.Old".toList⟩)

/-- A constructor call on the old class. -/
def construct (x : Text) (params : List Ty) (args : List Value) : Stmt :=
  .invoke { kind := .special, base := some x, args
            method := { cls := ⟨"a.Old".toList⟩, sig := constructor params } }

/-- Two objects, interleaved: only the second one has a constructor call that can go over. -/
def body : Body :=
  { method :=
      { cls := ⟨"a.Main".toList⟩, sig := { ret := .void, name := "run".toList, params := [] } }
    locals := [⟨"x".toList, .class_ "a.Old".toList⟩, ⟨"y".toList, .class_ "a.Old".toList⟩]
    stmts := [
      (⟨0⟩, allocate "x".toList),
      (⟨1⟩, allocate "y".toList),
      (⟨2⟩, construct "x".toList [] []),
      (⟨3⟩, construct "y".toList [.int] [.const (.int 1)])]
    nextId := 4 }

/-- The names under which the locals of the old class go on. -/
def retyped : List Text :=
  ["replaced_x".toList, "replaced_y".toList]

/-- Two objects whose allocations are interleaved: each follows its own constructor call. -/
theorem replaceType_paired_interleaved :
    ∃ report b', body.replaceType scene "a.Old".toList "b.New".toList = (.ok report, b') ∧
      Substitution.Paired scene "a.Old".toList "b.New".toList retyped
        [allocate "replaced_x".toList, allocate "replaced_y".toList,
          construct "replaced_x".toList [] [],
          construct "replaced_y".toList [.int] [.const (.int 1)]] b'.statements ∧
      b'.statements.map Stmt.text =
        ["replaced_x = new a.Old".toList, "replaced_y = new b.New".toList,
          "specialinvoke replaced_x.<a.Old: void <init>()>()".toList,
          "specialinvoke replaced_y.<b.New: void <init>(int)>(1)".toList] := by
  generalize hrun : body.replaceType scene "a.Old".toList "b.New".toList = run
  obtain ⟨outcome | report, b'⟩ := run
  · have hok : (body.replaceType scene "a.Old".toList "b.New".toList).1.isOk = true := by
      decide +kernel
    rw [hrun] at hok
    cases hok
  · obtain ⟨hrenamed, hpaired⟩ := Body.replaceType_paired (by decide) (by decide) (by decide) hrun
    rw [hrenamed] at hpaired
    refine ⟨report, b', rfl, hpaired, ?_⟩
    obtain rfl : (body.replaceType scene "a.Old".toList "b.New".toList).2 = b' := congrArg _ hrun
    decide +kernel

end SampleSubstitution

end Weaver
