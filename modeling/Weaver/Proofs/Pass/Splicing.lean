import Weaver.Pass.Insertion
import Weaver.Proofs.Jimple.Evolution

/-!
# Insertions Are Splices

Statements are inserted next to selected ones in two rounds: the selected ones are collected, and
then a queue of edits is carried out, each of which looks for its statement again in a chain that
the edits before it have made longer. What comes out is what a single pass over the chain gives
that copies every statement and adds the new ones where a statement is selected. The invariant
splits the chain: the front is done and has none of the handles that the queue looks for, and the
rest is still as it was.

Statements at the beginning go behind the prologue, and it does not matter whether something
follows there.

## Main definitions

* `Body.Spliced`: a body and the same body with a block of statements in one place.
* `Body.withCopies`: the single pass.
* `IsPrologue`: where the prologue of a method ends.
* `Body.SplicingLaw`: the law.

## Main results

* `Body.insertAt_spliced`: insertion at a position.
* `Body.commit_insertions`: **the queue does what the single pass does**.
* `Body.insertAtBeginning_eq`, `Body.isPrologue_take`: the beginning of a body.
* `Body.splicingLaw`: **every insertion is a splice**.
-/

namespace Weaver

/-- A block on one side of an element. -/
def Side.place {α : Type} (side : Side) (block : List α) (a : α) : List α :=
  match side with
  | .before => block ++ [a]
  | .after => a :: block

/-- What is done to every element is done to the block and to the one beside it. -/
theorem Side.map_place {α β : Type} (f : α → β) (side : Side) (block : List α) (a : α) :
    (side.place block a).map f = side.place (block.map f) (f a) := by
  cases side with
  | before => exact List.map_append
  | after => rfl

/-- The block is placed beside the element, and nothing is lost. -/
theorem Side.mem_place {α : Type} {side : Side} {block : List α} {a x : α} :
    x ∈ side.place block a ↔ x ∈ block ∨ x = a := by
  cases side with
  | before => rw [place, List.mem_append, List.mem_singleton]
  | after => rw [place, List.mem_cons, or_comm]

namespace Body

variable {b : Body}

/-! ### One block of statements -/

/-- The body `b'` is `b` with the statements `new` **spliced in** between `pre` and `post`, under
the handles `ids`: these are not in use in `b`, and the new statements are found under them in
order. -/
structure Spliced (b : Body) (pre post : List (StmtId × Stmt)) (new : List Stmt)
    (ids : List StmtId) (b' : Body) : Prop where
  cut : b.stmts = pre ++ post
  stmts_eq : b'.stmts = pre ++ ids.zip new ++ post
  length_ids : ids.length = new.length
  unused : ∀ id ∈ ids, id ∉ b.ids
  found : ids.map b'.get? = new.map some
  method_eq : b'.method = b.method
  locals_eq : b'.locals = b.locals

/-- With distinct handles, every statement of the chain is found under its handle. -/
theorem get?_of_mem (hnd : b.ids.Nodup) {e : StmtId × Stmt} (he : e ∈ b.stmts) :
    b.get? e.1 = some e.2 := by
  obtain ⟨pre, post, hb⟩ := List.append_of_mem he
  exact get?_of_split hb (not_mem_of_nodup_split hnd hb)

/-- With distinct handles, a handle stands at one position. -/
theorem position?_of_getElem? (hnd : b.ids.Nodup) {i : Nat} {id : StmtId}
    (h : b.ids[i]? = some id) : b.position? id = some i := by
  rw [ids, List.getElem?_map, Option.map_eq_some_iff] at h
  obtain ⟨⟨id, s⟩, hget, rfl⟩ := h
  obtain ⟨hi, hget⟩ := List.getElem?_eq_some_iff.1 hget
  have hb : b.stmts = b.stmts.take i ++ (id, s) :: b.stmts.drop (i + 1) := by
    rw [← hget, ← List.drop_eq_getElem_cons hi, List.take_append_drop]
  rw [position?_of_split hb (not_mem_of_nodup_split hnd hb), List.length_take,
    Nat.min_eq_left (Nat.le_of_lt hi)]

/-- The new handles go with the new statements, in order. -/
theorem zip_numbered (start : Nat) (ss : List Stmt) :
    ((numbered start ss).map Prod.fst).zip ss = numbered start ss := by
  induction ss generalizing start with
  | nil => rfl
  | cons s ss ih => rw [numbered, List.map_cons, List.zip_cons_cons, ih]

/-- **Insertion at a position** is a splice. -/
theorem insertAt_spliced (hnd : b.ids.Nodup) (hlt : ∀ id ∈ b.ids, id.index < b.nextId)
    (position : Nat) (new : List Stmt) :
    b.Spliced (b.stmts.take position) (b.stmts.drop position) new (b.insertAt position new).1
      (b.insertAt position new).2 where
  cut := (List.take_append_drop position b.stmts).symm
  stmts_eq := by rw [insertAt, zip_numbered]
  length_ids := by rw [insertAt, List.length_map, length_numbered]
  unused id hid hmem := by
    have := hlt id hmem
    have := index_of_mem_numbered hid
    omega
  found := by
    have hnd' := nodup_ids_insertAt hnd hlt position new
    have hfound : ∀ e ∈ numbered b.nextId new,
        (b.insertAt position new).2.get? e.1 = some e.2 := by
      intro e he
      exact get?_of_mem hnd' (List.mem_append_left _ (List.mem_append_right _ he))
    calc (b.insertAt position new).1.map (b.insertAt position new).2.get?
        = (numbered b.nextId new).map fun e => (b.insertAt position new).2.get? e.1 :=
          List.map_map
      _ = (numbered b.nextId new).map fun e => some e.2 := List.map_congr_left hfound
      _ = ((numbered b.nextId new).map Prod.snd).map some := List.map_map.symm
      _ = new.map some := by rw [map_snd_numbered]
  method_eq := rfl
  locals_eq := rfl

/-! ### Copies next to selected statements -/

/-- The chain with a copy of the statements on one side of every selected one, **in one pass**.
The copies take the handles from `next` on. -/
def withCopies (side : Side) (selects : Stmt → Bool) (new : List Stmt) :
    Nat → List (StmtId × Stmt) → List (StmtId × Stmt)
  | _, [] => []
  | next, e :: rest =>
    if selects e.2 then
      side.place (numbered next new) e ++ withCopies side selects new (next + new.length) rest
    else e :: withCopies side selects new next rest

section

variable (side : Side) (selects : Stmt → Bool) (new : List Stmt)

/-- Without handles, the pass is a flat map: only the statements that were there are looked at. -/
theorem map_snd_withCopies (next : Nat) (chain : List (StmtId × Stmt)) :
    (withCopies side selects new next chain).map Prod.snd =
      (chain.map Prod.snd).flatMap fun s => if selects s then side.place new s else [s] := by
  induction chain generalizing next with
  | nil => rfl
  | cons e rest ih =>
    rw [withCopies, List.map_cons, List.flatMap_cons]
    split
    · rw [List.map_append, Side.map_place, map_snd_numbered, ih]
    · rw [List.map_cons, ih, List.singleton_append]

/-- What tells the old handles from those that are issued finds the old chain again. -/
theorem filter_withCopies (isOld : StmtId → Bool) {next : Nat} {chain : List (StmtId × Stmt)}
    (hold : ∀ e ∈ chain, isOld e.1 = true) (hnew : ∀ id, next ≤ id.index → isOld id = false) :
    (withCopies side selects new next chain).filter (fun e => isOld e.1) = chain := by
  induction chain generalizing next with
  | nil => rfl
  | cons e rest ih =>
    rw [List.forall_mem_cons] at hold
    obtain ⟨he, hrest⟩ := hold
    have hblock : (numbered next new).filter (fun e => isOld e.1) = [] := by
      rw [List.filter_eq_nil_iff]
      intro e he
      rw [hnew e.1 (index_of_mem_numbered (List.mem_map_of_mem he)).1]
      exact Bool.false_ne_true
    have hplace : (side.place (numbered next new) e).filter (fun e => isOld e.1) = [e] := by
      cases side with
      | before => rw [Side.place, List.filter_append, hblock, List.filter_singleton, he]; rfl
      | after => rw [Side.place, List.filter_cons, if_pos he, hblock]
    rw [withCopies]
    split
    · rw [List.filter_append, hplace, ih hrest fun id hid => hnew id (by omega)]
      rfl
    · rw [List.filter_cons, if_pos he, ih hrest hnew]

/-- One edit of the queue, at the cut of its statement. -/
theorem apply_insertion {pre post : List (StmtId × Stmt)} {e : StmtId × Stmt}
    (hb : b.stmts = pre ++ e :: post) (hpre : e.1 ∉ pre.map Prod.fst) :
    (insertion side e.1 new).apply b = .ok (new.length,
      { b with stmts := pre ++ side.place (numbered b.nextId new) e ++ post
               nextId := b.nextId + new.length }) := by
  cases side with
  | before =>
    rw [insertion, Edit.apply, insertBefore_of_split hb hpre]
    simp [Except.map, Side.place]
  | after =>
    rw [insertion, Edit.apply, insertAfter_of_split hb hpre]
    simp [Except.map, Side.place]

/-- **The queue does what the single pass does.** No edit that is still queued finds its statement
in the front `done` of the chain. -/
theorem commit_insertions {done rest : List (StmtId × Stmt)} (h : b.Halfway done rest) :
    EditLog.commit
        (((rest.filter fun e => selects e.2).map Prod.fst).map fun id => insertion side id new) b =
      (.ok ((rest.map Prod.snd).countP selects * new.length),
        { b with stmts := done ++ withCopies side selects new b.nextId rest
                 nextId := b.nextId + (rest.map Prod.snd).countP selects * new.length }) := by
  -- A copy in the front may satisfy `selects`, but the queue asks for handles only.
  induction rest generalizing b done with
  | nil => simp [EditLog.commit, withCopies, ← h.stmts_eq]
  | cons e rest ih =>
    rw [withCopies, List.map_cons, List.countP_cons]
    by_cases hsel : selects e.2 = true
    · let block := side.place (numbered b.nextId new) e
      have hblock : ∀ id ∈ block.map Prod.fst, id = e.1 ∨ b.nextId ≤ id.index := by
        intro id hid
        rw [Side.map_place, Side.mem_place] at hid
        exact hid.symm.imp_right fun hnew => (index_of_mem_numbered hnew).1
      let b' : Body :=
        { b with stmts := done ++ block ++ rest, nextId := b.nextId + new.length }
      have hnext : b'.Halfway (done ++ block) rest := h.advance hblock rfl (Nat.le_add_right _ _)
      have hrest := ih hnext
      rw [List.filter_cons, if_pos hsel, List.map_cons, List.map_cons, EditLog.commit,
        apply_insertion side new h.stmts_eq (h.apart _ List.mem_cons_self), if_pos hsel,
        if_pos hsel]
      dsimp only
      rw [hrest]
      simp only [b', Except.map, List.append_assoc, Nat.add_mul, Nat.one_mul]
      congr 2 <;> omega
    · rw [List.filter_cons, if_neg hsel, if_neg hsel, if_neg hsel, ih h.keep, List.append_assoc]
      rfl

end

/-! ### The beginning of a body -/

end Body

/-- The statements `pre` are the **prologue** of a method with this name, and `post` are the others:
the prologue is the longest run of identity statements, and the statement behind it if this is a
call of a method with the same name. -/
def IsPrologue (name : Text) (pre post : List Stmt) : Prop :=
  ∃ bindings : List Stmt, (∀ s ∈ bindings, s.isIdentity = true) ∧
    ((∃ e : Invocation, pre = bindings ++ [.invoke e] ∧ e.method.sig.name = name) ∨
      pre = bindings ∧ ∀ s ∈ post.head?, s.isIdentity = false ∧
        ∀ e, s = .invoke e → e.method.sig.name ≠ name)

namespace Body

variable {b : Body}

/-- The statement is a call without a result to a method of that name. -/
theorem delegatesTo_iff {name : Text} {s : Option Stmt} :
    delegatesTo name s = true ↔
      ∃ e : Invocation, s = some (.invoke e) ∧ e.method.sig.name = name := by
  constructor
  · intro h
    unfold delegatesTo at h
    split at h
    next e => exact ⟨e, rfl, eq_of_beq h⟩
    · cases h
  · rintro ⟨e, rfl, rfl⟩
    exact beq_self_eq_true _

/-- The length of the prologue, by what stands behind the longest run of identity statements. -/
theorem exists_bindings (b : Body) : ∃ bindings rest : List Stmt,
    b.statements = bindings ++ rest ∧ (∀ s ∈ bindings, s.isIdentity = true) ∧
      (∀ s ∈ rest.head?, s.isIdentity = false) ∧
      b.prologueLength =
        if delegatesTo b.method.sig.name rest.head? then bindings.length + 1
        else bindings.length := by
  let bindings := b.statements.takeWhile Stmt.isIdentity
  let rest := b.statements.dropWhile Stmt.isIdentity
  have hcut : b.statements = bindings ++ rest := List.takeWhile_append_dropWhile.symm
  have hhead : b.statements[bindings.length]? = rest.head? := by
    rw [hcut, List.getElem?_append_right (Nat.le_refl _), Nat.sub_self, List.head?_eq_getElem?]
  refine ⟨bindings, rest, hcut, List.all_eq_true.1 List.all_takeWhile, fun s hs => ?_, ?_⟩
  · have := List.head?_dropWhile_not Stmt.isIdentity b.statements
    rw [Option.mem_def.1 hs] at this
    simpa using this
  · rw [prologueLength, ← hhead]

/-- The prologue is a part of the body. -/
theorem prologueLength_le (b : Body) : b.prologueLength ≤ b.statements.length := by
  obtain ⟨bindings, rest, hcut, -, -, hlength⟩ := b.exists_bindings
  rw [hlength, hcut, List.length_append]
  split
  next hcall =>
    cases rest with
    | nil => cases hcall
    | cons s rest => rw [List.length_cons]; omega
  · exact Nat.le_add_right _ _

/-- **The prologue** has the length that is computed for it. -/
theorem isPrologue_take (b : Body) :
    IsPrologue b.method.sig.name (b.statements.take b.prologueLength)
      (b.statements.drop b.prologueLength) := by
  obtain ⟨bindings, rest, hcut, hbindings, hrest, hlength⟩ := b.exists_bindings
  refine ⟨bindings, hbindings, ?_⟩
  rw [hlength, hcut]
  split
  next hcall =>
    obtain ⟨e, hhead, hname⟩ := delegatesTo_iff.1 hcall
    obtain ⟨rest, rfl⟩ := List.head?_eq_some_iff.1 hhead
    refine .inl ⟨e, ?_, hname⟩
    rw [List.take_length_add_append, List.take_succ_cons, List.take_zero]
  next hcall =>
    rw [List.take_left, List.drop_left]
    refine .inr ⟨rfl, fun s hs => ⟨hrest s hs, ?_⟩⟩
    rintro e rfl hname
    exact hcall (delegatesTo_iff.2 ⟨e, hs, hname⟩)

/-- Statements at the beginning are inserted at the end of the prologue, **whether or not anything
follows it**. -/
theorem insertAtBeginning_eq (hnd : b.ids.Nodup) (new : List Stmt) :
    b.insertAtBeginning new = .ok (b.insertAt b.prologueLength new) := by
  rw [insertAtBeginning]
  split
  next anchor hanchor =>
    rw [insertBefore, position?_of_getElem? hnd hanchor]
  next hnone =>
    have hle : b.stmts.length ≤ b.prologueLength := by
      rw [List.getElem?_eq_none_iff] at hnone
      simpa [ids] using hnone
    have hlength : b.prologueLength = b.stmts.length := by
      have := b.prologueLength_le
      rw [statements, List.length_map] at this
      omega
    rw [append, hlength]

/-! ### The law -/

/-- **The splicing law** of a body. -/
structure SplicingLaw (b : Body) : Prop where
  /-- Insertion next to selected statements never fails and counts them. Copies of the new
  statements stand next to those that were selected in the body as it was, whether or not the new
  ones would be selected as well, and nothing else changes. -/
  matching : ∀ (side : Side) (selects : Stmt → Bool) (new : List Stmt), ∃ b',
    b.insertMatching side selects new = (.ok (b.statements.countP selects), b') ∧
      b'.method = b.method ∧ b'.locals = b.locals ∧
      b'.stmts = withCopies side selects new b.nextId b.stmts ∧
      b'.statements =
        (b.statements.flatMap fun s => if selects s then side.place new s else [s]) ∧
      b'.stmts.filter (fun e => e.1 ∈ b.ids) = b.stmts
  /-- Insertion at the beginning splices the statements in once, behind the prologue. -/
  beginning : ∀ new : List Stmt, ∃ pre post ids b',
    b.insertAtBeginning new = .ok (ids, b') ∧
      IsPrologue b.method.sig.name (pre.map Prod.snd) (post.map Prod.snd) ∧
      b.Spliced pre post new ids b'
  /-- Insertion at the end splices them in behind everything. -/
  ending : ∀ new : List Stmt,
    b.Spliced b.stmts [] new (b.insertAtEnd new).1 (b.insertAtEnd new).2

/-- **Every insertion is a splice**, for a body whose handles are distinct and below its
counter. -/
theorem splicingLaw (hnd : b.ids.Nodup) (hlt : ∀ id ∈ b.ids, id.index < b.nextId) :
    b.SplicingLaw where
  matching side selects new := by
    have hcommit := commit_insertions side selects new (Halfway.start hnd hlt)
    have hanchors : ((b.stmts.filter fun e => selects e.2).map Prod.fst).length =
        b.statements.countP selects := by
      rw [List.length_map, ← List.countP_eq_length_filter, statements, List.countP_map]
      rfl
    refine ⟨{ b with stmts := withCopies side selects new b.nextId b.stmts
                     nextId := b.nextId + b.statements.countP selects * new.length },
      ?_, rfl, rfl, rfl, map_snd_withCopies side selects new b.nextId b.stmts,
      filter_withCopies side selects new (fun id => decide (id ∈ b.ids)) ?_ ?_⟩
    · rw [insertMatching, hcommit, hanchors]
      rfl
    · intro e he
      exact decide_eq_true (List.mem_map_of_mem he)
    · intro id hid
      refine decide_eq_false fun hmem => ?_
      have := hlt id hmem
      omega
  beginning new := by
    refine ⟨_, _, _, _, insertAtBeginning_eq hnd new, ?_, insertAt_spliced hnd hlt _ new⟩
    rw [List.map_take, List.map_drop]
    exact b.isPrologue_take
  ending new := by
    have h := insertAt_spliced hnd hlt b.stmts.length new
    rwa [List.take_length, List.drop_length] at h

end Body

namespace SampleConstructor

/-- The constructor of a class. -/
def constructor (cls : Text) : MethodRef :=
  { cls := ⟨cls⟩, sig := { ret := .void, name := constructorName, params := [] } }

/-- A call of the constructor of the superclass on the local `r0`. -/
def superCall : Stmt :=
  .invoke ⟨.special, some "r0".toList, constructor "a.Base".toList, []⟩

def nop : Stmt :=
  .verbatim "nop".toList

/-- The receiver is bound, the superclass is constructed, and nothing is done, twice. -/
def body : Body :=
  { method := constructor "a.Main".toList
    locals := [⟨"r0".toList, .class_ "a.Main".toList⟩]
    stmts := [
      (⟨0⟩, .identity "r0".toList (.this (.class_ "a.Main".toList))),
      (⟨1⟩, superCall),
      (⟨2⟩, nop),
      (⟨3⟩, nop),
      (⟨4⟩, .ret none)]
    nextId := 5 }

/-- The new statement would be selected itself, and the selected ones are neighbours. -/
theorem splicingLaw_body :
    body.ids.Nodup ∧ (∀ id ∈ body.ids, id.index < body.nextId) ∧
      (∃ b', body.insertMatching .after (fun s => s.kind == .verbatim) [nop] = (.ok 2, b') ∧
        b'.ids.map StmtId.index = [0, 1, 2, 5, 3, 6, 4]) ∧
      ∃ b', body.insertAtBeginning [nop, nop] = .ok ([⟨5⟩, ⟨6⟩], b') ∧
        b'.get? ⟨6⟩ = some nop ∧ b'.ids.map StmtId.index = [0, 1, 5, 6, 2, 3, 4] := by
  have hnd : body.ids.Nodup := by decide
  have hlt : ∀ id ∈ body.ids, id.index < body.nextId := by decide
  have hlaw := Body.splicingLaw hnd hlt
  refine ⟨hnd, hlt, ?_, ?_⟩
  · obtain ⟨b', hrun, -, -, hstmts, -⟩ :=
      hlaw.matching .after (fun s => s.kind == .verbatim) [nop]
    refine ⟨b', hrun, ?_⟩
    rw [Body.ids, hstmts]
    rfl
  · obtain ⟨pre, post, ids, b', hrun, -, hspliced⟩ := hlaw.beginning [nop, nop]
    have hrun' : ∃ b', body.insertAtBeginning [nop, nop] = .ok ([⟨5⟩, ⟨6⟩], b') ∧
        b'.ids.map StmtId.index = [0, 1, 5, 6, 2, 3, 4] := ⟨_, rfl, rfl⟩
    obtain ⟨b'', heq, hids⟩ := hrun'
    rw [hrun] at heq
    obtain ⟨rfl, rfl⟩ := Prod.mk.inj (Except.ok.inj heq)
    have hfound : [b'.get? ⟨5⟩, b'.get? ⟨6⟩] = [some nop, some nop] := hspliced.found
    rw [List.cons.injEq, List.cons.injEq] at hfound
    exact ⟨b', hrun, hfound.2.1, hids⟩

end SampleConstructor

end Weaver
