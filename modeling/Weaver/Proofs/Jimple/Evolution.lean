import Mathlib.Data.List.Nodup
import Weaver.Jimple.Edit
import Weaver.Proofs.Jimple.FreshLocals
import Weaver.Proofs.Jimple.Taken

/-!
# How Bodies Evolve

Handles are issued by a counter, and a local is declared only under a free name. What this
means for a body is its invariant, `Body.Sound`; what it means for two states of one body,
the earlier and the later one, is the relation `Body.Evolves`. Every edit of a body is a
chain of insertions under new handles and of changes that issue no handle, and so is the
work of the reader.

## Main definitions

* `Body.Sound`: **the invariant** of bodies.
* `Body.Evolves`: what the later of two states keeps of the earlier one.

## Main results

* `Body.evolves_of_sublist`, `Body.insertAt_evolves`: the two kinds of elementary changes.
* `EditLog.commit_evolves`: a queue of edits, also one that fails half-way.
* `Body.read_sound`, `Class.read_sound`: what the reader gives is sound.
-/

namespace Weaver

namespace Body

/-! ### Invariant and evolution -/

/-- **The invariant of bodies**: handles are distinct and have been issued, and the names of
the locals are distinct. -/
structure Sound (b : Body) : Prop where
  nodup_ids : b.ids.Nodup
  ids_lt : ∀ id ∈ b.ids, id.index < b.nextId
  nodup_names : b.names.Nodup

/-- The body `b'` may be a **later state** of `b`: it is sound if `b` is, and those of its
handles that had been issued when it was `b` are handles of `b`, in the order they had. -/
structure Evolves (b b' : Body) : Prop where
  sound : b.Sound → b'.Sound
  nextId_le : b.nextId ≤ b'.nextId
  survivors : (b'.ids.filter fun id => id.index < b.nextId).Sublist b.ids

variable {b b' b'' : Body}

theorem Evolves.refl (b : Body) : b.Evolves b :=
  ⟨id, Nat.le_refl _, List.filter_sublist⟩

/-- A later state of a later state is a later state. -/
theorem Evolves.trans (h : b.Evolves b') (h' : b'.Evolves b'') : b.Evolves b'' where
  sound hb := h'.sound (h.sound hb)
  nextId_le := Nat.le_trans h.nextId_le h'.nextId_le
  survivors := by
    have hle := h.nextId_le
    have hfilter : (b''.ids.filter fun id => id.index < b.nextId) =
        (b''.ids.filter fun id => id.index < b'.nextId).filter fun id => id.index < b.nextId := by
      rw [List.filter_filter]
      refine List.filter_congr fun id _ => ?_
      rw [← Bool.decide_and, decide_eq_decide]
      omega
    rw [hfilter]
    exact (h'.survivors.filter _).trans h.survivors

/-- What is new in a later state has a handle that **had not been issued** before. -/
theorem Evolves.mem_or_le (h : b.Evolves b') {id : StmtId} (hid : id ∈ b'.ids) :
    id ∈ b.ids ∨ b.nextId ≤ id.index := by
  by_cases hlt : id.index < b.nextId
  · exact .inl (h.survivors.subset (List.mem_filter.2 ⟨hid, by simpa using hlt⟩))
  · exact .inr (Nat.le_of_not_lt hlt)

/-- **What stays keeps its order**: the handles that two states share come in the same order
in both. -/
theorem Evolves.order (h : b.Evolves b') (hb : b.Sound) :
    b'.ids.filter (· ∈ b.ids) = b.ids.filter (· ∈ b'.ids) := by
  have hold : b'.ids.filter (· ∈ b.ids) = b'.ids.filter fun id => id.index < b.nextId := by
    refine List.filter_congr fun id hid => ?_
    rw [decide_eq_decide]
    constructor
    · exact hb.ids_lt id
    · intro hlt
      exact (h.mem_or_le hid).resolve_right (by omega)
  have hsub : (b'.ids.filter (· ∈ b.ids)).Sublist b.ids := hold ▸ h.survivors
  have hmem : ∀ id ∈ b.ids, id ∈ b'.ids.filter (· ∈ b.ids) ↔ id ∈ b'.ids := by
    intro id hid
    simp [hid]
  -- A sublist of a list without repetitions is what its members filter out of the list.
  have hself := List.Sublist.filter (fun id => decide (id ∈ b'.ids)) hsub
  have hall : (b'.ids.filter (· ∈ b.ids)).filter (· ∈ b'.ids) = b'.ids.filter (· ∈ b.ids) := by
    rw [List.filter_eq_self]
    intro id hid
    simpa using (List.mem_filter.1 hid).1
  rw [hall] at hself
  refine hself.eq_of_length_le (List.Subperm.length_le ?_)
  refine List.subperm_of_subset (hb.nodup_ids.filter _) fun id hid => ?_
  obtain ⟨hid, hid'⟩ := List.mem_filter.1 hid
  exact (hmem id hid).2 (by simpa using hid')

/-! ### Elementary changes -/

/-- **Changes that issue no handle**: statements go, or are replaced under their handles. -/
theorem evolves_of_sublist (hids : b'.ids.Sublist b.ids) (hnext : b'.nextId = b.nextId)
    (hnames : b.names.Nodup → b'.names.Nodup) : b.Evolves b' where
  sound hb :=
    { nodup_ids := hids.nodup hb.nodup_ids
      ids_lt := fun id hid => hnext ▸ hb.ids_lt id (hids.subset hid)
      nodup_names := hnames hb.nodup_names }
  nextId_le := Nat.le_of_eq hnext.symm
  survivors := List.filter_sublist.trans hids

/-- The handles of a block are consecutive. -/
theorem index_of_mem_numbered {start : Nat} {ss : List Stmt} {id : StmtId}
    (h : id ∈ (numbered start ss).map Prod.fst) :
    start ≤ id.index ∧ id.index < start + ss.length := by
  induction ss generalizing start with
  | nil => simp [numbered] at h
  | cons s ss ih =>
    rw [numbered, List.map_cons, List.mem_cons] at h
    obtain rfl | h := h
    · simp
    · have := ih h
      simp only [List.length_cons]
      omega

/-- The handles of a block are distinct. -/
theorem nodup_numbered (start : Nat) (ss : List Stmt) :
    ((numbered start ss).map Prod.fst).Nodup := by
  induction ss generalizing start with
  | nil => exact List.nodup_nil
  | cons s ss ih =>
    rw [numbered, List.map_cons, List.nodup_cons]
    refine ⟨fun hmem => ?_, ih (start + 1)⟩
    have := index_of_mem_numbered hmem
    simp only at this
    omega

/-- A block stands with its handles where it has been inserted. -/
theorem ids_insertAt (b : Body) (position : Nat) (new : List Stmt) :
    (b.insertAt position new).2.ids =
      b.ids.take position ++ (numbered b.nextId new).map Prod.fst ++ b.ids.drop position := by
  simp [insertAt, ids, List.map_take, List.map_drop]

/-- The handles after an insertion are those of the block and the old ones. -/
theorem perm_ids_insertAt (b : Body) (position : Nat) (new : List Stmt) :
    (b.insertAt position new).2.ids.Perm ((numbered b.nextId new).map Prod.fst ++ b.ids) := by
  rw [ids_insertAt, List.append_assoc]
  refine List.perm_append_comm.trans ?_
  rw [List.append_assoc]
  refine List.Perm.append_left _ (List.perm_append_comm.trans ?_)
  rw [List.take_append_drop]

/-- **Handles stay distinct** when statements are inserted, wherever they go. -/
theorem nodup_ids_insertAt (hnd : b.ids.Nodup) (hlt : ∀ id ∈ b.ids, id.index < b.nextId)
    (position : Nat) (new : List Stmt) : (b.insertAt position new).2.ids.Nodup := by
  rw [(b.perm_ids_insertAt position new).nodup_iff, List.nodup_append]
  refine ⟨nodup_numbered _ _, hnd, ?_⟩
  rintro id hid _ hmem rfl
  have := hlt id hmem
  have := index_of_mem_numbered hid
  omega

/-- **Insertions**, wherever they go. -/
theorem insertAt_evolves (b : Body) (position : Nat) (new : List Stmt) :
    b.Evolves (b.insertAt position new).2 := by
  let block := (numbered b.nextId new).map Prod.fst
  have hlt : ∀ id ∈ block, b.nextId ≤ id.index ∧ id.index < b.nextId + new.length :=
    fun id hid => index_of_mem_numbered hid
  refine ⟨fun hb => ⟨nodup_ids_insertAt hb.nodup_ids hb.ids_lt position new, fun id hid => ?_,
    hb.nodup_names⟩, Nat.le_add_right _ _, ?_⟩
  · have hnext : (b.insertAt position new).2.nextId = b.nextId + new.length := rfl
    rw [(b.perm_ids_insertAt position new).mem_iff, List.mem_append] at hid
    obtain hid | hid := hid
    · have := hlt id hid
      omega
    · have := hb.ids_lt id hid
      omega
  · have hblock : block.filter (fun id => id.index < b.nextId) = [] := by
      rw [List.filter_eq_nil_iff]
      intro id hid
      have := hlt id hid
      simp only [decide_eq_true_eq]
      omega
    rw [ids_insertAt, List.filter_append, List.filter_append, hblock, List.append_nil,
      ← List.filter_append, List.take_append_drop]
    exact List.filter_sublist

/-! ### Edits of the chain -/

/-- Appending evolves. -/
theorem append_evolves (b : Body) (new : List Stmt) : b.Evolves (b.append new).2 :=
  b.insertAt_evolves _ new

/-- Appending a statement is appending a block of it. -/
theorem push_eq_append (b : Body) (s : Stmt) : (b.push s).2 = (b.append [s]).2 := by
  simp [push, append, insertAt, numbered]

/-- Appending a statement evolves. -/
theorem push_evolves (b : Body) (s : Stmt) : b.Evolves (b.push s).2 :=
  b.push_eq_append s ▸ b.append_evolves [s]

/-- Inserting in front of a statement evolves. -/
theorem insertBefore_evolves {anchor : StmtId} {new : List Stmt} {ids : List StmtId}
    (h : b.insertBefore anchor new = .ok (ids, b')) : b.Evolves b' := by
  unfold insertBefore at h
  split at h
  · next i _ =>
    have hb' : (b.insertAt i new).2 = b' := congrArg Prod.snd (Except.ok.inj h)
    exact hb' ▸ b.insertAt_evolves i new
  · cases h

/-- Inserting behind a statement evolves. -/
theorem insertAfter_evolves {anchor : StmtId} {new : List Stmt} {ids : List StmtId}
    (h : b.insertAfter anchor new = .ok (ids, b')) : b.Evolves b' := by
  unfold insertAfter at h
  split at h
  · next i _ =>
    have hb' : (b.insertAt (i + 1) new).2 = b' := congrArg Prod.snd (Except.ok.inj h)
    exact hb' ▸ b.insertAt_evolves (i + 1) new
  · cases h

/-- Removing evolves. -/
theorem remove?_evolves {id : StmtId} {s : Stmt} (h : b.remove? id = some (s, b')) :
    b.Evolves b' := by
  unfold remove? at h
  split at h
  · cases h
  · next i _ =>
    obtain ⟨⟨_, _⟩, -, heq⟩ := Option.map_eq_some_iff.1 h
    obtain ⟨-, rfl⟩ := Prod.mk.inj heq
    refine evolves_of_sublist ?_ rfl fun h => h
    rw [ids, ids]
    exact (List.eraseIdx_sublist b.stmts i).map Prod.fst

/-- Exchanging a statement leaves the handles. -/
theorem ids_setStmt (id : StmtId) (new : Stmt) (stmts : List (StmtId × Stmt)) :
    (setStmt id new stmts).map Prod.fst = stmts.map Prod.fst := by
  induction stmts with
  | nil => rfl
  | cons e stmts ih =>
    rw [setStmt]
    split
    · rfl
    · rw [List.map_cons, ih, List.map_cons]

/-- Exchanging a statement evolves. -/
theorem set_evolves (b : Body) (id : StmtId) (new : Stmt) : b.Evolves (b.set id new) := by
  refine evolves_of_sublist ?_ rfl fun h => h
  rw [ids, set, ids_setStmt, ids]

/-! ### Edits of the locals -/

/-- Declaring a local under a free name. -/
theorem withLocals_evolves {l : Local} (h : l.name ∉ b.names) : b.Evolves (b.withLocals [l]) := by
  refine evolves_of_sublist (List.Sublist.refl _) rfl fun hnd => ?_
  rw [names_withLocals, List.map_singleton, ← List.concat_eq_append]
  exact hnd.concat h

/-- Declaring a local evolves. -/
theorem addLocal_evolves {l : Local} (h : b.addLocal l = .ok b') : b.Evolves b' := by
  unfold addLocal at h
  split at h
  · cases h
  · next hfree =>
    rw [Except.ok.injEq] at h
    subst h
    exact withLocals_evolves (declares_eq_false_iff.1 (by simpa using hfree))

/-- Generating a local evolves. -/
theorem generateLocal_evolves (b : Body) (ty : Ty) : b.Evolves (b.generateLocal ty).2 := by
  obtain ⟨l, -, ⟨n, -, hfree, -⟩, heq⟩ := b.isFresh_generateLocal ty
  rw [heq]
  exact withLocals_evolves hfree

/-- Replacing a local puts the new one in the place of the first one of the name. -/
theorem exists_split_replaceLocal {name : Text} {ls : List Local} (h : name ∈ ls.map Local.name)
    (new : Local) : ∃ before l after, ls = before ++ l :: after ∧ l.name = name ∧
      name ∉ before.map Local.name ∧ replaceLocal name new ls = before ++ new :: after := by
  induction ls with
  | nil => cases h
  | cons l ls ih =>
    by_cases hl : l.name = name
    · exact ⟨[], l, ls, rfl, hl, List.not_mem_nil, by rw [replaceLocal, if_pos hl]; rfl⟩
    · rw [List.map_cons, List.mem_cons] at h
      obtain ⟨before, l', after, rfl, hname, hbefore, hreplace⟩ :=
        ih (h.resolve_left (Ne.symm hl))
      refine ⟨l :: before, l', after, rfl, hname, ?_, ?_⟩
      · rw [List.map_cons, List.mem_cons, not_or]
        exact ⟨Ne.symm hl, hbefore⟩
      · rw [replaceLocal, if_neg hl, hreplace]
        rfl

/-- What a successful change of name and type makes of a body. -/
theorem retypeLocal_eq_ok {name newName : Text} {ty : Ty} {l : Local}
    (h : b.retypeLocal name newName ty = .ok (l, b')) :
    (newName = name ∨ newName ∉ b.names) ∧ name ∈ b.names ∧ l = ⟨newName, ty⟩ ∧
      b' = { b with
        locals := replaceLocal name l b.locals
        stmts := b.stmts.map fun (id, s) => (id, s.rename name newName) } := by
  unfold retypeLocal at h
  split at h
  · cases h
  · next hfree =>
    split at h
    · next hdeclared =>
      rw [Except.ok.injEq, Prod.mk.injEq] at h
      obtain ⟨rfl, rfl⟩ := h
      refine ⟨?_, declares_iff.1 hdeclared, rfl, rfl⟩
      by_cases hname : newName = name
      · exact .inl hname
      · refine .inr fun hmem => hfree ⟨Ne.symm hname, declares_iff.2 hmem⟩
    · cases h

/-- **Names stay pairwise distinct** when a local gets another one. -/
theorem nodup_names_retypeLocal {name newName : Text} {ty : Ty} {l : Local}
    (h : b.retypeLocal name newName ty = .ok (l, b')) (hnd : b.names.Nodup) : b'.names.Nodup := by
  obtain ⟨hfree, hdeclared, rfl, rfl⟩ := retypeLocal_eq_ok h
  obtain ⟨before, l, after, hls, hl, -, hreplace⟩ :=
    exists_split_replaceLocal hdeclared ⟨newName, ty⟩
  rw [names, hls, List.map_append, List.map_cons, List.nodup_middle, List.nodup_cons] at hnd
  rw [names, hreplace, List.map_append, List.map_cons, List.nodup_middle, List.nodup_cons]
  refine ⟨fun hmem => ?_, hnd.2⟩
  obtain hsame | hfree := hfree
  · exact hnd.1 (by rwa [hl, ← hsame])
  · refine hfree ?_
    rw [names, hls, List.map_append, List.map_cons]
    rw [List.mem_append] at hmem ⊢
    exact hmem.imp_right (List.mem_cons_of_mem _)

/-- Giving a local another name and type evolves. -/
theorem retypeLocal_evolves {name newName : Text} {ty : Ty} {l : Local}
    (h : b.retypeLocal name newName ty = .ok (l, b')) : b.Evolves b' := by
  have hnames := nodup_names_retypeLocal h
  obtain ⟨-, -, rfl, rfl⟩ := retypeLocal_eq_ok h
  refine evolves_of_sublist ?_ rfl hnames
  rw [ids, List.map_map, ids]
  exact List.Sublist.refl _

end Body

/-! ### Queues of edits -/

/-- Every edit evolves. -/
theorem Edit.apply_evolves {e : Edit} {b b' : Body} {n : Nat} (h : e.apply b = .ok (n, b')) :
    b.Evolves b' := by
  cases e with
  | insertBefore anchor new =>
    cases hi : b.insertBefore anchor new with
    | error fault => simp [apply, hi, Except.map] at h
    | ok r =>
      simp only [apply, hi, Except.map, Except.ok.injEq, Prod.mk.injEq] at h
      exact h.2 ▸ Body.insertBefore_evolves hi
  | insertAfter anchor new =>
    cases hi : b.insertAfter anchor new with
    | error fault => simp [apply, hi, Except.map] at h
    | ok r =>
      simp only [apply, hi, Except.map, Except.ok.injEq, Prod.mk.injEq] at h
      exact h.2 ▸ Body.insertAfter_evolves hi
  | remove id =>
    cases hr : b.remove? id with
    | none => simp [apply, hr] at h
    | some r =>
      simp only [apply, hr, Except.ok.injEq, Prod.mk.injEq] at h
      exact h.2 ▸ Body.remove?_evolves hr

/-- **A queue of edits**, also if it fails half-way. -/
theorem EditLog.commit_evolves (log : EditLog) (b : Body) : b.Evolves (log.commit b).2 := by
  induction log generalizing b with
  | nil => exact .refl b
  | cons e rest ih =>
    rw [commit]
    cases h : e.apply b with
    | error fault => exact .refl b
    | ok r =>
      obtain ⟨n, b'⟩ := r
      exact (Edit.apply_evolves h).trans (ih b')

/-! ### Reading -/

/-- The empty body is sound. -/
theorem Body.empty_sound (m : MethodRef) : (empty m).Sound where
  nodup_ids := List.nodup_nil
  ids_lt _ h := by cases h
  nodup_names := List.nodup_nil

/-- Declaring several locals evolves. -/
theorem Body.declareAll_evolves {ls : List Local} {b b' : Body} (h : declareAll ls b = .ok b') :
    b.Evolves b' := by
  induction ls generalizing b with
  | nil =>
    rw [declareAll, Except.ok.injEq] at h
    exact h ▸ .refl b
  | cons l ls ih =>
    rw [declareAll] at h
    split at h
    · cases h
    · next hfree =>
      exact (withLocals_evolves (declares_eq_false_iff.1 (by simpa using hfree))).trans (ih h)

namespace BodyReading

/-- Reading a statement evolves. -/
theorem stepStatement_evolves {r r' : BodyReading} {line : Line}
    (h : r.stepStatement line = .ok r') : r.body.Evolves r'.body := by
  unfold stepStatement at h
  split at h
  · next name _ =>
    rw [Except.ok.injEq] at h
    exact h ▸ r.body.push_evolves _
  · split at h
    · rw [Except.ok.injEq] at h
      exact h ▸ .refl _
    · split at h
      · cases h
      · next code _ =>
        cases hs : Stmt.read code with
        | error why => simp [hs, Except.map] at h
        | ok s =>
          rw [hs, Except.map, Except.ok.injEq] at h
          exact h ▸ r.body.push_evolves s

/-- **The reader only adds** to the body it reads. -/
theorem step_evolves {r r' : BodyReading} {line : Line} (h : r.step line = .ok r') :
    r.body.Evolves r'.body := by
  unfold step at h
  split at h
  · next opened lines _ =>
    rw [Except.ok.injEq] at h
    rw [← h, stepSwitch]
    split
    · exact r.body.push_evolves _
    · exact .refl _
  · exact stepStatement_evolves h
  · split at h
    · next ls _ =>
      cases hd : Body.declareAll ls r.body with
      | error why => simp [hd, Except.map] at h
      | ok b =>
        rw [hd, Except.map, Except.ok.injEq] at h
        exact h ▸ Body.declareAll_evolves hd
    · exact stepStatement_evolves h

end BodyReading

/-- **Lines that are taken** only add to the body. -/
theorem BodyReading.Takes.evolves {r r' : BodyReading} {lines : List Line}
    (h : r.Takes lines r') : r.body.Evolves r'.body := by
  induction h with
  | nil => exact .refl _
  | cons _ hstep _ ih => exact (step_evolves hstep).trans ih

/-- **Bodies that have been read are sound.** -/
theorem Body.TakenFrom.sound {lines : List Line} {m : MethodRef} {b : Body}
    (h : b.TakenFrom lines m) : b.Sound := by
  obtain ⟨taken, r, -, htakes, rfl⟩ := h
  exact htakes.evolves.sound (empty_sound m)

/-- **Bodies that the reader gives are sound.** -/
theorem Body.read_sound {method s : Text} {b : Body} (h : Body.read method s = .ok b) :
    b.Sound := by
  obtain ⟨m, -, htaken⟩ := takenFrom_of_read h
  exact htaken.sound

/-- **Bodies of classes that the reader gives are sound.** -/
theorem Class.read_sound {s : Text} {c : Class} (h : Class.read s = .ok c) {m : Method}
    (hm : m ∈ c.methods) {b : Body} (hb : m.body = some b) : b.Sound :=
  (takenFrom_of_read h hm hb).sound

end Weaver
