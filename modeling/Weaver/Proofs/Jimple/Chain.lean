import Mathlib.Data.List.Nodup
import Weaver.Jimple.Scene

/-!
# Insertions into the Chain, and Their Frame

What an insertion does to the chain of a body, and what putting a body under a method does
to a scene, both said without the functions that do it: the chain is cut at a statement,
the classes of a scene are cut at a class, and everything but the cut is as before.

## Main results

* `Body.exists_split_of_terminalReturn?`: the last return without a value cuts the chain.
* `Body.insertBefore_of_split`, `Body.insertAfter_of_split`, `Body.insertBefore_eq_ok`:
  **insertion at a cut**.
* `Body.remove?_of_split`, `Body.get?_of_split`, `Body.set_of_split`: removal, lookup and exchange
  at a cut.
* `Body.Halfway.advance`: **one step of a run through the chain**.
* `Body.eq_ret_of_terminalReturn?`: the cut at the last return is unique.
* `Scene.setBody_differsInBody`: **the frame** of `Scene.setBody`.
* `Scene.rewriteBody_cases`: a body is changed, or nothing is.
-/

namespace Weaver

namespace Body

/-! ### Blocks of new statements -/

/-- Each statement of a block gets one handle. -/
@[simp] theorem length_numbered (start : Nat) (ss : List Stmt) :
    (numbered start ss).length = ss.length := by
  induction ss generalizing start with
  | nil => rfl
  | cons s ss ih => simp [numbered, ih]

/-- Numbering leaves the statements as they are. -/
@[simp] theorem map_snd_numbered (start : Nat) (ss : List Stmt) :
    (numbered start ss).map Prod.snd = ss := by
  induction ss generalizing start with
  | nil => rfl
  | cons s ss ih => simp [numbered, ih]

/-! ### The chain cut at a statement -/

/-- The position of a handle that occurs behind a cut and not before it. -/
theorem position?_of_split {b : Body} {pre post : List (StmtId × Stmt)} {id : StmtId} {s : Stmt}
    (hb : b.stmts = pre ++ (id, s) :: post) (hpre : id ∉ pre.map Prod.fst) :
    b.position? id = some pre.length := by
  have hnone : pre.findIdx? (fun e => e.1 == id) = none := by
    rw [List.findIdx?_eq_none_iff]
    intro e he
    have hne : e.1 ≠ id := fun h => hpre (h ▸ List.mem_map_of_mem he)
    simpa using hne
  rw [position?, hb, List.findIdx?_append, hnone, List.findIdx?_cons]
  simp

/-- A handle with a position cuts the chain at its first occurrence. -/
theorem exists_split_of_position? {b : Body} {id : StmtId} {i : Nat}
    (h : b.position? id = some i) :
    ∃ pre s post, b.stmts = pre ++ (id, s) :: post ∧ id ∉ pre.map Prod.fst ∧ pre.length = i := by
  rw [position?, List.findIdx?_eq_some_iff_getElem] at h
  obtain ⟨hi, hid, hlt⟩ := h
  have hfst : (b.stmts[i]).1 = id := by simpa using hid
  refine ⟨b.stmts.take i, (b.stmts[i]).2, b.stmts.drop (i + 1), ?_, ?_, ?_⟩
  · subst hfst
    exact (List.take_append_drop i b.stmts).symm.trans
      (congrArg _ (List.drop_eq_getElem_cons hi))
  · intro hmem
    obtain ⟨e, he, heq⟩ := List.mem_map.1 hmem
    obtain ⟨j, hj, rfl⟩ := List.mem_iff_getElem.1 he
    rw [List.length_take] at hj
    have := hlt j (by omega)
    rw [List.getElem_take] at heq
    simp [heq] at this
  · rw [List.length_take]
    omega

/-- **Insertion at a cut.** New statements go, under consecutive handles, in front of the
first statement with the handle of the anchor. -/
theorem insertBefore_of_split {b : Body} {pre post : List (StmtId × Stmt)} {id : StmtId}
    {s : Stmt} (hb : b.stmts = pre ++ (id, s) :: post) (hpre : id ∉ pre.map Prod.fst)
    (new : List Stmt) :
    b.insertBefore id new = .ok ((numbered b.nextId new).map Prod.fst,
      { b with stmts := pre ++ numbered b.nextId new ++ (id, s) :: post
               nextId := b.nextId + new.length }) := by
  rw [insertBefore, position?_of_split hb hpre]
  simp [insertAt, hb]

/-- The same behind the first statement with the handle of the anchor. -/
theorem insertAfter_of_split {b : Body} {pre post : List (StmtId × Stmt)} {id : StmtId}
    {s : Stmt} (hb : b.stmts = pre ++ (id, s) :: post) (hpre : id ∉ pre.map Prod.fst)
    (new : List Stmt) :
    b.insertAfter id new = .ok ((numbered b.nextId new).map Prod.fst,
      { b with stmts := pre ++ (id, s) :: (numbered b.nextId new ++ post)
               nextId := b.nextId + new.length }) := by
  rw [insertAfter, position?_of_split hb hpre]
  have hcut : pre ++ (id, s) :: post = (pre ++ [(id, s)]) ++ post := by simp
  have hlength : pre.length + 1 = (pre ++ [(id, s)]).length := by simp
  simp only [insertAt, hb, hcut, hlength, List.take_left', List.drop_left']
  simp

/-- **Removal at a cut.** -/
theorem remove?_of_split {b : Body} {pre post : List (StmtId × Stmt)} {id : StmtId} {s : Stmt}
    (hb : b.stmts = pre ++ (id, s) :: post) (hpre : id ∉ pre.map Prod.fst) :
    b.remove? id = some (s, { b with stmts := pre ++ post }) := by
  rw [remove?, position?_of_split hb hpre]
  simp [hb, List.eraseIdx_append_of_length_le]

/-- The statement that is found under a handle at its first occurrence. -/
theorem get?_of_split {b : Body} {pre post : List (StmtId × Stmt)} {id : StmtId} {s : Stmt}
    (hb : b.stmts = pre ++ (id, s) :: post) (hpre : id ∉ pre.map Prod.fst) :
    b.get? id = some s := by
  have hnone : pre.find? (fun e => e.1 == id) = none := by
    rw [List.find?_eq_none]
    intro e he heq
    exact hpre (eq_of_beq heq ▸ List.mem_map_of_mem he)
  simp only [get?, hb, List.find?_append, hnone, Option.none_or, List.find?_cons, beq_self_eq_true,
    Option.map_some]

/-- A statement that is found under a handle cuts the chain. -/
theorem exists_split_of_get? {b : Body} {id : StmtId} {s : Stmt} (h : b.get? id = some s) :
    ∃ pre post, b.stmts = pre ++ (id, s) :: post ∧ id ∉ pre.map Prod.fst := by
  obtain ⟨⟨i, s'⟩, hfind, rfl⟩ := Option.map_eq_some_iff.1 h
  obtain ⟨hid, pre, post, hb, hpre⟩ := List.find?_eq_some_iff_append.1 hfind
  obtain rfl : i = id := by simpa using hid
  refine ⟨pre, post, hb, fun hmem => ?_⟩
  obtain ⟨e, he, rfl⟩ := List.mem_map.1 hmem
  simpa using hpre e he

/-- Another statement goes to the cut. -/
theorem set_of_split {b : Body} {pre post : List (StmtId × Stmt)} {id : StmtId} {s : Stmt}
    (hb : b.stmts = pre ++ (id, s) :: post) (hpre : id ∉ pre.map Prod.fst) (new : Stmt) :
    b.set id new = { b with stmts := pre ++ (id, new) :: post } := by
  have hset : ∀ pre : List (StmtId × Stmt), id ∉ pre.map Prod.fst →
      setStmt id new (pre ++ (id, s) :: post) = pre ++ (id, new) :: post := by
    intro pre hpre
    induction pre with
    | nil => rw [List.nil_append, setStmt, if_pos rfl, List.nil_append]
    | cons e pre ih =>
      rw [List.map_cons, List.mem_cons, not_or] at hpre
      rw [List.cons_append, setStmt, if_neg (Ne.symm hpre.1), ih hpre.2, List.cons_append]
  rw [set, hb, hset pre hpre]

/-- Every insertion that succeeds is an insertion at a cut. -/
theorem insertBefore_eq_ok {b b' : Body} {id : StmtId} {new : List Stmt} {ids : List StmtId}
    (h : b.insertBefore id new = .ok (ids, b')) :
    ∃ pre s post, b.stmts = pre ++ (id, s) :: post ∧ id ∉ pre.map Prod.fst ∧
      ids = (numbered b.nextId new).map Prod.fst ∧
      b' = { b with stmts := pre ++ numbered b.nextId new ++ (id, s) :: post
                    nextId := b.nextId + new.length } := by
  cases hp : b.position? id with
  | none => simp [insertBefore, hp] at h
  | some i =>
    obtain ⟨pre, s, post, hb, hpre, -⟩ := exists_split_of_position? hp
    rw [insertBefore_of_split hb hpre, Except.ok.injEq, Prod.mk.injEq] at h
    exact ⟨pre, s, post, hb, hpre, h.1.symm, h.2.symm⟩

/-- **The last return without a value** cuts the chain: it is such a return, and none
follows. -/
theorem exists_split_of_terminalReturn? {b : Body} {id : StmtId} (h : b.terminalReturn? = some id) :
    ∃ pre post, b.stmts = pre ++ (id, .ret none) :: post ∧
      ∀ e ∈ post, e.2.isVoidReturn = false := by
  rw [terminalReturn?, voidReturns, List.getLast?_map, Option.map_eq_some_iff] at h
  obtain ⟨⟨i, s⟩, hlast, rfl⟩ := h
  obtain ⟨ys, hys⟩ := List.getLast?_eq_some_iff.1 hlast
  obtain ⟨l₁, l₂, hb, -, h₂⟩ := List.filter_eq_append_iff.1 hys
  obtain ⟨as, bs, rfl, -, hs, hbs⟩ := List.filter_eq_cons_iff.1 h₂
  have hret : s = .ret none := by
    cases s with
    | ret v => cases v with
      | none => rfl
      | some v => simp [Stmt.isVoidReturn] at hs
    | _ => simp [Stmt.isVoidReturn] at hs
  subst hret
  refine ⟨l₁ ++ as, bs, by simp [hb], fun e he => ?_⟩
  simpa using List.filter_eq_nil_iff.1 hbs e he

/-- With distinct handles, the handles in front of a cut are others than the one behind it. -/
theorem not_mem_of_nodup_split {b : Body} {pre post : List (StmtId × Stmt)} {id : StmtId}
    {s : Stmt} (hnd : b.ids.Nodup) (hb : b.stmts = pre ++ (id, s) :: post) :
    id ∉ pre.map Prod.fst := by
  rw [ids, hb, List.map_append, List.map_cons, List.nodup_append] at hnd
  intro hmem
  exact hnd.2.2 id hmem id List.mem_cons_self rfl

/-- **The chain is worked through from the front.** The part `done` may have changed, and `rest` is
still to come: its handles are distinct, have been issued, and do not occur in front of it, so that
a handle of the rest finds its statement. -/
structure Halfway (b : Body) (done rest : List (StmtId × Stmt)) : Prop where
  stmts_eq : b.stmts = done ++ rest
  nodup : (rest.map Prod.fst).Nodup
  apart : ∀ id ∈ rest.map Prod.fst, id ∉ done.map Prod.fst
  issued : ∀ id ∈ rest.map Prod.fst, id.index < b.nextId

/-- At the beginning nothing is done and everything is left. -/
theorem Halfway.start {b : Body} (hnd : b.ids.Nodup) (hlt : ∀ id ∈ b.ids, id.index < b.nextId) :
    b.Halfway [] b.stmts :=
  ⟨rfl, hnd, fun _ _ => List.not_mem_nil, hlt⟩

/-- The next statement is **done**: in its place stands a block whose handles are its own or new. -/
theorem Halfway.advance {b b' : Body} {done rest block : List (StmtId × Stmt)} {e : StmtId × Stmt}
    (h : b.Halfway done (e :: rest))
    (hblock : ∀ id ∈ block.map Prod.fst, id = e.1 ∨ b.nextId ≤ id.index)
    (hstmts : b'.stmts = done ++ block ++ rest) (hnext : b.nextId ≤ b'.nextId) :
    b'.Halfway (done ++ block) rest := by
  obtain ⟨-, hnd, hapart, hissued⟩ := h
  rw [List.map_cons, List.nodup_cons] at hnd
  rw [List.map_cons, List.forall_mem_cons] at hapart hissued
  refine ⟨hstmts, hnd.2, fun id hid hmem => ?_, fun id hid => ?_⟩
  · rw [List.map_append, List.mem_append] at hmem
    obtain hmem | hmem := hmem
    · exact hapart.2 id hid hmem
    · obtain rfl | hnew := hblock id hmem
      · exact hnd.1 hid
      · exact Nat.not_lt_of_le hnew (hissued.2 id hid)
  · exact Nat.lt_of_lt_of_le (hissued.2 id hid) hnext

/-- The next statement stays as it is. -/
theorem Halfway.keep {b : Body} {done rest : List (StmtId × Stmt)} {e : StmtId × Stmt}
    (h : b.Halfway done (e :: rest)) : b.Halfway (done ++ [e]) rest := by
  refine h.advance (fun id hid => .inl ?_) ?_ (Nat.le_refl _)
  · rwa [List.map_singleton, List.mem_singleton] at hid
  · rw [h.stmts_eq, List.append_assoc, List.singleton_append]

/-- With distinct handles, **the cut at the last return without a value** is this return, and
none follows. -/
theorem eq_ret_of_terminalReturn? {b : Body} {pre post : List (StmtId × Stmt)} {id : StmtId}
    {s : Stmt} (hnd : b.ids.Nodup) (hret : b.terminalReturn? = some id)
    (hb : b.stmts = pre ++ (id, s) :: post) :
    s = .ret none ∧ ∀ e ∈ post, e.2.isVoidReturn = false := by
  obtain ⟨pre', post', hb', hpost'⟩ := exists_split_of_terminalReturn? hret
  have hpos := position?_of_split hb (not_mem_of_nodup_split hnd hb)
  rw [position?_of_split hb' (not_mem_of_nodup_split hnd hb'), Option.some.injEq] at hpos
  obtain ⟨-, hcut⟩ := List.append_inj (hb'.symm.trans hb) hpos
  obtain ⟨⟨-, rfl⟩, rfl⟩ : (id = id ∧ Stmt.ret none = s) ∧ post' = post := by simpa using hcut
  exact ⟨rfl, hpost'⟩

end Body

/-! ### A scene with another body -/

namespace Class

/-- Putting a body under a signature cuts the methods at the first one of the signature. -/
theorem exists_split_setBody {sig : Signature} {ms : List Method} {m : Method}
    (h : ms.find? (fun m => m.sig == sig) = some m) (body : Body) :
    ∃ pre post, ms = pre ++ m :: post ∧ m.sig = sig ∧ (∀ m' ∈ pre, m'.sig ≠ sig) ∧
      setBody sig body ms = pre ++ { m with body := some body } :: post := by
  induction ms with
  | nil => simp at h
  | cons m' ms ih =>
    by_cases hm : m'.sig = sig
    · rw [List.find?_cons_of_pos (by simpa using hm), Option.some.injEq] at h
      subst h
      exact ⟨[], ms, rfl, hm, by simp, by simp [setBody, hm]⟩
    · rw [List.find?_cons_of_neg (by simpa using hm)] at h
      obtain ⟨pre, post, rfl, hsig, hpre, hset⟩ := ih h
      refine ⟨m' :: pre, post, rfl, hsig, ?_, by simp [setBody, hm, hset]⟩
      simpa [hm] using hpre

end Class

namespace Scene

/-- The scene `s'` is `s` with the body `new` in the place of `old` under the method `m`:
one method of one class has another body, and **nothing else is different**. -/
def DiffersInBody (s s' : Scene) (m : MethodRef) (old new : Body) : Prop :=
  s'.entryPoints = s.entryPoints ∧
  ∃ before after c pre post method,
    s.classes = before ++ c :: after ∧ c.name = m.cls ∧
    c.methods = pre ++ method :: post ∧ method.sig = m.sig ∧ (∀ m' ∈ pre, m'.sig ≠ m.sig) ∧
    method.body = some old ∧
    s'.classes =
      before ++ { c with methods := pre ++ { method with body := some new } :: post } :: after

/-- Two classes of a scene have different names. -/
theorem nodup_names (s : Scene) : (s.classes.map Class.name).Nodup :=
  s.ordered.imp fun hlt heq => by
    rw [heq, @Std.ReflCmp.compare_self ClassName ClassName.compare _ _] at hlt
    cases hlt

/-- A class that is found has the name that it was looked for under. -/
theorem name_of_class? {s : Scene} {name : ClassName} {c : Class} (h : s.class? name = some c) :
    c.name = name := by
  simpa using List.find?_some h

/-- A class that is found cuts the classes of the scene, and it alone has its name. -/
theorem exists_split_of_class? {s : Scene} {name : ClassName} {c : Class}
    (h : s.class? name = some c) :
    ∃ before after, s.classes = before ++ c :: after ∧ c.name = name ∧
      ∀ c' ∈ before ++ after, c'.name ≠ name := by
  obtain ⟨-, before, after, hs, -⟩ := List.find?_eq_some_iff_append.1 h
  have hc : c.name = name := name_of_class? h
  refine ⟨before, after, hs, hc, fun c' hc' heq => ?_⟩
  have hnd := s.nodup_names
  rw [hs, List.map_append, List.map_cons, List.nodup_middle, List.nodup_cons] at hnd
  refine hnd.1 ?_
  rw [← List.map_append, hc, ← heq]
  exact List.mem_map_of_mem hc'

/-- **The frame** of putting a body under a method that has one. -/
theorem setBody_differsInBody {s : Scene} {m : MethodRef} {old : Body} (h : s.body m = .ok old)
    (new : Body) : s.DiffersInBody (s.setBody m new) m old new := by
  cases hm : s.method? m with
  | none => simp [body, hm] at h
  | some method =>
    have hold : method.body = some old := by
      cases hb : method.body with
      | none => simp [body, hm, hb] at h
      | some b => simpa [body, hm, hb] using h
    obtain ⟨c, hclass, hmethod⟩ := Option.bind_eq_some_iff.1 hm
    obtain ⟨before, after, hs, hc, hother⟩ := exists_split_of_class? hclass
    obtain ⟨pre, post, hms, hsig, hpre, hset⟩ := Class.exists_split_setBody hmethod new
    have hkeep : ∀ cs : List Class, (∀ c' ∈ cs, c'.name ≠ m.cls) →
        cs.map (updateBody m new) = cs := by
      intro cs hcs
      refine (List.map_congr_left fun c' hc' => ?_).trans (List.map_id cs)
      rw [updateBody, if_neg (hcs c' hc')]
      rfl
    refine ⟨rfl, before, after, c, pre, post, method, hs, hc, hms, hsig, hpre, hold, ?_⟩
    have hbefore := hkeep before fun c' hc' => hother c' (List.mem_append_left _ hc')
    have hafter := hkeep after fun c' hc' => hother c' (List.mem_append_right _ hc')
    change s.classes.map (updateBody m new) = _
    rw [hs, List.map_append, List.map_cons, hbefore, hafter, updateBody, if_pos hc, hset]

/-- The other body is the one that is found afterwards. -/
theorem DiffersInBody.body_eq {s s' : Scene} {m : MethodRef} {old new : Body}
    (h : s.DiffersInBody s' m old new) : s'.body m = .ok new := by
  obtain ⟨-, before, after, c, pre, post, method, hs, hc, -, hsig, hpre, -, hs'⟩ := h
  have hbefore : before.find? (fun c => c.name == m.cls) = none := by
    rw [List.find?_eq_none]
    intro c' hc' heq
    have hlt := s'.ordered
    rw [hs', List.map_append, Increasing, List.pairwise_append] at hlt
    have := hlt.2.2 c'.name (List.mem_map_of_mem hc') c.name List.mem_cons_self
    rw [hc, eq_of_beq heq, @Std.ReflCmp.compare_self ClassName ClassName.compare _ _] at this
    cases this
  have hmethods : pre.find? (fun m' => m'.sig == m.sig) = none := by
    rw [List.find?_eq_none]
    intro m' hm' heq
    exact hpre m' hm' (eq_of_beq heq)
  simp [body, method?, class?, Class.method?, hs', List.find?_append, hbefore, hmethods, hc, hsig]

/-- A property of all bodies that the methods of a scene have. -/
def EveryBody (s : Scene) (p : Body → Prop) : Prop :=
  ∀ c ∈ s.classes, ∀ m ∈ c.methods, ∀ b, m.body = some b → p b

/-- What holds of every body holds of the body of a method. -/
theorem EveryBody.of_body {s : Scene} {p : Body → Prop} (h : s.EveryBody p) {m : MethodRef}
    {b : Body} (hb : s.body m = .ok b) : p b := by
  obtain ⟨-, before, after, c, pre, post, method, hs, -, hms, -, -, hbody, -⟩ :=
    setBody_differsInBody hb b
  refine h c ?_ method ?_ b hbody
  · rw [hs]
    exact List.mem_append_right _ List.mem_cons_self
  · rw [hms]
    exact List.mem_append_right _ List.mem_cons_self

/-- **All that changing a body can do**: it fails and leaves the scene as it is, or it puts
the changed copy under the method. -/
theorem rewriteBody_cases {α ε : Type} (s : Scene) (m : MethodRef) (liftFault : Fault → ε)
    (change : Body → Scene → Except ε α × Body) :
    (∃ e, s.rewriteBody m liftFault change = (.error e, s)) ∨
    ∃ b b' result, s.body m = .ok b ∧ change b s = (.ok result, b') ∧
      s.rewriteBody m liftFault change = (.ok result, s.setBody m b') := by
  cases hb : s.body m with
  | error fault => exact .inl ⟨liftFault fault, by rw [rewriteBody, hb]⟩
  | ok b =>
    cases hc : change b s with
    | mk outcome b' =>
      cases outcome with
      | error e => exact .inl ⟨e, by simp only [rewriteBody, hb, hc]⟩
      | ok result => exact .inr ⟨b, b', result, rfl, hc, by simp only [rewriteBody, hb, hc]⟩

end Scene

end Weaver
