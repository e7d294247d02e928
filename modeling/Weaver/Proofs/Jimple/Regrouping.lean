import Mathlib.Data.List.Induction
import Mathlib.Data.Option.Basic
import Weaver.Jimple.Scene
import Weaver.Proofs.Jimple.RoundTrip.Class

/-!
# Regrouped Locals

The printer writes the locals of one type together, so that a body and what is read back from its
text differ in how the locals of different types are interleaved. Two bodies are **regrouped** here
if that is all that distinguishes them, apart from the handles of their statements: grouping their
locals by type gives the same groups.

What a body tells about its locals is then the same for both, with two kinds of questions kept
apart. Whether a name is declared, and as what, is answered by the locals in any order. The order
matters when all locals of one type are asked for, or the last of them; and for one type, the
order is that of its group.

## Main definitions

* `Body.Regrouped`, `Method.Regrouped`, `Class.Regrouped`, `Scene.Regrouped`.

## Main results

* `Body.map_name_filter`: the locals of one type are **a group**.
* `Body.Regrouped.local?_eq`, `Body.Regrouped.freshNumber_eq`: what is found and what is free.
* `Body.Regrouped.withLocals`: new locals keep bodies regrouped.
* `Class.Regrouped.text_eq`: regrouped classes are **printed alike**.
* `Class.regrouped_normalized`: a class and what is read back.
* `Scene.Regrouped.isSubclass_eq`, `Scene.Regrouped.body_cases`: what a scene tells.
-/

namespace Weaver

/-! ### The groups of locals -/

namespace Body

/-- The names in the group of a type. -/
def groupOf (ty : Ty) (gs : List (Ty × List Text)) : List Text :=
  (gs.find? fun g => g.1 = ty).elim [] Prod.snd

/-- A local joins the group of its type, and no other one. -/
theorem groupOf_addToGroups (ty : Ty) (l : Local) (gs : List (Ty × List Text)) :
    groupOf ty (addToGroups l gs) = groupOf ty gs ++ if l.ty = ty then [l.name] else [] := by
  induction gs with
  | nil =>
    by_cases hty : l.ty = ty <;> simp [groupOf, addToGroups, hty]
  | cons g gs ih =>
    obtain ⟨ty', names⟩ := g
    rw [addToGroups]
    by_cases hl : ty' = l.ty
    · rw [if_pos hl]
      by_cases hty : ty' = ty
      · simp [groupOf, hty, ← hl]
      · simp [groupOf, hty, ← hl]
    · rw [if_neg hl]
      by_cases hty : ty' = ty
      · have hne : ¬l.ty = ty := fun h => hl (hty.trans h.symm)
        simp [groupOf, hty, hne]
      · rw [groupOf, List.find?_cons_of_neg (by simpa using hty), ← groupOf, ih, groupOf, groupOf,
          List.find?_cons_of_neg (by simpa using hty)]

/-- The groups grow with each local. -/
theorem groups_concat (ls : List Local) (l : Local) :
    groups (ls ++ [l]) = addToGroups l (groups ls) := by
  rw [groups, List.foldl_append]
  rfl

/-- The locals of one type **are a group**, in the order of their declaration. -/
theorem map_name_filter (ls : List Local) (ty : Ty) :
    (ls.filter fun l => l.ty = ty).map Local.name = groupOf ty (groups ls) := by
  induction ls using List.reverseRecOn with
  | nil => rfl
  | append_singleton ls l ih =>
    rw [groups_concat, groupOf_addToGroups, List.filter_append, List.map_append, ih]
    by_cases hty : l.ty = ty <;> simp [hty]

/-- More locals behind grouped ones. -/
theorem groups_append_congr {ls ls' : List Local} (h : groups ls' = groups ls) (new : List Local) :
    groups (ls' ++ new) = groups (ls ++ new) := by
  rw [groups, List.foldl_append, groups, List.foldl_append]
  exact congrArg (new.foldl fun gs l => addToGroups l gs) h

/-! ### Regrouped bodies -/

/-- The body `b'` is `b` with its locals **regrouped**: they are interleaved differently, and each
type has the same ones in the same order. The handles of the statements do not matter. -/
structure Regrouped (b b' : Body) : Prop where
  method_eq : b'.method = b.method
  statements_eq : b'.statements = b.statements
  groups_eq : groups b'.locals = groups b.locals

/-- A body and what is read back from its text are regrouped. -/
theorem regrouped_normalized (b : Body) : b.Regrouped b.normalized where
  method_eq := rfl
  statements_eq := b.normalized_spec.2.2
  groups_eq := groups_declared_groups b.locals

namespace Regrouped

theorem refl (b : Body) : b.Regrouped b :=
  ⟨rfl, rfl, rfl⟩

variable {b b' : Body} (h : b.Regrouped b')
include h

/-- Regrouping rearranges the locals. -/
theorem perm : b'.locals.Perm b.locals :=
  (perm_declared_groups b'.locals).symm.trans (h.groups_eq ▸ perm_declared_groups b.locals)

/-- Regrouping keeps the names. -/
theorem mem_names_iff {name : Text} : name ∈ b'.names ↔ name ∈ b.names :=
  (h.perm.map Local.name).mem_iff

/-- Regrouping keeps what is declared. -/
theorem declares_eq (name : Text) : b'.declares name = b.declares name := by
  rw [Bool.eq_iff_iff, declares_iff, declares_iff]
  exact h.mem_names_iff

/-- The same names are free. -/
theorem freshNumber_eq (ty : Ty) : b'.freshNumber ty = b.freshNumber ty := by
  have htest : (fun n => !b'.declares (generatedName ty n)) =
      fun n => !b.declares (generatedName ty n) :=
    funext fun n => congrArg not (h.declares_eq _)
  rw [freshNumber, freshNumber, htest, h.perm.length_eq]

/-- Further locals keep the groups. -/
theorem withLocals (ls : List Local) : (b.withLocals ls).Regrouped (b'.withLocals ls) where
  method_eq := h.method_eq
  statements_eq := h.statements_eq
  groups_eq := groups_append_congr h.groups_eq ls

/-- A generated local is the same one, and it is declared in both. -/
theorem generateLocal (ty : Ty) : (b'.generateLocal ty).1 = (b.generateLocal ty).1 ∧
    (b.generateLocal ty).2.Regrouped (b'.generateLocal ty).2 := by
  have hlocal : (b'.generateLocal ty).1 = (b.generateLocal ty).1 := by
    simp only [Body.generateLocal, h.freshNumber_eq]
  refine ⟨hlocal, ?_⟩
  have hnew := h.withLocals [(b.generateLocal ty).1]
  have hsecond : (b'.generateLocal ty).2 = b'.withLocals [(b.generateLocal ty).1] := by
    rw [← hlocal]
    rfl
  rw [hsecond]
  exact hnew

/-- The last local of a class that was declared. -/
theorem last_eq (cls : Text) :
    (b'.locals.reverse.find? fun l => l.ty.isClass cls).map Local.name =
      (b.locals.reverse.find? fun l => l.ty.isClass cls).map Local.name := by
  have hlast : ∀ ls : List Local, (ls.reverse.find? fun l => l.ty.isClass cls).map Local.name =
      (groupOf (.class_ cls) (groups ls)).getLast? := by
    intro ls
    have htest : (fun l : Local => l.ty.isClass cls) = fun l => decide (l.ty = .class_ cls) :=
      funext fun l => by rw [Bool.eq_iff_iff, Ty.isClass_iff, decide_eq_true_iff]
    rw [htest, ← map_name_filter, ← List.head?_filter, List.filter_reverse, List.head?_reverse,
      List.getLast?_map]
  rw [hlast, hlast, h.groups_eq]

/-- All locals of a class, in order. -/
theorem names_of_class_eq (cls : Text) :
    (b'.locals.filter fun l => l.ty.isClass cls).map Local.name =
      (b.locals.filter fun l => l.ty.isClass cls).map Local.name := by
  have htest : (fun l : Local => l.ty.isClass cls) = fun l => decide (l.ty = .class_ cls) :=
    funext fun l => by rw [Bool.eq_iff_iff, Ty.isClass_iff, decide_eq_true_iff]
  rw [htest, map_name_filter, map_name_filter, h.groups_eq]

/-- Regrouping keeps whether there are statements. -/
theorem isEmpty_stmts_eq : b'.stmts.isEmpty = b.stmts.isEmpty := by
  have hlength := congrArg List.length h.statements_eq
  rw [statements, statements, List.length_map, List.length_map] at hlength
  rw [Bool.eq_iff_iff, List.isEmpty_iff_length_eq_zero, List.isEmpty_iff_length_eq_zero, hlength]

/-- Regrouped bodies are **printed alike**. -/
theorem text_eq : b'.text = b.text := by
  have hlocals : b'.locals.isEmpty = b.locals.isEmpty := by
    rw [Bool.eq_iff_iff, List.isEmpty_iff_length_eq_zero, List.isEmpty_iff_length_eq_zero,
      h.perm.length_eq]
  rw [text, text, hlocals, h.isEmpty_stmts_eq, h.groups_eq, h.statements_eq]

section

variable (hnd : b.names.Nodup)
include hnd

/-- Regrouping keeps names distinct. -/
theorem nodup_names : b'.names.Nodup :=
  (h.perm.map Local.name).nodup_iff.2 hnd

/-- What is found under a name, if names are distinct. -/
theorem local?_eq (name : Text) : b'.local? name = b.local? name := by
  by_cases hname : name ∈ b.names
  · obtain ⟨l, hl, rfl⟩ := List.mem_map.1 hname
    rw [local?_eq_some_of_mem hnd hl,
      local?_eq_some_of_mem (h.nodup_names hnd) (h.perm.mem_iff.2 hl)]
  · have hnone : ∀ {c : Body}, name ∉ c.names → c.local? name = none := by
      intro c hc
      have hfalse := declares_eq_false_iff.2 hc
      rwa [declares, Option.isSome_eq_false_iff, Option.isNone_iff_eq_none] at hfalse
    rw [hnone hname, hnone fun hmem => hname (h.mem_names_iff.1 hmem)]

/-- Regrouping keeps the types of values. -/
theorem ty?_eq (v : Value) : v.ty? b' = v.ty? b := by
  cases v with
  | var name => exact congrArg (Option.map Local.ty) (h.local?_eq hnd name)
  | _ => rfl

/-- Regrouping keeps the local of the receiver. -/
theorem thisLocal?_eq : b'.thisLocal? = b.thisLocal? := by
  rw [thisLocal?, thisLocal?, h.statements_eq]
  refine congrArg (List.findSome? · b.statements) (funext fun s => ?_)
  split
  · exact h.local?_eq hnd _
  · rfl

end

end Regrouped

/-- **Fresh locals are determined** by their types and the names that are taken. -/
theorem FreshInTurn.unique {b b' : Body} {ls ls' : List Local}
    (hnames : ∀ name, name ∈ b'.names ↔ name ∈ b.names) (h : b.FreshInTurn ls)
    (h' : b'.FreshInTurn ls') (htypes : ls'.map Local.ty = ls.map Local.ty) : ls' = ls := by
  induction ls generalizing b b' ls' with
  | nil => exact List.map_eq_nil_iff.1 htypes
  | cons l ls ih =>
    cases ls' with
    | nil => cases htypes
    | cons l' ls' =>
      obtain ⟨hty, htail⟩ := List.cons.inj htypes
      obtain ⟨⟨n, hname, hfree, hbefore⟩, hrest⟩ := h
      obtain ⟨⟨n', hname', hfree', hbefore'⟩, hrest'⟩ := h'
      rw [hname] at hfree
      rw [hname'] at hfree'
      simp only [hty, hnames] at hname' hfree' hbefore'
      -- The least free number is the same for both.
      have hn : n' = n := by
        obtain hlt | heq | hlt := Nat.lt_trichotomy n n'
        · exact absurd (hbefore' n hlt) hfree
        · exact heq.symm
        · exact absurd (hbefore n' hlt) hfree'
      obtain rfl : l' = l := by
        obtain ⟨name, ty⟩ := l
        obtain ⟨name', ty'⟩ := l'
        dsimp only at hname hname' hty
        rw [hname, hname', hn, hty]
      refine congrArg (l' :: ·) (ih (fun name => ?_) hrest hrest' htail)
      rw [names_withLocals, names_withLocals, List.mem_append, List.mem_append, hnames]

end Body

/-! ### Regrouped classes -/

/-- The method `m'` is `m` with the locals of its body regrouped. -/
structure Method.Regrouped (m m' : Method) : Prop where
  sig_eq : m'.sig = m.sig
  modifiers_eq : m'.modifiers = m.modifiers
  throws_eq : m'.throws = m.throws
  body : Option.Rel Body.Regrouped m.body m'.body

/-- The class `c'` is `c` with the locals of its methods regrouped. -/
structure Class.Regrouped (c c' : Class) : Prop where
  eq : c' = { c with methods := c'.methods }
  methods : List.Forall₂ Method.Regrouped c.methods c'.methods

theorem Method.Regrouped.refl (m : Method) : m.Regrouped m where
  sig_eq := rfl
  modifiers_eq := rfl
  throws_eq := rfl
  body := by
    cases m.body with
    | none => exact .none
    | some b => exact .some (.refl b)

/-- A method is regrouped by reading it. -/
theorem Method.regrouped_normalized (m : Method) : m.Regrouped m.normalized where
  sig_eq := rfl
  modifiers_eq := rfl
  throws_eq := rfl
  body := by
    rw [normalized]
    cases m.body with
    | none => exact .none
    | some b => exact .some b.regrouped_normalized

/-- Regrouping does not show in the text of a method. -/
theorem Method.Regrouped.text_eq {m m' : Method} (h : m.Regrouped m') : m'.text = m.text := by
  have hheader : m'.header = m.header := by
    rw [header, header, h.sig_eq, h.modifiers_eq, h.throws_eq]
  have hbody := h.body
  rw [text, text, hheader]
  generalize m.body = body at hbody
  generalize m'.body = body' at hbody
  cases hbody with
  | none => rfl
  | some hb => simp only [hb.text_eq]

namespace Class

theorem Regrouped.refl (c : Class) : c.Regrouped c :=
  ⟨rfl, List.forall₂_same.2 fun m _ => .refl m⟩

/-- **A class and what is read back** from its text are regrouped. -/
theorem regrouped_normalized (c : Class) : c.Regrouped c.normalized where
  eq := rfl
  methods := by
    rw [normalized, List.forall₂_map_right_iff, List.forall₂_same]
    exact fun m _ => m.regrouped_normalized

end Class

/-- What a search finds in two lists that are related one by one. -/
theorem find?_rel {α β : Type} {R : α → β → Prop} {p : α → Bool} {q : β → Bool} {xs : List α}
    {ys : List β} (h : List.Forall₂ R xs ys) (hpq : ∀ x y, R x y → q y = p x) :
    Option.Rel R (xs.find? p) (ys.find? q) := by
  induction h with
  | nil => exact .none
  | @cons x y xs ys hxy _ ih =>
    rw [List.find?_cons, List.find?_cons, hpq x y hxy]
    cases p x with
    | true => exact .some hxy
    | false => exact ih

/-- A test that related values pass alike. -/
theorem isSome_of_rel {α β : Type} {R : α → β → Prop} {x : Option α} {y : Option β}
    (h : Option.Rel R x y) : y.isSome = x.isSome := by
  cases h <;> rfl

namespace Class.Regrouped

variable {c c' : Class} (h : c.Regrouped c')
include h

/-- Regrouping keeps the name of a class. -/
theorem name_eq : c'.name = c.name :=
  (congrArg Class.name h.eq).trans rfl

/-- Regrouping keeps whether a class is abstract. -/
theorem isAbstract_eq : c'.isAbstract = c.isAbstract :=
  (congrArg Class.isAbstract h.eq).trans rfl

/-- Regrouping keeps the direct ancestors. -/
theorem parents_eq : Scene.parents c' = Scene.parents c :=
  (congrArg Scene.parents h.eq).trans rfl

/-- A method of a signature is found on both sides, or on neither. -/
theorem method? (sig : Signature) :
    Option.Rel Method.Regrouped (c.method? sig) (c'.method? sig) :=
  find?_rel h.methods fun m m' hm => by rw [hm.sig_eq]

/-- Regrouping keeps what a class declares. -/
theorem declares_eq (sig : Signature) : c'.declares sig = c.declares sig :=
  isSome_of_rel (h.method? sig)

/-- Regrouped classes are **printed alike**. -/
theorem text_eq : c'.text = c.text := by
  have hheader : c'.header = c.header := (congrArg Class.header h.eq).trans rfl
  have hfields : c'.fields = c.fields := (congrArg Class.fields h.eq).trans rfl
  have htexts : c'.methods.map Method.text = c.methods.map Method.text := by
    have hmethods := h.methods
    generalize c.methods = ms at hmethods
    generalize c'.methods = ms' at hmethods
    induction hmethods with
    | nil => rfl
    | cons hm _ ih => rw [List.map_cons, List.map_cons, hm.text_eq, ih]
  have hempty : c'.methods.isEmpty = c.methods.isEmpty := by
    rw [← List.isEmpty_map (f := Method.text), htexts, List.isEmpty_map]
  rw [text, text, hheader, hfields, hempty, methodsText, methodsText, htexts]

/-- Bodies that are regrouped keep classes regrouped. -/
theorem updateBody (m : MethodRef) {b b' : Body} (hb : b.Regrouped b') :
    (Scene.updateBody m b c).Regrouped (Scene.updateBody m b' c') := by
  have hset : ∀ {ms ms' : List Method}, List.Forall₂ Method.Regrouped ms ms' →
      List.Forall₂ Method.Regrouped (Class.setBody m.sig b ms) (Class.setBody m.sig b' ms') := by
    intro ms ms' hms
    induction hms with
    | nil => exact .nil
    | @cons x x' xs xs' hx hxs ih =>
      rw [Class.setBody, Class.setBody, hx.sig_eq]
      split
      · exact .cons ⟨rfl, hx.modifiers_eq, hx.throws_eq, .some hb⟩ hxs
      · exact .cons hx ih
  rw [Scene.updateBody, Scene.updateBody, h.name_eq]
  split
  · refine ⟨?_, hset h.methods⟩
    dsimp only
    rw [h.eq]
  · exact h

end Class.Regrouped

/-! ### Regrouped scenes -/

/-- The classes of the scene `s'` are those of `s` with their locals regrouped. -/
structure Scene.Regrouped (s s' : Scene) : Prop where
  classes : List.Forall₂ Class.Regrouped s.classes s'.classes

namespace Scene

theorem Regrouped.refl (s : Scene) : s.Regrouped s :=
  ⟨List.forall₂_same.2 fun c _ => .refl c⟩

/-- A class that takes the place of one that it regroups. -/
theorem regrouped_add {s : Scene} {c c' : Class} (hc : c ∈ s.classes) (h : c.Regrouped c') :
    s.Regrouped (s.add c') := by
  have hordered : Increasing compareClasses s.classes := List.pairwise_map.1 s.ordered
  suffices hall : ∀ cs : List Class, Increasing compareClasses cs → c ∈ cs →
      List.Forall₂ Class.Regrouped cs (insertSorted compareClasses c' cs) from
    ⟨hall s.classes hordered hc⟩
  have hsame : ∀ k : Class, compareClasses c' k = compareClasses c k := by
    intro k
    rw [compareClasses, compareClasses, h.name_eq]
  intro cs hcs hmem
  induction cs with
  | nil => cases hmem
  | cons k cs ih =>
    obtain ⟨hk, hcs⟩ := List.pairwise_cons.1 hcs
    rw [insertSorted, hsame]
    obtain rfl | hmem := List.mem_cons.1 hmem
    · have hself : compareClasses c c = .eq :=
        @Std.ReflCmp.compare_self ClassName ClassName.compare _ _
      rw [hself]
      exact .cons h (List.forall₂_same.2 fun c _ => .refl c)
    · have hgt : compareClasses c k = .gt :=
        @Std.OrientedCmp.gt_of_lt ClassName ClassName.compare _ _ _ (hk c hmem)
      rw [hgt]
      exact .cons (.refl k) (ih hcs hmem)

namespace Regrouped

variable {s s' : Scene} (h : s.Regrouped s')
include h

/-- A class of a name is found on both sides, or on neither. -/
theorem class? (name : ClassName) :
    Option.Rel Class.Regrouped (s.class? name) (s'.class? name) :=
  find?_rel h.classes fun c c' hc => by rw [hc.name_eq]

/-- A method is found on both sides, or on neither. -/
theorem method? (m : MethodRef) :
    Option.Rel Method.Regrouped (s.method? m) (s'.method? m) := by
  rw [Scene.method?, Scene.method?]
  have hclass := h.class? m.cls
  generalize s.class? m.cls = c at hclass
  generalize s'.class? m.cls = c' at hclass
  cases hclass with
  | none => exact .none
  | some hc => exact hc.method? m.sig

/-- **A body and its counterpart**, or the same fault. -/
theorem body_cases (m : MethodRef) :
    (∃ fault, s.body m = .error fault ∧ s'.body m = .error fault) ∨
      ∃ b b', s.body m = .ok b ∧ s'.body m = .ok b' ∧ b.Regrouped b' := by
  rw [Scene.body, Scene.body]
  have hmethod := h.method? m
  generalize s.method? m = x at hmethod
  generalize s'.method? m = x' at hmethod
  cases hmethod with
  | none => exact .inl ⟨_, rfl, rfl⟩
  | @some y y' hy =>
    have hbody := hy.body
    dsimp only
    generalize y.body = z at hbody
    generalize y'.body = z' at hbody
    cases hbody with
    | none => exact .inl ⟨_, rfl, rfl⟩
    | some hb => exact .inr ⟨_, _, rfl, rfl, hb⟩

/-- Regrouping keeps what the search up the hierarchy finds. -/
theorem reaches_eq (goal : ClassName) (fuel : Nat) (seen pending : List ClassName) :
    s'.reaches goal fuel seen pending = s.reaches goal fuel seen pending := by
  induction fuel generalizing seen pending with
  | zero => rfl
  | succ fuel ih =>
    cases pending with
    | nil => rfl
    | cons name pending =>
      rw [reaches, reaches, ih]
      have hclass := h.class? name
      generalize s.class? name = c at hclass
      generalize s'.class? name = c' at hclass
      cases hclass with
      | none => rw [ih]
      | some hc => simp only [ih, hc.parents_eq]

/-- **The hierarchy** is the same. -/
theorem isSubclass_eq (child parent : ClassName) :
    s'.isSubclass child parent = s.isSubclass child parent := by
  have hparents : s'.classes.flatMap parents = s.classes.flatMap parents := by
    have hclasses := h.classes
    generalize s.classes = cs at hclasses
    generalize s'.classes = cs' at hclasses
    induction hclasses with
    | nil => rfl
    | cons hc _ ih => rw [List.flatMap_cons, List.flatMap_cons, hc.parents_eq, ih]
  rw [isSubclass, isSubclass, searchBound, searchBound, hparents, h.reaches_eq]

/-- Bodies that are regrouped keep scenes regrouped. -/
theorem setBody (m : MethodRef) {b b' : Body} (hb : b.Regrouped b') :
    (s.setBody m b).Regrouped (s'.setBody m b') := by
  refine ⟨?_⟩
  rw [Scene.setBody, Scene.setBody, List.forall₂_map_left_iff, List.forall₂_map_right_iff]
  exact h.classes.imp fun c c' hc => hc.updateBody m hb

end Regrouped

end Scene

end Weaver
