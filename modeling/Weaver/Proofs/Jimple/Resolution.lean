import Mathlib.Data.List.Induction
import Weaver.Proofs.Jimple.Hierarchy

/-!
# Resolution of Calls along Superclasses

A call names a class, and the method that it finds is declared by this class or by the nearest of
its superclasses. The superclasses of a class may run in a cycle or leave the scene.

## Convention

The **chain** of a name is the unbounded sequence of classes that starts at the name and goes on
along superclasses. It ends where a class has no superclass or the scene does not have it, and it
never ends on a cycle. `Scene.ancestry` lists it up to the first class that it meets again, and
nothing is missing: what comes later on the chain was met before.

## Main definitions

* `Scene.chain`: the chain, without any memory of what was met.
* `Scene.Nearest`: the first class of the chain that declares a signature.
* `Enumerates`: a list of values in the order of their first places.
* `Scene.CallsAt`, `Scene.IsCallees`: the methods that the statements of a body call, and the list
  of them in the order of their first calls.

## Main results

* `Scene.ancestryFrom_eq_of_le`: **the walk along superclasses ends by itself**.
* `Scene.chain_of_getElem?_ancestry`, `Scene.mem_ancestry_of_chain`: it lists the chain.
* `Scene.resolve?_eq_some_iff`, `Scene.resolve?_eq_none_iff`: **the nearest declaration is found**.
* `Enumerates.unique`, `Enumerates.foldl_addNew`: there is one such list, and adding what is new
  builds it.
* `Scene.calleesOf_eq_ok_iff`: **the callees of a method**.
-/

namespace Weaver

namespace Scene

variable {s : Scene}

/-! ### The chain of superclasses -/

/-- The superclass that the class of a name has. -/
def superclassOf (s : Scene) (name : ClassName) : Option ClassName :=
  (s.class? name).bind Class.superclass

/-- **The chain of superclasses**: the class `n` steps above the class of a name. -/
def chain (s : Scene) : ClassName → Nat → Option Class
  | name, 0 => s.class? name
  | name, n + 1 => (s.superclassOf name).bind fun up => chain s up n

/-- The superclass of a name is that of its class. -/
theorem superclassOf_of_class? {name : ClassName} {c : Class} (hc : s.class? name = some c) :
    s.superclassOf name = c.superclass := by
  rw [superclassOf, hc, Option.bind_some]

/-- The chain of a class goes on with the chain of its superclass. -/
theorem chain_succ {name up : ClassName} (hup : s.superclassOf name = some up) (n : Nat) :
    s.chain name (n + 1) = s.chain up n := by
  rw [chain, hup, Option.bind_some]

/-- A class is found under its own name if it is on a chain. -/
theorem class?_name_of_chain {name : ClassName} {n : Nat} {c : Class}
    (hchain : s.chain name n = some c) : s.class? c.name = some c := by
  induction n generalizing name with
  | zero =>
    rw [name_of_class? hchain]
    exact hchain
  | succ n ih =>
    obtain ⟨up, -, hchain⟩ := Option.bind_eq_some_iff.1 hchain
    exact ih hchain

/-! ### The steps of the walk -/

/-- The walk ends at a class that it has met. -/
theorem ancestryFrom_of_mem {name : ClassName} {seen : List ClassName} (hseen : name ∈ seen)
    (fuel : Nat) : s.ancestryFrom fuel seen name = [] := by
  cases fuel with
  | zero => rfl
  | succ fuel => rw [ancestryFrom, if_pos hseen]

/-- The walk ends at a name without a class. -/
theorem ancestryFrom_of_class?_eq_none {name : ClassName} (hc : s.class? name = none)
    (fuel : Nat) (seen : List ClassName) : s.ancestryFrom fuel seen name = [] := by
  cases fuel with
  | zero => rfl
  | succ fuel =>
    rw [ancestryFrom, hc]
    exact ite_self []

/-- A class that was not met before is followed by the walk from its superclass. -/
theorem ancestryFrom_of_class? {name : ClassName} {c : Class} (hc : s.class? name = some c)
    {seen : List ClassName} (hseen : name ∉ seen) (fuel : Nat) :
    s.ancestryFrom (fuel + 1) seen name =
      c :: c.superclass.toList.flatMap (s.ancestryFrom fuel (name :: seen)) := by
  rw [ancestryFrom, if_neg hseen, hc]
  cases hup : c.superclass <;> simp [hup]

/-- Two ways to go on from a superclass that agree on it give the same walk. -/
theorem flatMap_superclass_congr {c : Class} {f g : ClassName → List Class}
    (h : ∀ up, c.superclass = some up → f up = g up) :
    c.superclass.toList.flatMap f = c.superclass.toList.flatMap g := by
  cases hup : c.superclass with
  | none => rfl
  | some up => simp [h up hup]

/-! ### The end of the walk -/

/-- **Induction along a walk** with enough steps left for all classes that are still to be met: it
is at a name that was met before, at one that the scene does not have, or at a class that leaves
one class less to be met. -/
theorem walk_induction {P : Nat → List ClassName → ClassName → Prop}
    (met : ∀ fuel seen name, name ∈ seen → P fuel seen name)
    (missing : ∀ fuel seen name, s.class? name = none → P fuel seen name)
    (step : ∀ fuel seen name c, s.class? name = some c → name ∉ seen →
      (∀ up, c.superclass = some up → P fuel (name :: seen) up) → P (fuel + 1) seen name)
    {fuel : Nat} {seen : List ClassName} (hfuel : (s.unseen seen).length ≤ fuel)
    (name : ClassName) : P fuel seen name := by
  induction fuel generalizing seen name with
  | zero =>
    by_cases hseen : name ∈ seen
    · exact met 0 seen name hseen
    cases hc : s.class? name with
    | none => exact missing 0 seen name hc
    | some c => exact absurd (List.length_pos_of_mem (mem_unseen hc hseen)) (by omega)
  | succ fuel ih =>
    by_cases hseen : name ∈ seen
    · exact met (fuel + 1) seen name hseen
    cases hc : s.class? name with
    | none => exact missing (fuel + 1) seen name hc
    | some c =>
      have hlength := (perm_unseen_of_class? hc hseen).length_eq
      rw [List.length_cons] at hlength
      exact step fuel seen name c hc hseen fun up _ => ih (by omega) up

/-- A walk that may take one more step than there are classes still to be met does not take it. -/
theorem ancestryFrom_succ {fuel : Nat} {seen : List ClassName}
    (hfuel : (s.unseen seen).length ≤ fuel) (name : ClassName) :
    s.ancestryFrom (fuel + 1) seen name = s.ancestryFrom fuel seen name := by
  refine walk_induction (P := fun fuel seen name =>
    s.ancestryFrom (fuel + 1) seen name = s.ancestryFrom fuel seen name) ?met ?missing ?step
    hfuel name
  case met =>
    intro fuel seen name hseen
    rw [ancestryFrom_of_mem hseen, ancestryFrom_of_mem hseen]
  case missing =>
    intro fuel seen name hc
    rw [ancestryFrom_of_class?_eq_none hc, ancestryFrom_of_class?_eq_none hc]
  case step =>
    intro fuel seen name c hc hseen ih
    rw [ancestryFrom_of_class? hc hseen, ancestryFrom_of_class? hc hseen]
    exact congrArg (c :: ·) (flatMap_superclass_congr ih)

/-- **The walk along superclasses ends by itself**: no bound beyond the number of the classes of
the scene changes what it lists. -/
theorem ancestryFrom_eq_of_le (s : Scene) (name : ClassName) {bound : Nat}
    (hbound : s.classes.length ≤ bound) : s.ancestryFrom bound [] name = s.ancestry name := by
  induction hbound with
  | refl => rfl
  | step hle ih => exact (ancestryFrom_succ (s.unseen_nil ▸ hle) name).trans ih

/-! ### The walk lists the chain -/

/-- The class at a place of the walk is the class **at this place of the chain**. -/
theorem chain_of_getElem?_ancestryFrom {fuel : Nat} {seen : List ClassName} {name : ClassName}
    {n : Nat} {c : Class} (h : (s.ancestryFrom fuel seen name)[n]? = some c) :
    s.chain name n = some c := by
  induction fuel generalizing seen name n with
  | zero => simp [ancestryFrom] at h
  | succ fuel ih =>
    by_cases hseen : name ∈ seen
    · simp [ancestryFrom_of_mem hseen] at h
    cases hc : s.class? name with
    | none => simp [ancestryFrom_of_class?_eq_none hc] at h
    | some first =>
      rw [ancestryFrom_of_class? hc hseen] at h
      cases n with
      | zero => simpa [chain, hc] using h
      | succ n =>
        cases hup : first.superclass with
        | none => simp [hup] at h
        | some up =>
          rw [chain_succ ((superclassOf_of_class? hc).trans hup)]
          exact ih (by simpa [hup] using h)

/-- **What the walk lists** stands in the chain at the same step. -/
theorem chain_of_getElem?_ancestry {name : ClassName} {n : Nat} {c : Class}
    (h : (s.ancestry name)[n]? = some c) : s.chain name n = some c :=
  chain_of_getElem?_ancestryFrom h

/-- The invariant of a walk that has come to `name`: the superclass of what has been met **has been
met or comes next**. -/
def Walked (s : Scene) (seen : List ClassName) (name : ClassName) : Prop :=
  ∀ x ∈ seen, ∀ up, s.superclassOf x = some up → up ∈ seen ∨ up = name

/-- A step up keeps the invariant. -/
theorem Walked.advance {seen : List ClassName} {name up : ClassName} (h : s.Walked seen name)
    (hup : s.superclassOf name = some up) : s.Walked (name :: seen) up := by
  intro x hx above habove
  obtain rfl | hx := List.mem_cons.1 hx
  · exact .inr (Option.some.inj (habove.symm.trans hup))
  · obtain hmet | rfl := h x hx above habove
    · exact .inl (List.mem_cons_of_mem _ hmet)
    · exact .inl List.mem_cons_self

/-- Once the walk comes back to what has been met, the chain stays there. -/
theorem Walked.name_mem_of_chain {seen : List ClassName} {name : ClassName}
    (h : s.Walked seen name) (hseen : name ∈ seen) {x : ClassName} (hx : x ∈ seen) {n : Nat}
    {c : Class} (hchain : s.chain x n = some c) : c.name ∈ seen := by
  induction n generalizing x with
  | zero =>
    rwa [name_of_class? hchain]
  | succ n ih =>
    obtain ⟨up, hup, hchain⟩ := Option.bind_eq_some_iff.1 hchain
    exact ih ((h x hx up hup).elim id fun heq => heq ▸ hseen) hchain

/-- **Nothing of the chain is missing**: a class of the chain is listed or was met before. -/
theorem mem_ancestryFrom_of_chain {fuel : Nat} {seen : List ClassName} {name : ClassName}
    (hfuel : (s.unseen seen).length ≤ fuel) (hwalked : s.Walked seen name) {n : Nat} {c : Class}
    (hchain : s.chain name n = some c) : c ∈ s.ancestryFrom fuel seen name ∨ c.name ∈ seen := by
  refine walk_induction (P := fun fuel seen name => s.Walked seen name → ∀ n,
    s.chain name n = some c → c ∈ s.ancestryFrom fuel seen name ∨ c.name ∈ seen) ?met ?missing
    ?step hfuel name hwalked n hchain
  case met =>
    intro fuel seen name hseen hwalked n hchain
    exact .inr (hwalked.name_mem_of_chain hseen hseen hchain)
  case missing =>
    intro fuel seen name hc _ n hchain
    cases n <;> simp [chain, superclassOf, hc] at hchain
  case step =>
    intro fuel seen name first hc hseen ih hwalked n hchain
    rw [ancestryFrom_of_class? hc hseen]
    cases n with
    | zero =>
      obtain rfl : first = c := Option.some.inj (hc.symm.trans hchain)
      exact .inl List.mem_cons_self
    | succ n =>
      obtain ⟨up, hup, hchain⟩ := Option.bind_eq_some_iff.1 hchain
      have hsuper : first.superclass = some up := (superclassOf_of_class? hc).symm.trans hup
      obtain hlisted | hmet := ih up hsuper (hwalked.advance hup) n hchain
      · exact .inl (List.mem_cons_of_mem _ (by simpa [hsuper] using hlisted))
      obtain heq | hmet := List.mem_cons.1 hmet
      · -- the chain has come back to the first class of the walk
        rw [← heq, class?_name_of_chain hchain, Option.some.injEq] at hc
        exact .inl (hc ▸ List.mem_cons_self)
      · exact .inr hmet

/-- The walk from a name lists **every class of its chain**. -/
theorem mem_ancestry_of_chain {name : ClassName} {n : Nat} {c : Class}
    (hchain : s.chain name n = some c) : c ∈ s.ancestry name :=
  (mem_ancestryFrom_of_chain (Nat.le_of_eq (congrArg List.length s.unseen_nil))
    (fun _ hx => absurd hx List.not_mem_nil) hchain).resolve_right List.not_mem_nil

/-! ### The nearest declaration -/

/-- **The first class of the chain that declares a signature**, with the method that it declares:
no class before it on the chain declares the signature. -/
def Nearest (s : Scene) (name : ClassName) (sig : Signature) (c : Class) (m : Method) : Prop :=
  ∃ n, s.chain name n = some c ∧ c.method? sig = some m ∧
    ∀ k < n, ∀ c', s.chain name k = some c' → c'.declares sig = false

/-- There is one nearest declaration at most. -/
theorem Nearest.unique {name : ClassName} {sig : Signature} {c c' : Class} {m m' : Method}
    (h : s.Nearest name sig c m) (h' : s.Nearest name sig c' m') : c = c' ∧ m = m' := by
  obtain ⟨n, hchain, hm, hbefore⟩ := h
  obtain ⟨n', hchain', hm', hbefore'⟩ := h'
  obtain hlt | rfl | hlt := Nat.lt_trichotomy n n'
  · have := hbefore' n hlt c hchain
    simp [Class.declares, hm] at this
  · obtain rfl : c = c' := Option.some.inj (hchain.symm.trans hchain')
    exact ⟨rfl, Option.some.inj (hm.symm.trans hm')⟩
  · have := hbefore n' hlt c' hchain'
    simp [Class.declares, hm'] at this

/-- What a call finds is the nearest declaration. -/
theorem nearest_of_resolve? {name : ClassName} {sig : Signature} {c : Class} {m : Method}
    (h : s.resolve? name sig = some (c, m)) : s.Nearest name sig c m := by
  obtain ⟨before, c₀, after, hwalk, hc₀, hbefore⟩ := List.findSome?_eq_some_iff.1 h
  obtain ⟨m₀, hm, heq⟩ := Option.map_eq_some_iff.1 hc₀
  obtain ⟨rfl, rfl⟩ := Prod.mk.inj heq
  refine ⟨before.length, chain_of_getElem?_ancestry (by simp [hwalk]), hm, ?_⟩
  intro k hk c' hc'
  have hlisted : (s.ancestry name)[k]? = some before[k] := by
    rw [hwalk, List.getElem?_append_left hk, List.getElem?_eq_getElem hk]
  obtain rfl : before[k] = c' :=
    Option.some.inj ((chain_of_getElem?_ancestry hlisted).symm.trans hc')
  simpa [Class.declares] using hbefore before[k] (List.getElem_mem hk)

/-- A call finds nothing **only if no class of the chain** declares the signature. -/
theorem resolve?_eq_none_iff (name : ClassName) (sig : Signature) :
    s.resolve? name sig = none ↔
      ∀ n c, s.chain name n = some c → c.declares sig = false := by
  have hlisted : s.resolve? name sig = none ↔ ∀ c ∈ s.ancestry name, c.declares sig = false := by
    simp [resolve?, Class.declares]
  rw [hlisted]
  constructor
  · intro h n c hchain
    exact h c (mem_ancestry_of_chain hchain)
  · intro h c hc
    obtain ⟨n, hn⟩ := List.mem_iff_getElem?.1 hc
    exact h n c (chain_of_getElem?_ancestry hn)

/-- **A call finds the nearest declaration.** -/
theorem resolve?_eq_some_iff {name : ClassName} {sig : Signature} {c : Class} {m : Method} :
    s.resolve? name sig = some (c, m) ↔ s.Nearest name sig c m := by
  refine ⟨nearest_of_resolve?, fun h => ?_⟩
  cases hfound : s.resolve? name sig with
  | none =>
    obtain ⟨n, hchain, hm, -⟩ := h
    have := (resolve?_eq_none_iff name sig).1 hfound n c hchain
    simp [Class.declares, hm] at this
  | some found =>
    obtain ⟨rfl, rfl⟩ := (nearest_of_resolve? hfound).unique h
    rfl

/-! ### Values in the order of their first places -/

/-- A new value joins the others. -/
theorem mem_addNew {β : Type} [DecidableEq β] {ys : List β} {new y : β} :
    y ∈ addNew ys new ↔ y ∈ ys ∨ y = new := by
  rw [addNew]
  split
  next hold => exact ⟨.inl, fun h => h.elim id fun heq => heq ▸ hold⟩
  next => rw [List.mem_append, List.mem_singleton]

/-- No value is added twice. -/
theorem nodup_addNew {β : Type} [DecidableEq β] {ys : List β} (h : ys.Nodup) (new : β) :
    (addNew ys new).Nodup := by
  rw [addNew]
  split
  next => exact h
  next hnew =>
    refine List.nodup_append.2 ⟨h, List.nodup_singleton new, fun y hy y' hy' heq => hnew ?_⟩
    rwa [← List.mem_singleton.1 hy', ← heq]

end Scene

/-- The list of the values that stand at places: **exactly these, each once, in the order of their
first places**. -/
structure Enumerates {β : Type} (At : Nat → β → Prop) (ys : List β) : Prop where
  mem_iff : ∀ y, y ∈ ys ↔ ∃ i, At i y
  nodup : ys.Nodup
  ordered : ys.Pairwise fun y y' => ∃ i, At i y ∧ ∀ j, At j y' → i < j

namespace Enumerates

variable {β : Type} {At : Nat → β → Prop} {ys ys' : List β}

/-- There is one such list at most. -/
theorem unique (h : Enumerates At ys) (h' : Enumerates At ys') : ys = ys' := by
  have hperm : ys.Perm ys' := (List.perm_ext_iff_of_nodup h.nodup h'.nodup).2 fun y =>
    (h.mem_iff y).trans (h'.mem_iff y).symm
  refine hperm.eq_of_pairwise (fun y y' _ _ hlt hgt => ?_) h.ordered h'.ordered
  obtain ⟨i, hi, hbefore⟩ := hlt
  obtain ⟨j, hj, hafter⟩ := hgt
  exact absurd (hbefore j hj) (Nat.lt_asymm (hafter i hi))

/-- A value at one more place, behind all others, is **added unless it is there already**. -/
theorem addNew [DecidableEq β] (h : Enumerates At ys) {n : Nat} (hlt : ∀ i y, At i y → i < n)
    (new : β) : Enumerates (fun i y => At i y ∨ i = n ∧ y = new) (Scene.addNew ys new) := by
  refine ⟨fun y => ?_, Scene.nodup_addNew h.nodup new, ?_⟩
  · rw [Scene.mem_addNew, h.mem_iff y]
    constructor
    · rintro (⟨i, hi⟩ | rfl)
      · exact ⟨i, .inl hi⟩
      · exact ⟨n, .inr ⟨rfl, rfl⟩⟩
    · rintro ⟨i, hi | ⟨-, rfl⟩⟩
      · exact .inl ⟨i, hi⟩
      · exact .inr rfl
  · have hordered : ys.Pairwise fun y y' =>
        ∃ i, (At i y ∨ i = n ∧ y = new) ∧ ∀ j, (At j y' ∨ j = n ∧ y' = new) → i < j := by
      refine h.ordered.imp ?_
      rintro y y' ⟨i, hi, hbefore⟩
      refine ⟨i, .inl hi, ?_⟩
      rintro j (hj | ⟨rfl, -⟩)
      · exact hbefore j hj
      · exact hlt i y hi
    rw [Scene.addNew]
    split
    next => exact hordered
    next hnew =>
      -- the new value stands at no place but the last
      refine List.pairwise_append.2 ⟨hordered, List.pairwise_singleton _ _, fun y hy y' hy' => ?_⟩
      rw [List.mem_singleton.1 hy']
      obtain ⟨i, hi⟩ := (h.mem_iff y).1 hy
      refine ⟨i, .inl hi, ?_⟩
      rintro j (hj | ⟨rfl, -⟩)
      · exact absurd ((h.mem_iff new).2 ⟨j, hj⟩) hnew
      · exact hlt i y hi

/-- Adding the values of a list one after the other **enumerates** them. -/
theorem foldl_addNew [DecidableEq β] {α : Type} (f : α → Option β) (xs : List α) :
    Enumerates (fun i y => xs[i]?.bind f = some y)
      ((xs.filterMap f).foldl Scene.addNew []) := by
  induction xs using List.reverseRecOn with
  | nil => exact ⟨by simp, List.nodup_nil, List.Pairwise.nil⟩
  | append_singleton xs x ih =>
    have hlast : ∀ i y, (xs ++ [x])[i]?.bind f = some y ↔
        xs[i]?.bind f = some y ∨ i = xs.length ∧ f x = some y := by
      intro i y
      obtain hlt | rfl | hgt := Nat.lt_trichotomy i xs.length
      · simp [List.getElem?_append_left hlt, Nat.ne_of_lt hlt]
      · simp
      · have hold : xs[i]? = none := List.getElem?_eq_none (Nat.le_of_lt hgt)
        have hnew : (xs ++ [x])[i]? = none :=
          List.getElem?_eq_none (by simpa using Nat.succ_le_of_lt hgt)
        simp [hold, hnew, Nat.ne_of_gt hgt]
    have hplace : ∀ i y, xs[i]?.bind f = some y → i < xs.length := by
      intro i y hi
      obtain ⟨_, hget, -⟩ := Option.bind_eq_some_iff.1 hi
      exact (List.getElem?_eq_some_iff.1 hget).1
    cases hx : f x with
    | none =>
      simpa [hlast, hx, List.filterMap_append] using ih
    | some new =>
      simpa [hlast, hx, List.filterMap_append, eq_comm] using ih.addNew hplace new

end Enumerates

/-! ### The callees of a method -/

namespace Scene

variable {s : Scene}

/-- **The call at a place of a body**: the statement there is an invocation or assigns the result of
one, and the method is the nearest declaration that the invocation finds. -/
def CallsAt (s : Scene) (b : Body) (i : Nat) (m : MethodRef) : Prop :=
  ∃ stmt e c method, b.statements[i]? = some stmt ∧
    (stmt = .invoke e ∨ ∃ lhs, stmt = .assign lhs (.call e)) ∧
    s.Nearest e.method.cls e.method.sig c method ∧ m = c.refTo method.sig

/-- The list of the methods that a body calls. -/
def IsCallees (s : Scene) (b : Body) (ms : List MethodRef) : Prop :=
  Enumerates (s.CallsAt b) ms

/-- The two kinds of statements that perform an invocation. -/
theorem invocation?_eq_some_iff {stmt : Stmt} {e : Invocation} :
    stmt.invocation? = some e ↔ stmt = .invoke e ∨ ∃ lhs, stmt = .assign lhs (.call e) := by
  cases stmt with
  | invoke e' => simp [Stmt.invocation?]
  | assign lhs rhs => cases rhs <;> simp [Stmt.invocation?]
  | _ => simp [Stmt.invocation?]

/-- A call goes to the nearest declaration of its signature. -/
theorem target?_eq_some_iff {e : Invocation} {m : MethodRef} :
    s.target? e = some m ↔ ∃ c method, s.Nearest e.method.cls e.method.sig c method ∧
      m = c.refTo method.sig := by
  rw [target?, Option.map_eq_some_iff]
  constructor
  · rintro ⟨⟨c, method⟩, hfound, rfl⟩
    exact ⟨c, method, resolve?_eq_some_iff.1 hfound, rfl⟩
  · rintro ⟨c, method, hnearest, rfl⟩
    exact ⟨(c, method), resolve?_eq_some_iff.2 hnearest, rfl⟩

/-- What a statement calls is what its invocation goes to. -/
theorem callsAt_iff {b : Body} {i : Nat} {m : MethodRef} :
    s.CallsAt b i m ↔
      (b.statements[i]?.bind fun stmt => stmt.invocation?.bind s.target?) = some m := by
  constructor
  · rintro ⟨stmt, e, c, method, hget, hperforms, hnearest, hm⟩
    rw [hget, Option.bind_some, invocation?_eq_some_iff.2 hperforms, Option.bind_some]
    exact target?_eq_some_iff.2 ⟨c, method, hnearest, hm⟩
  · intro h
    obtain ⟨stmt, hget, h⟩ := Option.bind_eq_some_iff.1 h
    obtain ⟨e, hperforms, htarget⟩ := Option.bind_eq_some_iff.1 h
    obtain ⟨c, method, hnearest, hm⟩ := target?_eq_some_iff.1 htarget
    exact ⟨stmt, e, c, method, hget, invocation?_eq_some_iff.1 hperforms, hnearest, hm⟩

/-- The methods that a body calls are enumerated by adding the target of each statement. -/
theorem isCallees_foldl (s : Scene) (b : Body) :
    s.IsCallees b (((b.statements.filterMap Stmt.invocation?).filterMap s.target?).foldl
      addNew []) := by
  have hplaces : s.CallsAt b = fun i m =>
      (b.statements[i]?.bind fun stmt => stmt.invocation?.bind s.target?) = some m :=
    funext fun _ => funext fun _ => propext callsAt_iff
  rw [IsCallees, hplaces, List.filterMap_filterMap]
  exact Enumerates.foldl_addNew _ b.statements

/-- **The callees of a method** with a body are the methods that its body calls, each once, in the
order of the first calls; a method without a body has none. -/
theorem calleesOf_eq_ok_iff {m : MethodRef} {ms : List MethodRef} :
    s.calleesOf m = .ok ms ↔ ∃ b, s.body m = .ok b ∧ s.IsCallees b ms := by
  cases hb : s.body m with
  | error fault => simp [calleesOf, hb, Except.map]
  | ok b =>
    simp only [calleesOf, hb, Except.map, Except.ok.injEq, exists_eq_left']
    constructor
    · rintro rfl
      exact s.isCallees_foldl b
    · exact (s.isCallees_foldl b).unique

end Scene

end Weaver
