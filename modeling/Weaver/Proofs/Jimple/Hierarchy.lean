import Mathlib.Logic.Relation
import Weaver.Proofs.Jimple.Chain

/-!
# Subtyping Is Reachability

The hierarchy of a scene is a graph without any promise: classes may be their own ancestors, two
ways up may meet again, and a class may name ancestors that the scene does not have. The search for
an ancestor takes the names that are pending from a stack and remembers those it has expanded.

## Convention

A name is *expanded* when the ancestors that its class names are put on the stack; a name that the
scene does not have names none. The **load** of a search is the number of ancestors named by the
classes that are not expanded yet. It pays for the stack: a name is taken off for each step of the
search, and what an expansion puts on is taken from the load. So the length of the stack and the
load together bound the number of steps, and the bound that `Scene.isSubclass` gives to the search
is never used up.

## Main definitions

* `Scene.Inherits`: one step up the hierarchy.
* `Scene.unseen`, `Scene.load`: what a search has still before it.
* `Scene.Expanded`: the invariant of the search.

## Main results

* `Scene.reaches_eq_of_le`: **the search ends by itself**.
* `Scene.exists_of_reaches`, `Scene.reaches_of_reflTransGen`: it finds what can be reached.
* `Scene.isSubclass_reachability`: **subtyping is reachability**.
-/

namespace Weaver

namespace Scene

variable {s : Scene}

/-! ### Steps up the hierarchy -/

/-- **One step up**: from a class of the scene to its superclass or to one of its interfaces. -/
def Inherits (s : Scene) (child parent : ClassName) : Prop :=
  ∃ c, s.class? child = some c ∧ (c.superclass = some parent ∨ parent ∈ c.interfaces)

/-- The direct ancestors that the class of a name has. -/
def parentsOf (s : Scene) (name : ClassName) : List ClassName :=
  (s.class? name).toList.flatMap parents

/-- The direct ancestors of a class are one step up from it. -/
theorem mem_parentsOf_iff {name parent : ClassName} :
    parent ∈ s.parentsOf name ↔ s.Inherits name parent := by
  simp [parentsOf, Inherits, parents]

/-! ### Classes that are still to be met -/

/-- The classes whose names have not been met yet. -/
def unseen (s : Scene) (seen : List ClassName) : List Class :=
  s.classes.filter fun c => c.name ∉ seen

theorem unseen_nil (s : Scene) : s.unseen [] = s.classes := by
  simp [unseen]

/-- The class of a name that has not been met is one of those still to be met. -/
theorem mem_unseen {name : ClassName} {seen : List ClassName} {c : Class}
    (hc : s.class? name = some c) (hseen : name ∉ seen) : c ∈ s.unseen seen := by
  rw [unseen, List.mem_filter, name_of_class? hc]
  exact ⟨List.mem_of_find?_eq_some hc, by simpa using hseen⟩

/-- To meet a class takes **exactly this class** from those still to be met. -/
theorem perm_unseen_of_class? {name : ClassName} {seen : List ClassName} {c : Class}
    (hc : s.class? name = some c) (hseen : name ∉ seen) :
    (s.unseen seen).Perm (c :: s.unseen (name :: seen)) := by
  obtain ⟨before, after, hclasses, rfl, hother⟩ := exists_split_of_class? hc
  have hkeep : ∀ cs : List Class, (∀ c' ∈ cs, c'.name ≠ c.name) →
      (cs.filter fun c' => c'.name ∉ c.name :: seen) = cs.filter fun c' => c'.name ∉ seen := by
    intro cs hcs
    refine List.filter_congr fun c' hc' => ?_
    simp [hcs c' hc']
  rw [unseen, unseen, hclasses, List.filter_append, List.filter_append,
    List.filter_cons_of_pos (by simpa using hseen), List.filter_cons_of_neg (by simp),
    hkeep before fun c' hc' => hother c' (List.mem_append_left _ hc'),
    hkeep after fun c' hc' => hother c' (List.mem_append_right _ hc')]
  exact List.perm_middle

/-- Meeting a name without a class leaves the same classes to meet. -/
theorem unseen_of_class?_eq_none {name : ClassName} (hc : s.class? name = none)
    (seen : List ClassName) : s.unseen (name :: seen) = s.unseen seen := by
  rw [class?, List.find?_eq_none] at hc
  refine List.filter_congr fun c hmem => ?_
  have hne : c.name ≠ name := by simpa using hc c hmem
  simp [hne]

/-- The number of ancestors that the classes still to be met name. -/
def load (s : Scene) (seen : List ClassName) : Nat :=
  ((s.unseen seen).flatMap parents).length

/-- What an expansion puts on the stack is taken **from the load**. -/
theorem load_eq {name : ClassName} {seen : List ClassName} (hseen : name ∉ seen) :
    s.load seen = (s.parentsOf name).length + s.load (name :: seen) := by
  cases hc : s.class? name with
  | none => simp [load, parentsOf, hc, unseen_of_class?_eq_none hc]
  | some c =>
    rw [load, ((perm_unseen_of_class? hc hseen).flatMap_right parents).length_eq, List.flatMap_cons,
      List.length_append]
    simp [load, parentsOf, hc]

/-! ### The steps of the search -/

/-- The search ends where the goal is pending next. -/
theorem reaches_goal (goal : ClassName) (fuel : Nat) (seen pending : List ClassName) :
    s.reaches goal (fuel + 1) seen (goal :: pending) = true := by
  rw [reaches, if_pos rfl]

/-- What has been met before is skipped. -/
theorem reaches_of_mem {goal name : ClassName} (hgoal : name ≠ goal) {seen : List ClassName}
    (hseen : name ∈ seen) (fuel : Nat) (pending : List ClassName) :
    s.reaches goal (fuel + 1) seen (name :: pending) = s.reaches goal fuel seen pending := by
  rw [reaches, if_neg hgoal, if_pos hseen]

/-- A name that was not met before is expanded. -/
theorem reaches_of_not_mem {goal name : ClassName} (hgoal : name ≠ goal) {seen : List ClassName}
    (hseen : name ∉ seen) (fuel : Nat) (pending : List ClassName) :
    s.reaches goal (fuel + 1) seen (name :: pending) =
      s.reaches goal fuel (name :: seen) ((s.parentsOf name).reverse ++ pending) := by
  rw [reaches, if_neg hgoal, if_neg hseen]
  cases hc : s.class? name <;> simp [parentsOf, hc]

/-! ### The end of the search -/

/-- A search that may take one more step than the stack and the load pay for does not take it. -/
theorem reaches_succ (goal : ClassName) {fuel : Nat} {seen pending : List ClassName}
    (hfuel : pending.length + s.load seen < fuel) :
    s.reaches goal (fuel + 1) seen pending = s.reaches goal fuel seen pending := by
  induction fuel generalizing seen pending with
  | zero => exact absurd hfuel (Nat.not_lt_zero _)
  | succ fuel ih =>
    cases pending with
    | nil => rfl
    | cons name pending =>
      rw [List.length_cons] at hfuel
      by_cases hgoal : name = goal
      · rw [hgoal, reaches_goal, reaches_goal]
      by_cases hseen : name ∈ seen
      · rw [reaches_of_mem hgoal hseen, reaches_of_mem hgoal hseen]
        exact ih (by omega)
      · rw [reaches_of_not_mem hgoal hseen, reaches_of_not_mem hgoal hseen]
        refine ih ?_
        rw [load_eq hseen] at hfuel
        rw [List.length_append, List.length_reverse]
        omega

/-- **The search ends by itself**: no bound beyond what the stack and the load pay for changes
its answer. -/
theorem reaches_eq_of_le (goal : ClassName) {fuel fuel' : Nat} {seen pending : List ClassName}
    (hfuel : pending.length + s.load seen < fuel) (hle : fuel ≤ fuel') :
    s.reaches goal fuel' seen pending = s.reaches goal fuel seen pending := by
  induction hle with
  | refl => rfl
  | step hle ih => exact (reaches_succ goal (Nat.lt_of_lt_of_le hfuel hle)).trans ih

/-- The bound of `Scene.isSubclass` pays for the whole search. -/
theorem load_lt_searchBound (s : Scene) (child : ClassName) :
    [child].length + s.load [] < s.searchBound := by
  rw [load, unseen_nil, searchBound, List.length_singleton]
  omega

/-! ### What the search finds -/

/-- What is found **can be reached** from the stack. -/
theorem exists_of_reaches {goal : ClassName} {fuel : Nat} {seen pending : List ClassName}
    (h : s.reaches goal fuel seen pending = true) :
    ∃ name ∈ pending, Relation.ReflTransGen s.Inherits name goal := by
  induction fuel generalizing seen pending with
  | zero => cases h
  | succ fuel ih =>
    cases pending with
    | nil => cases h
    | cons name pending =>
      by_cases hgoal : name = goal
      · exact ⟨name, List.mem_cons_self, hgoal ▸ .refl⟩
      by_cases hseen : name ∈ seen
      · rw [reaches_of_mem hgoal hseen] at h
        obtain ⟨start, hstart, hpath⟩ := ih h
        exact ⟨start, List.mem_cons_of_mem _ hstart, hpath⟩
      · rw [reaches_of_not_mem hgoal hseen] at h
        obtain ⟨start, hstart, hpath⟩ := ih h
        obtain hparent | hstart := List.mem_append.1 hstart
        · rw [List.mem_reverse, mem_parentsOf_iff] at hparent
          exact ⟨name, List.mem_cons_self, .head hparent hpath⟩
        · exact ⟨start, List.mem_cons_of_mem _ hstart, hpath⟩

/-- What is known stays known when a name that was met before is taken off the stack. -/
theorem known_of_skip {top name : ClassName} {seen pending : List ClassName} (htop : top ∈ seen)
    (h : name ∈ seen ∨ name ∈ top :: pending) : name ∈ seen ∨ name ∈ pending := by
  obtain hmet | hpending := h
  · exact .inl hmet
  obtain rfl | hpending := List.mem_cons.1 hpending
  · exact .inl htop
  · exact .inr hpending

/-- What is known stays known when a name is expanded. -/
theorem known_of_expand {top name : ClassName} {seen pending : List ClassName}
    (h : name ∈ seen ∨ name ∈ top :: pending) (new : List ClassName) :
    name ∈ top :: seen ∨ name ∈ new ++ pending := by
  obtain hmet | hpending := h
  · exact .inl (List.mem_cons_of_mem _ hmet)
  obtain rfl | hpending := List.mem_cons.1 hpending
  · exact .inl List.mem_cons_self
  · exact .inr (List.mem_append_right _ hpending)

/-- The invariant of a search for `goal`: what has been met is not the goal, and **one step up**
from it leads to what has been met or is pending. -/
structure Expanded (s : Scene) (goal : ClassName) (seen pending : List ClassName) : Prop where
  not_goal : goal ∉ seen
  step : ∀ name ∈ seen, ∀ parent, s.Inherits name parent → parent ∈ seen ∨ parent ∈ pending

/-- At first nothing has been met. -/
theorem expanded_start (s : Scene) (goal : ClassName) (pending : List ClassName) :
    s.Expanded goal [] pending :=
  ⟨List.not_mem_nil, fun _ hname => absurd hname List.not_mem_nil⟩

namespace Expanded

variable {goal name : ClassName} {seen pending : List ClassName}

/-- A name that was met before may be taken off the stack. -/
theorem skip (h : s.Expanded goal seen (name :: pending)) (hseen : name ∈ seen) :
    s.Expanded goal seen pending :=
  ⟨h.not_goal, fun other hother parent hparent =>
    known_of_skip hseen (h.step other hother parent hparent)⟩

/-- A name may be expanded if it is not the goal. -/
theorem expand (h : s.Expanded goal seen (name :: pending)) (hgoal : name ≠ goal) :
    s.Expanded goal (name :: seen) ((s.parentsOf name).reverse ++ pending) where
  not_goal hmem := (List.mem_cons.1 hmem).elim (fun heq => hgoal heq.symm) h.not_goal
  step other hother parent hparent := by
    obtain rfl | hother := List.mem_cons.1 hother
    · refine .inr (List.mem_append_left _ ?_)
      rwa [List.mem_reverse, mem_parentsOf_iff]
    · exact known_of_expand (h.step other hother parent hparent) _

/-- With an empty stack, nothing but what has been met can be reached from it. -/
theorem mem_of_reflTransGen (h : s.Expanded goal seen []) (hname : name ∈ seen)
    {other : ClassName} (hpath : Relation.ReflTransGen s.Inherits name other) : other ∈ seen := by
  induction hpath with
  | refl => exact hname
  | tail _ hstep ih => exact (h.step _ ih _ hstep).resolve_right List.not_mem_nil

end Expanded

/-- What can be reached from what has been met or is pending **is found**. -/
theorem reaches_of_reflTransGen {goal name : ClassName} {fuel : Nat}
    {seen pending : List ClassName} (hfuel : pending.length + s.load seen < fuel)
    (hexpanded : s.Expanded goal seen pending) (hname : name ∈ seen ∨ name ∈ pending)
    (hpath : Relation.ReflTransGen s.Inherits name goal) :
    s.reaches goal fuel seen pending = true := by
  induction fuel generalizing seen pending with
  | zero => exact absurd hfuel (Nat.not_lt_zero _)
  | succ fuel ih =>
    cases pending with
    | nil =>
      have hmet := hname.resolve_right List.not_mem_nil
      exact absurd (hexpanded.mem_of_reflTransGen hmet hpath) hexpanded.not_goal
    | cons top pending =>
      rw [List.length_cons] at hfuel
      by_cases hgoal : top = goal
      · rw [hgoal, reaches_goal]
      by_cases hseen : top ∈ seen
      · rw [reaches_of_mem hgoal hseen]
        exact ih (by omega) (hexpanded.skip hseen) (known_of_skip hseen hname)
      · rw [reaches_of_not_mem hgoal hseen]
        refine ih ?_ (hexpanded.expand hgoal) (known_of_expand hname _)
        rw [load_eq hseen] at hfuel
        rw [List.length_append, List.length_reverse]
        omega

/-! ### Subtyping -/

/-- A class is a subtype of another name **exactly if that name can be reached** from it. -/
theorem isSubclass_iff (s : Scene) (child parent : ClassName) :
    s.isSubclass child parent = true ↔ Relation.ReflTransGen s.Inherits child parent := by
  constructor
  · intro h
    obtain ⟨start, hstart, hpath⟩ := exists_of_reaches h
    rwa [List.mem_singleton.1 hstart] at hpath
  · exact reaches_of_reflTransGen (s.load_lt_searchBound child) (s.expanded_start parent [child])
      (.inr List.mem_cons_self)

/-- **Subtyping is reachability**, in every hierarchy: a name is a subtype of what can be reached
from it by steps from a class of the scene to its superclass or to one of its interfaces. So
subtyping is reflexive and transitive. The search for the answer ends by itself: no greater bound
on the number of its steps gives another one. -/
theorem isSubclass_reachability (s : Scene) :
    (∀ child parent,
      s.isSubclass child parent = true ↔ Relation.ReflTransGen s.Inherits child parent) ∧
    (∀ child parent bound, s.searchBound ≤ bound →
      s.reaches parent bound [] [child] = s.isSubclass child parent) ∧
    (∀ name, s.isSubclass name name = true) ∧
    ∀ child parent grandparent, s.isSubclass child parent = true →
      s.isSubclass parent grandparent = true → s.isSubclass child grandparent = true := by
  refine ⟨s.isSubclass_iff, fun child parent bound hbound => ?_, fun name => ?_, ?_⟩
  · exact reaches_eq_of_le parent (s.load_lt_searchBound child) hbound
  · exact (s.isSubclass_iff name name).2 .refl
  · intro child parent grandparent hchild hparent
    rw [isSubclass_iff] at hchild hparent ⊢
    exact hchild.trans hparent

end Scene

/-! ### A hierarchy with a cycle and a diamond -/

namespace SampleHierarchy

/-- A class that names its ancestors and nothing else. -/
def classWith (name : String) (superclass : Option String) (interfaces : List String) : Class :=
  { name := ⟨name.toList⟩, modifiers := [], isInterface := false
    superclass := superclass.map fun up => ⟨up.toList⟩
    interfaces := interfaces.map fun up => ⟨up.toList⟩, fields := [], methods := [] }

/-- Two classes that extend each other. The first one has two interfaces, which share an interface
that the scene does not have. -/
def scene : Scene :=
  { classes := [classWith "a.Main" (some "b.Base") ["i.First", "i.Second"],
      classWith "b.Base" (some "a.Main") [], classWith "i.First" none ["x.Shared"],
      classWith "i.Second" none ["x.Shared"]]
    entryPoints := []
    ordered := by
      rw [Increasing]
      decide }

/-- The shared interface is reached over the cycle and the diamond, and nothing is reached from
it. -/
theorem isSubclass_reachability_scene :
    scene.isSubclass ⟨"a.Main".toList⟩ ⟨"i.Second".toList⟩ = true ∧
      scene.isSubclass ⟨"i.Second".toList⟩ ⟨"x.Shared".toList⟩ = true ∧
      scene.isSubclass ⟨"a.Main".toList⟩ ⟨"x.Shared".toList⟩ = true ∧
      Relation.ReflTransGen scene.Inherits ⟨"b.Base".toList⟩ ⟨"x.Shared".toList⟩ ∧
      ¬ Relation.ReflTransGen scene.Inherits ⟨"x.Shared".toList⟩ ⟨"b.Base".toList⟩ := by
  obtain ⟨hiff, -, -, htrans⟩ := scene.isSubclass_reachability
  have hsecond : scene.isSubclass ⟨"a.Main".toList⟩ ⟨"i.Second".toList⟩ = true := by decide
  have hshared : scene.isSubclass ⟨"i.Second".toList⟩ ⟨"x.Shared".toList⟩ = true := by decide
  refine ⟨hsecond, hshared, htrans _ _ _ hsecond hshared, ?_, ?_⟩
  · rw [← hiff]
    decide
  · rw [← hiff]
    decide

end SampleHierarchy

end Weaver
