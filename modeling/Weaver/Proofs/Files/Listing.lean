import Mathlib.Data.List.Fold
import Mathlib.Data.List.MinMax
import Weaver.Files.Classes
import Weaver.Proofs.Files.Directory
import Weaver.Proofs.Text.Order

/-!
# Listing a Directory

Classes are loaded from the files that a listing finds below a directory. How it goes about this
is its own affair: all that loading needs is that the files of a directory are found, each once,
if there is nothing else in it. In which order they come does not matter, since classes are sorted
when they are loaded.

The walk through the nodes of a disk is such a listing: the names in a directory are put in order
and without repetitions, and the depth of the disk reaches all of them.

## Main definitions

* `Disk.HoldsFiles`: a directory with nothing but files of some names in it.
* `Listing.FindsFiles`: **what loading needs of a listing**.

## Main results

* `Disk.childNames_perm`: the names in such a directory.
* `Scene.findsFiles_walk`: **the walk finds the files**.
-/

namespace Weaver

namespace Disk

/-- A directory holds **files of some names and nothing else**. -/
structure HoldsFiles (d : Disk) (dir : Text) (place : Place) (names : List Text) : Prop where
  locate : d.locate dir = .ok place
  isDir : d.at? place = some .dir
  nodup : names.Nodup
  files : ∀ name ∈ names, ∃ contents executable,
    d.at? (place ++ [name]) = some (.file contents executable)
  only : ∀ e ∈ d.nodes, place <+: e.1 → e.1 = place ∨ ∃ name ∈ names, e.1 = place ++ [name]

end Disk

/-- **What loading needs of a listing**: the paths to the files of a directory with nothing else
in it, each once and in any order. -/
def Listing.FindsFiles (list : Listing) : Prop :=
  ∀ {d : Disk} {dir : Text} {place : Place} {names : List Text}, d.HoldsFiles dir place names →
    ∃ files, list d dir = .ok files ∧ files.Perm (names.map (Path.join dir))

namespace Disk

variable {d : Disk} {dir : Text} {place : Place} {names : List Text}

/-- At a place below the root there is what the first of its nodes says. -/
theorem at?_of_ne_nil {p : Place} (hp : p ≠ []) :
    d.at? p = (d.nodes.find? fun e => e.1 == p).map Prod.snd := by
  rw [at?, if_neg hp]

/-- The depth of a disk bounds how far down its places are. -/
theorem length_lt_depth {e : Place × Node} (he : e ∈ d.nodes) : e.1.length < d.depth := by
  rw [depth, List.foldl_eq_foldr]
  exact Nat.lt_succ_of_le (List.le_max_of_le' 0 (List.mem_map_of_mem he) le_rfl)

/-- The names in a directory are those of the nodes one step below it. -/
theorem mem_childNames {name : Text} :
    name ∈ d.childNames place ↔ ∃ e ∈ d.nodes, e.1 = place ++ [name] := by
  rw [childNames, mem_sortedOfList fun _ _ => Text.eq_of_compare, List.mem_filterMap]
  constructor
  · rintro ⟨⟨p, node⟩, he, hlast⟩
    dsimp only at hlast
    by_cases hparent : p.dropLast = place
    · rw [if_pos hparent] at hlast
      exact ⟨_, he, by rw [← hparent, List.dropLast_append_getLast? name hlast]⟩
    · rw [if_neg hparent] at hlast
      cases hlast
  · rintro ⟨⟨p, node⟩, he, rfl⟩
    exact ⟨_, he, by simp⟩

/-- No name is given twice. -/
theorem nodup_childNames (d : Disk) (place : Place) : (d.childNames place).Nodup :=
  (increasing_sortedOfList Text.compare _).nodup

namespace HoldsFiles

/-- A file of the directory is one of the nodes. -/
theorem exists_node (h : d.HoldsFiles dir place names) {name : Text} (hname : name ∈ names) :
    ∃ e ∈ d.nodes, e.1 = place ++ [name] := by
  obtain ⟨contents, executable, hat⟩ := h.files name hname
  rw [at?_of_ne_nil (by simp), Option.map_eq_some_iff] at hat
  obtain ⟨e, hfind, -⟩ := hat
  exact ⟨e, List.mem_of_find?_eq_some hfind, by simpa using List.find?_some hfind⟩

/-- **The names in the directory** are those of its files. -/
theorem childNames_perm (h : d.HoldsFiles dir place names) : (d.childNames place).Perm names := by
  refine (List.perm_ext_iff_of_nodup (d.nodup_childNames place) h.nodup).2 fun name => ?_
  rw [mem_childNames]
  constructor
  · rintro ⟨e, he, hname⟩
    obtain hplace | ⟨name', hname', heq⟩ := h.only e he (hname ▸ List.prefix_append _ _)
    · rw [hname] at hplace
      exact absurd hplace (by simp)
    · obtain rfl : name = name' := by simpa using hname.symm.trans heq
      exact hname'
  · exact h.exists_node

/-- **The files below the directory** are one step down, in the order of their names. -/
theorem map_filesBelow (h : d.HoldsFiles dir place names) :
    (d.filesBelow place).map Prod.fst = (d.childNames place).map fun name => [name] := by
  have hfile : ∀ name ∈ names, ∀ fuel, ∃ contents,
      d.filesFrom (fuel + 1) (place ++ [name]) = [([], contents)] := by
    intro name hname fuel
    obtain ⟨contents, executable, hat⟩ := h.files name hname
    exact ⟨contents, by rw [filesFrom, hat]⟩
  -- The depth of the disk allows for this step.
  obtain ⟨fuel, hfuel⟩ : ∃ fuel, d.depth = fuel + 1 := ⟨_, rfl⟩
  have hstep : ∀ name ∈ names, ∃ rest, fuel = rest + 1 := by
    intro name hname
    obtain ⟨e, he, heq⟩ := h.exists_node hname
    have hlt := length_lt_depth he
    rw [heq, hfuel, List.length_append, List.length_singleton] at hlt
    exact Nat.exists_eq_add_one.2 (by omega)
  rw [filesBelow, hfuel, filesFrom, h.isDir]
  simp only
  rw [List.map_flatMap, List.map_eq_flatMap]
  refine List.flatMap_congr fun name hname => ?_
  have hmem := h.childNames_perm.subset hname
  obtain ⟨rest, rfl⟩ := hstep name hmem
  obtain ⟨contents, hcontents⟩ := hfile name hmem rest
  rw [hcontents]
  rfl

end HoldsFiles

end Disk

/-- **The walk finds the files.** -/
theorem Scene.findsFiles_walk : Listing.FindsFiles walk := by
  intro d dir place names h
  have hfiles : (d.filesBelow place).map (fun found => found.1.foldl Path.join dir) =
      (d.childNames place).map (Path.join dir) := by
    have hall := congrArg (List.map fun found => found.foldl Path.join dir) h.map_filesBelow
    rwa [List.map_map, List.map_map] at hall
  refine ⟨_, ?_, h.childNames_perm.map (Path.join dir)⟩
  rw [walk, h.locate, Disk.stat_eq_ok h.locate h.isDir]
  exact congrArg Except.ok hfiles

end Weaver
