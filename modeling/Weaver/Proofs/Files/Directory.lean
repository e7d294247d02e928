import Weaver.Files.Disk
import Weaver.Proofs.Text.Cutting

/-!
# Files in a Directory

The path that is joined from a directory and a name leads to the place of that name in the
directory, and the name is the last part of it. What a path leads to stays there when files are
put at places where nothing was.

## Main definitions

* `Path.IsName`: the name of a file.
* `Disk.KeepsDirs`, `Disk.Extends`: a disk with the same directories, or with more on it.

## Main results

* `Disk.locate_join`: **where a joined path leads**.
* `Path.fileName?_join`: the last part of a joined path.
* `Disk.KeepsDirs.locate`: paths lead where they led.
* `Disk.readText_of_writeText`: a text that has been written can be read.
-/

namespace Weaver

/-- The name of a file: one part of a path, which leads neither nowhere nor upwards and is not
too long. -/
structure Path.IsName (name : Text) : Prop where
  ne_nil : name ≠ []
  noSlash : '/' ∉ name
  ne_dot : name ≠ ['.']
  ne_dots : name ≠ "..".toList
  fits : Utf8.length name ≤ Disk.maxNameLength

namespace Path

variable {dir name : Text}

/-- A joined path ends in a slash and the name. -/
theorem exists_join (hdir : dir ≠ []) (hname : '/' ∉ name) :
    ∃ base, join dir name = base ++ '/' :: name ∧
      (dir = base ∧ Text.endsWith dir ['/'] = false ∨ dir = base ++ ['/']) := by
  have habsolute : isAbsolute name = false := by
    cases name with
    | nil => rfl
    | cons c name => exact Text.startsWith_of_head fun h => hname (h ▸ List.mem_cons_self)
  have hempty : dir.isEmpty = false := by simpa using hdir
  rw [join, habsolute, hempty]
  simp only [Bool.false_eq_true, if_false, Bool.false_or]
  cases hend : Text.endsWith dir "/".toList with
  | false => exact ⟨dir, by simp, .inl ⟨rfl, hend⟩⟩
  | true =>
    obtain ⟨base, hbase⟩ := Option.isSome_iff_exists.1 hend
    have hbase : dir = base ++ ['/'] := Text.stripSuffix?_eq_some_iff.1 hbase
    exact ⟨base, by simp [hbase], .inr hbase⟩

end Path

/-! ### Where paths lead -/

namespace Disk

variable {d d' : Disk}

/-- Steps are followed one after the other. -/
theorem follow_append (place : Place) (xs ys : List Text) :
    d.follow place (xs ++ ys) = d.follow place xs >>= fun place => d.follow place ys := by
  induction xs generalizing place with
  | nil => rfl
  | cons x xs ih =>
    rw [List.cons_append, follow, follow]
    cases d.requireDir place with
    | error fault => rfl
    | ok u =>
      simp only [bind, Except.bind]
      split
      · exact ih place
      · split
        · exact ih _
        · split
          · rfl
          · exact ih _

/-- What has to be a directory is one. -/
theorem requireDir_eq_ok {place : Place} (h : d.at? place = some .dir) :
    d.requireDir place = .ok () := by
  rw [requireDir, h]

/-- What stands at the place of a path is what the path leads to. -/
theorem stat_eq_ok {p : Text} {place : Place} {node : Node} (hlocate : d.locate p = .ok place)
    (hnode : d.at? place = some node) : d.stat p = .ok node := by
  rw [stat, hlocate]
  simp only [bind, Except.bind, hnode]
  rfl

/-- Only a directory passes for one. -/
theorem at?_of_requireDir {place : Place} (h : d.requireDir place = .ok ()) :
    d.at? place = some .dir := by
  unfold requireDir at h
  split at h
  · cases h
  next hdir => exact hdir
  · cases h

/-- A name leads into a directory. -/
theorem follow_name {place : Place} (hdir : d.at? place = some .dir) {name : Text}
    (hname : Path.IsName name) : d.follow place [name] = .ok (place ++ [name]) := by
  rw [follow, requireDir_eq_ok hdir]
  simp only [bind, Except.bind, if_neg hname.ne_dot, if_neg hname.ne_dots,
    if_neg (Nat.not_lt.2 hname.fits), follow]

/-- A dot stays in a directory. -/
theorem follow_dot {place place' : Place} (h : d.follow place [['.']] = .ok place') :
    place' = place := by
  rw [follow] at h
  cases hdir : d.requireDir place with
  | error fault =>
    rw [hdir] at h
    cases h
  | ok u =>
    rw [hdir] at h
    simp only [bind, Except.bind, if_true, follow] at h
    exact (Except.ok.inj h).symm

/-- A path with a slash at its end stays where it leads. -/
theorem steps_slash (base : Text) :
    steps (base ++ ['/']) = (Text.splitOn '/' base).filter (· ≠ []) ++ [['.']] := by
  have hend : Text.endsWith (base ++ ['/']) ['/'] = true := by
    rw [Text.endsWith, Text.stripSuffix?_append]
    rfl
  have hsplit : Text.splitOn '/' (base ++ ['/']) = Text.splitOn '/' base ++ [[]] :=
    Text.splitOn_append_cons '/' base []
  rw [steps, if_pos hend, hsplit, List.filter_append]
  simp

/-- A name behind a slash is one more step. -/
theorem steps_name (base : Text) {name : Text} (hname : Path.IsName name) :
    steps (base ++ '/' :: name) = (Text.splitOn '/' base).filter (· ≠ []) ++ [name] := by
  have hend : Text.endsWith (base ++ '/' :: name) ['/'] = false := by
    rw [Text.endsWith, Option.isSome_eq_false_iff, Option.isNone_iff_eq_none,
      Text.stripSuffix?_eq_none_iff]
    intro rest heq
    have hlast := congrArg List.getLast? heq
    obtain ⟨c, hc⟩ := Option.isSome_iff_exists.1 (List.getLast?_isSome.2 hname.ne_nil)
    rw [List.getLast?_append, List.getLast?_cons, hc, List.getLast?_concat] at hlast
    obtain rfl : c = '/' := by simpa using hlast
    exact hname.noSlash (List.mem_of_getLast? hc)
  rw [steps, hend, Text.splitOn_append_cons, Text.splitOn_of_not_mem hname.noSlash,
    List.filter_append]
  simp [hname.ne_nil]

/-- **Where a joined path leads.** -/
theorem locate_join {dir name : Text} {place : Place} (hlocate : d.locate dir = .ok place)
    (hdir : d.at? place = some .dir) (hname : Path.IsName name) :
    d.locate (Path.join dir name) = .ok (place ++ [name]) := by
  have hne : dir ≠ [] := by
    rintro rfl
    cases hlocate
  obtain ⟨base, hjoin, hbase⟩ := Path.exists_join hne hname.noSlash
  have habsolute : Path.isAbsolute (base ++ '/' :: name) = Path.isAbsolute dir := by
    have hhead :
        ∀ (c : Char) (s t : Text), Path.isAbsolute (c :: s) = Path.isAbsolute (c :: t) := by
      intro c s t
      rw [Path.isAbsolute, Path.isAbsolute, Text.startsWith, Text.startsWith]
      by_cases hc : '/' = c
      · subst hc
        rfl
      · simp [Text.stripPrefix?, hc]
    obtain ⟨rfl, -⟩ | rfl := hbase
    · obtain ⟨c, rest, rfl⟩ := List.exists_cons_of_ne_nil hne
      exact hhead c _ _
    · cases base with
      | nil => exact hhead '/' _ _
      | cons c rest => exact hhead c _ _
  rw [locate, if_neg (by simpa using hne)] at hlocate
  rw [hjoin, locate, if_neg (by simp), habsolute, steps_name base hname, follow_append]
  -- The directory itself is found by the same steps, perhaps with a dot behind them.
  have hbefore : d.follow (if Path.isAbsolute dir then [] else d.workingDir)
      ((Text.splitOn '/' base).filter (· ≠ [])) = .ok place := by
    obtain ⟨rfl, hend⟩ | rfl := hbase
    · rwa [steps, hend] at hlocate
    · rw [steps_slash, follow_append] at hlocate
      cases hplace : d.follow (if Path.isAbsolute (base ++ ['/']) then [] else d.workingDir)
          ((Text.splitOn '/' base).filter (· ≠ [])) with
      | error fault =>
        rw [hplace] at hlocate
        cases hlocate
      | ok place' =>
        rw [hplace] at hlocate
        rw [follow_dot hlocate]
  rw [hbefore]
  exact follow_name hdir hname

/-! ### More on a disk -/

/-- **The directories of the first disk** are directories of the second one. -/
structure KeepsDirs (d d' : Disk) : Prop where
  workingDir : d'.workingDir = d.workingDir
  dir : ∀ {place : Place}, d.at? place = some .dir → d'.at? place = some .dir

/-- Steps lead where they led. -/
theorem KeepsDirs.follow (h : d.KeepsDirs d') {place place' : Place} {xs : List Text}
    (hf : d.follow place xs = .ok place') : d'.follow place xs = .ok place' := by
  induction xs generalizing place with
  | nil => exact hf
  | cons x xs ih =>
    rw [Disk.follow] at hf ⊢
    cases hdir : d.requireDir place with
    | error fault =>
      rw [hdir] at hf
      cases hf
    | ok u =>
      rw [requireDir_eq_ok (h.dir (at?_of_requireDir hdir))]
      rw [hdir] at hf
      simp only [bind, Except.bind] at hf ⊢
      split at hf
      next hdot =>
        rw [if_pos hdot]
        exact ih hf
      next hdot =>
        rw [if_neg hdot]
        split at hf
        next hdots =>
          rw [if_pos hdots]
          exact ih hf
        next hdots =>
          rw [if_neg hdots]
          split at hf
          · cases hf
          next hfits =>
            rw [if_neg hfits]
            exact ih hf

/-- **Paths lead where they led.** -/
theorem KeepsDirs.locate (h : d.KeepsDirs d') {p : Text} {place : Place}
    (hp : d.locate p = .ok place) : d'.locate p = .ok place := by
  rw [Disk.locate] at hp ⊢
  split at hp
  · cases hp
  next hne =>
    rw [if_neg hne, h.workingDir]
    exact h.follow hp

/-- **All that is on the first disk** is on the second one, at the same places. -/
structure Extends (d d' : Disk) : Prop where
  workingDir : d'.workingDir = d.workingDir
  at? : ∀ {place : Place} {node : Node}, d.at? place = some node → d'.at? place = some node

/-- A disk with more on it has the same directories. -/
theorem Extends.keepsDirs (h : d.Extends d') : d.KeepsDirs d' :=
  ⟨h.workingDir, h.at?⟩

/-! ### What has been put at a place -/

/-- What is put at a place is there, and nothing else changes. -/
theorem at?_put {place : Place} (hne : place ≠ []) (node : Node) (other : Place) :
    (d.put place node).at? other = if other = place then some node else d.at? other := by
  rw [at?, at?, put, List.find?_append]
  by_cases hother : other = place
  · subst hother
    have hnone : (d.nodes.filter fun e => e.1 != other).find? (fun e => e.1 == other) = none := by
      rw [List.find?_eq_none]
      intro e he
      simpa using (List.mem_filter.1 he).2
    rw [if_neg hne, if_pos rfl, hnone]
    simp
  · rw [if_neg hother]
    by_cases hroot : other = []
    · rw [if_pos hroot, if_pos hroot]
    · have hfind : (d.nodes.filter fun e => e.1 != place).find? (fun e => e.1 == other) =
          d.nodes.find? fun e => e.1 == other := by
        rw [List.find?_filter]
        refine congrArg (fun q => d.nodes.find? q) (funext fun e => ?_)
        by_cases he : e.1 = other <;> simp [he, hother]
      rw [if_neg hroot, if_neg hroot, hfind]
      simp [Ne.symm hother]

/-- A file that takes the place of a file, or of nothing, is in the way of no path. -/
theorem keepsDirs_put {place : Place} (hne : place ≠ []) (hfile : d.at? place ≠ some .dir)
    (node : Node) : d.KeepsDirs (d.put place node) where
  workingDir := rfl
  dir {other} hdir := by
    rw [at?_put hne, if_neg]
    · exact hdir
    · rintro rfl
      exact hfile hdir

/-- **Writing puts a file** where the path leads to, unless that is a directory. -/
theorem write_eq_ok {p : Text} {contents : Contents} (h : d.write p contents = .ok d') :
    ∃ place executable, d.locate p = .ok place ∧ d.at? place ≠ some .dir ∧
      d' = d.put place (.file contents executable) := by
  rw [write] at h
  cases hlocate : d.locate p with
  | error fault =>
    rw [hlocate] at h
    cases h
  | ok place =>
    rw [hlocate] at h
    simp only [bind, Except.bind, pure, Except.pure] at h
    split at h
    · cases h
    next contents' executable hat =>
      exact ⟨place, executable, rfl, by simp [hat], (Except.ok.inj h).symm⟩
    next hat => exact ⟨place, false, rfl, by simp [hat], (Except.ok.inj h).symm⟩

/-- **A text that has been written can be read.** -/
theorem readText_of_writeText {p s : Text} (h : d.writeText p s = .ok d') :
    d'.readText p = .ok s := by
  obtain ⟨place, executable, hlocate, hfile, rfl⟩ := write_eq_ok h
  have hne : place ≠ [] := by
    rintro rfl
    exact hfile rfl
  rw [readText, read, stat, (keepsDirs_put hne hfile _).locate hlocate]
  simp only [bind, Except.bind, at?_put hne]
  rfl

end Disk

/-! ### The last part of a path -/

namespace Path

/-- What a path begins with is one character at most. -/
theorem headLength_le (p : Text) : headLength p ≤ 1 := by
  unfold headLength
  split <;> omega

/-- The last part is what stands behind the last slash. -/
theorem lastPart?_append {name rest : Text} (hname : IsName name)
    (hrest : ∀ c ∈ rest.head?, c = '/') (fuel : Nat) :
    ∃ before, lastPart? (fuel + 1) (name.reverse ++ rest) = some (name.reverse, before) := by
  have hall : ∀ c ∈ name.reverse, (c != '/') = true := by
    intro c hc
    rw [bne_iff_ne]
    rintro rfl
    exact hname.noSlash (List.mem_reverse.1 hc)
  have hnone : rest.takeWhile (· != '/') = [] := by
    cases rest with
    | nil => rfl
    | cons c rest =>
      rw [hrest c rfl]
      rfl
  have hcounts : counts name.reverse = true := by
    have hdot : name.reverse ≠ ['.'] :=
      fun h => hname.ne_dot (by simpa using congrArg List.reverse h)
    simp [counts, hname.ne_nil, hdot]
  have htake : (name.reverse ++ rest).takeWhile (· != '/') = name.reverse := by
    rw [List.takeWhile_append_of_pos hall, hnone, List.append_nil]
  rw [lastPart?, htake]
  simp only [hcounts, if_true]
  exact ⟨_, rfl⟩

/-- **The last part of a joined path** is the name. -/
theorem fileName?_join {dir name : Text} (hdir : dir ≠ []) (hname : IsName name) :
    fileName? (join dir name) = some name := by
  obtain ⟨base, hjoin, -⟩ := exists_join hdir hname.noSlash
  have hform : join dir name = (base ++ ['/']) ++ name := by simp [hjoin]
  have hle := headLength_le (join dir name)
  have hbody : ((join dir name).drop (headLength (join dir name))).reverse =
      name.reverse ++ ((base ++ ['/']).drop (headLength (join dir name))).reverse := by
    generalize headLength (join dir name) = n at hle
    rw [hform, List.drop_append_of_le_length (by simp; omega), List.reverse_append]
  have hrest :
      ∀ c ∈ ((base ++ ['/']).drop (headLength (join dir name))).reverse.head?, c = '/' := by
    generalize headLength (join dir name) = n at hle
    intro c hc
    cases base with
    | nil =>
      obtain rfl | rfl : n = 0 ∨ n = 1 := by omega
      · simpa using hc.symm
      · simp at hc
    | cons d base =>
      rw [List.drop_append_of_le_length (by simp; omega)] at hc
      simpa using hc.symm
  obtain ⟨before, hlast⟩ := lastPart?_append hname hrest (join dir name).length
  rw [fileName?, cut?, hbody, hlast]
  simp only [Option.map_some, List.reverse_reverse, if_neg hname.ne_dots]

end Path

end Weaver
