import Mathlib
import ChipEight.Command.FileTree

/-!
# Writing and reading files

A file that has been written is there: the same path leads to it afterwards, and it has
the content that was written (`read_of_write`).  This needs that writing changes no
directory, so that no path that could be followed before leads elsewhere, and that
writing and reading follow a path to the same place although they go about its last part
differently.
-/

namespace ChipEight
namespace FileTree

/-- A chain of two attempts succeeds if both do. -/
theorem exists_of_bind_eq_ok {α β : Type} {first : Except FileError α}
    {next : α → Except FileError β} {result : β} (hboth : (first >>= next) = .ok result) :
    ∃ value, first = .ok value ∧ next value = .ok result := by
  cases first with
  | error error => cases hboth
  | ok value => exact ⟨value, rfl, hboth⟩

/-! ## Following a path among other files -/

section Follow

variable {tree : FileTree} {files : List (Location × List UInt8)}

/-- A path goes through directories only, so files do not matter to it. -/
theorem step_withFiles {location next : Location} {part : String}
    (hstep : tree.step location part = .ok next) :
    { tree with files }.step location part = .ok next := by
  cases hdirectory : tree.isDirectory location with
  | false =>
      rw [step, hdirectory] at hstep
      cases hstep
  | true =>
      have hsame : { tree with files }.isDirectory location = true := hdirectory
      rw [step, hsame]
      rwa [step, hdirectory] at hstep

theorem foldlM_step_withFiles {location next : Location} {parts : List String}
    (hfollow : parts.foldlM tree.step location = .ok next) :
    parts.foldlM { tree with files }.step location = .ok next := by
  induction parts generalizing location with
  | nil => exact hfollow
  | cons part rest ih =>
      rw [List.foldlM_cons] at hfollow ⊢
      obtain ⟨between, hstep, hrest⟩ := exists_of_bind_eq_ok hfollow
      rw [step_withFiles hstep]
      exact ih hrest

end Follow

/-! ## The place of a file -/

variable {tree after : FileTree} {path : String} {content : List UInt8}

/-- A path that ends with a name consists of the way to it and the name. -/
theorem way_append_last {parts : List String} (hname : isName (parts.getLastD "") = true) :
    ((parts.reverse.dropWhile (· == "")).drop 1).reverse ++ [parts.getLastD ""] = parts := by
  rcases List.eq_nil_or_concat' parts with rfl | ⟨way, last, rfl⟩
  · cases hname
  · rw [List.getLastD_concat] at hname ⊢
    have hkept : (last == "") = false := by
      by_contra hempty
      rw [eq_of_beq (Bool.eq_true_of_not_eq_false hempty)] at hname
      cases hname
    rw [List.reverse_append, List.reverse_singleton, List.singleton_append,
      List.dropWhile_cons_of_neg (by simp [hkept]), List.drop_one, List.tail_cons,
      List.reverse_reverse]

/-- Staying in a place is only possible in a directory. -/
theorem step_empty {location next : Location} (hstep : tree.step location "" = .ok next) :
    next = location := by
  cases hdirectory : tree.isDirectory location with
  | false =>
      rw [step, hdirectory] at hstep
      cases hstep
  | true =>
      rw [step, hdirectory] at hstep
      cases hstep
      rfl

/-- What writing does: the path leads to a place that is no directory, and a file is put
there. -/
theorem write_cases (hwrite : tree.write path content = .ok after) :
    ∃ start location, tree.start path = .ok start ∧
      (path.splitOn "/").foldlM tree.step start = .ok location ∧
      tree.isDirectory location = false ∧
      after = { tree with
        files := (location, content) :: tree.files.filter (·.1 != location) } := by
  rw [write] at hwrite
  obtain ⟨start, hstart, hwrite⟩ := exists_of_bind_eq_ok hwrite
  obtain ⟨directory, hway, hwrite⟩ := exists_of_bind_eq_ok hwrite
  -- The way to the file ends in a directory.
  rw [List.foldlM_append] at hway
  obtain ⟨between, hway, hstay⟩ := exists_of_bind_eq_ok hway
  rw [List.foldlM_cons] at hstay
  obtain ⟨next, hstay, hnext⟩ := exists_of_bind_eq_ok hstay
  cases hnext
  have hsame := step_empty hstay
  subst hsame
  -- From there on a name leads to the file.
  cases hname : isName ((path.splitOn "/").getLastD "") with
  | false =>
      rw [hname] at hwrite
      cases hwrite
  | true =>
      rw [hname] at hwrite
      obtain ⟨location, hlast, hwrite⟩ := exists_of_bind_eq_ok hwrite
      cases hdirectory : tree.isDirectory location with
      | true =>
          rw [hdirectory] at hwrite
          cases hwrite
      | false =>
          rw [hdirectory] at hwrite
          cases hwrite
          refine ⟨start, location, hstart, ?_, hdirectory, rfl⟩
          rw [← way_append_last hname, List.foldlM_append, hway]
          change [_].foldlM tree.step directory = _
          rw [List.foldlM_cons, hlast]
          rfl

/-- A file that has been written is read with what was written. -/
theorem read_of_write (hwrite : tree.write path content = .ok after) :
    after.read path = .ok content := by
  obtain ⟨start, location, hstart, hfollow, hdirectory, rfl⟩ := write_cases hwrite
  generalize hfiles : (location, content) :: tree.files.filter (·.1 != location) = files
  have hstart' : { tree with files }.start path = .ok start := hstart
  have hfollow' : (path.splitOn "/").foldlM { tree with files }.step start = .ok location :=
    foldlM_step_withFiles hfollow
  have hdirectory' : { tree with files }.isDirectory location = false := hdirectory
  have hfile : { tree with files }.file? location = some content := by
    rw [file?, ← hfiles, List.lookup_cons_self]
  rw [read, hstart']
  change ((path.splitOn "/").foldlM { tree with files }.step start >>= _) = _
  rw [hfollow']
  change (if { tree with files }.isDirectory location = true then _ else _) = _
  rw [hdirectory', hfile]
  rfl

end FileTree
end ChipEight
