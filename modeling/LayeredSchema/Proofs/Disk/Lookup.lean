import LayeredSchema.Disk.Basic
import LayeredSchema.Proofs.Disk.Path

/-!
# Looking things up on a disk

A path is followed piece by piece, and whatever is looked up stands in a directory. So the directory
that a file is found in can be found as well, `isDirectory_of_find_join`, unless it is the empty
path, which names nothing although joining a name to it leads to the working directory.
-/

namespace LayeredSchema.Disk

variable {disk : Disk} {path dir : Path}

/-! ## Following pieces -/

theorem walk_append (disk : Disk) (here : Location) (first second : List (List Char)) :
    disk.walk here (first ++ second)
      = (disk.walk here first).bind fun next => disk.walk next second := by
  induction first generalizing here with
  | nil => rfl
  | cons piece rest ih =>
    rw [List.cons_append, walk, walk]
    cases disk.node? here with
    | none => rfl
    | some entry =>
      cases entry with
      | file _ | locked => rfl
      | directory => exact ih (step here piece)

/-- The last piece is looked up in the directory that the other ones lead to. -/
theorem walk_concat_eq_ok_iff {here location : Location} {above : List (List Char)}
    {piece : List Char} :
    disk.walk here (above ++ [piece]) = .ok location ↔
      ∃ there, disk.walk here above = .ok there ∧ disk.node? there = some .directory ∧
        step there piece = location := by
  rw [walk_append]
  cases disk.walk here above with
  | error fault => simp [Except.bind]
  | ok there =>
    have hwalk : disk.walk there [piece] = .ok location ↔
        disk.node? there = some .directory ∧ step there piece = location := by
      rw [walk]
      cases disk.node? there with
      | none => simp
      | some entry => cases entry <;> simp [walk]
    rw [Except.bind, hwalk]
    simp

theorem locate_eq_ok_iff {location : Location} :
    disk.locate path = .ok location ↔
      path.text ≠ "" ∧ disk.walk (disk.start path) path.pieces = .ok location := by
  rw [locate, Ne, ← String.toList_eq_nil_iff]
  split_ifs with h
  · simp [h]
  · simp [h]

theorem find_eq_ok_iff {node : DiskEntry} :
    disk.find path = .ok node ↔
      ∃ location, disk.locate path = .ok location ∧ disk.node? location = some node := by
  rw [find]
  cases disk.locate path with
  | error fault => simp [bind, Except.bind]
  | ok location =>
    dsimp only [bind, Except.bind]
    cases hnode : disk.node? location with
    | none => simp [hnode]
    | some entry => simp [hnode]

theorem isDirectory_iff : disk.isDirectory path = true ↔ disk.find path = .ok .directory := by
  rw [isDirectory]
  split
  · next hfind => simp [hfind]
  · next hother => simpa using hother

/-! ## The directory of a name -/

/-- A name that is found in a directory other than the empty path is found where the path of the
directory leads, and a directory stands there. -/
theorem isDirectory_of_find_join {name : List Char} {node : DiskEntry} (hname : '/' ∉ name)
    (hdir : dir.text ≠ "") (h : disk.find (dir.join ⟨String.ofList name⟩) = .ok node) :
    disk.isDirectory dir = true := by
  obtain ⟨location, hlocate, -⟩ := find_eq_ok_iff.mp h
  obtain ⟨-, hwalk⟩ := locate_eq_ok_iff.mp hlocate
  have hne : dir.text.toList ≠ [] := fun hnil => hdir (String.toList_eq_nil_iff.mp hnil)
  obtain ⟨above, hpieces, hends⟩ := Path.pieces_join_of_ne hname hne
  have hstart : disk.start (dir.join ⟨String.ofList name⟩) = disk.start dir := by
    rw [start, start, Path.isAbsolute_join_of_ne hname hne]
  rw [hpieces, hstart, walk_concat_eq_ok_iff] at hwalk
  obtain ⟨there, habove, hthere, -⟩ := hwalk
  -- a final slash only asks for the directory that is there
  have hlocated : disk.walk (disk.start dir) dir.pieces = .ok there := by
    rcases hends with heq | heq
    · rw [heq, habove]
    · rw [heq, walk_concat_eq_ok_iff]
      exact ⟨there, habove, hthere, rfl⟩
  rw [isDirectory_iff, find_eq_ok_iff]
  exact ⟨there, locate_eq_ok_iff.mpr ⟨hdir, hlocated⟩, hthere⟩

/-- The empty path names nothing. -/
theorem isDirectory_empty (disk : Disk) : disk.isDirectory ⟨""⟩ = false := rfl

end LayeredSchema.Disk
