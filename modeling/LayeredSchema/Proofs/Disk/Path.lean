import LayeredSchema.Disk.Path
import Mathlib.Data.List.Basic

/-!
# Names of files in directories

A path joined from a directory and a name ends in that name, whatever the directory looks like,
`fileName?_join`. Its extension is what stands behind the last dot of the name, `extension?_join`.
-/

namespace LayeredSchema.Path

/-! ## Pieces between slashes -/

theorem splitSlashes_ne_nil (cs : List Char) : splitSlashes cs ≠ [] := by
  cases cs with
  | nil => exact List.cons_ne_nil _ _
  | cons c cs =>
    rw [splitSlashes]
    split_ifs
    · exact List.cons_ne_nil _ _
    · split <;> exact List.cons_ne_nil _ _

theorem splitSlashes_of_not_mem {cs : List Char} (h : '/' ∉ cs) : splitSlashes cs = [cs] := by
  induction cs with
  | nil => rfl
  | cons c cs ih =>
    rw [List.mem_cons, not_or] at h
    rw [splitSlashes, if_neg (Ne.symm h.1), ih h.2]

/-- Texts with a slash between them have the pieces of both. -/
theorem splitSlashes_append_slash (as bs : List Char) :
    splitSlashes (as ++ '/' :: bs) = splitSlashes as ++ splitSlashes bs := by
  induction as with
  | nil => rfl
  | cons c cs ih =>
    rw [List.cons_append, splitSlashes, splitSlashes]
    by_cases hc : c = '/'
    · rw [if_pos hc, if_pos hc, ih, List.cons_append]
    · rw [if_neg hc, if_neg hc, ih]
      obtain ⟨piece, pieces, hpieces⟩ := List.exists_cons_of_ne_nil (splitSlashes_ne_nil cs)
      rw [hpieces]
      rfl

/-! ## A name in a directory -/

/-- Whether a piece names something in the directory it is looked up in: it neither stays where it
is nor leads upwards. -/
def IsName (piece : List Char) : Prop :=
  '/' ∉ piece ∧ isIdle piece = false ∧ piece ≠ ['.', '.']

instance (piece : List Char) : Decidable (IsName piece) :=
  inferInstanceAs (Decidable (_ ∧ _ ∧ _))

theorem isAbsolute_ofList {name : List Char} (h : '/' ∉ name) :
    isAbsolute ⟨String.ofList name⟩ = false := by
  rw [isAbsolute, decide_eq_false_iff_not, String.toList_ofList]
  exact fun hhead => h (List.mem_of_mem_head? hhead)

/-- A name is joined behind a slash to any directory but the empty one; the slash is that of the
directory if it ends in one. -/
theorem toList_join_of_ne {name : List Char} (h : '/' ∉ name) {dir : Path}
    (hdir : dir.text.toList ≠ []) :
    ∃ above, (dir.join ⟨String.ofList name⟩).text.toList = above ++ '/' :: name ∧
      (dir.text.toList = above ∨ dir.text.toList = above ++ ['/']) := by
  rw [join, isAbsolute_ofList h, if_neg (by simp [hdir])]
  by_cases hslash : dir.text.toList.getLast? = some '/'
  · obtain ⟨above, habove⟩ := List.getLast?_eq_some_iff.mp hslash
    rw [if_pos hslash]
    exact ⟨above, by simp [habove], Or.inr habove⟩
  · rw [if_neg hslash]
    exact ⟨dir.text.toList, by simp, Or.inl rfl⟩

/-- Below a directory other than the empty one, a name follows the pieces of the directory; an empty
last piece, behind a final slash, gives way to it. -/
theorem pieces_join_of_ne {name : List Char} (h : '/' ∉ name) {dir : Path}
    (hdir : dir.text.toList ≠ []) :
    ∃ above, (dir.join ⟨String.ofList name⟩).pieces = above ++ [name] ∧
      (dir.pieces = above ∨ dir.pieces = above ++ [[]]) := by
  obtain ⟨above, hjoin, hends⟩ := toList_join_of_ne h hdir
  refine ⟨splitSlashes above, ?_, ?_⟩
  · rw [pieces, hjoin, splitSlashes_append_slash, splitSlashes_of_not_mem h]
  · rcases hends with heq | heq
    · exact Or.inl (by rw [pieces, heq])
    · exact Or.inr (by rw [pieces, heq, splitSlashes_append_slash]; rfl)

theorem pieces_join {name : List Char} (h : '/' ∉ name) (dir : Path) :
    ∃ above, (dir.join ⟨String.ofList name⟩).pieces = above ++ [name] := by
  by_cases hempty : dir.text.toList = []
  · refine ⟨[], ?_⟩
    rw [pieces, join, if_pos (Or.inr hempty), String.toList_ofList, splitSlashes_of_not_mem h,
      List.nil_append]
  · obtain ⟨above, hpieces, -⟩ := pieces_join_of_ne h hempty
    exact ⟨above, hpieces⟩

theorem isAbsolute_join_of_ne {name : List Char} (h : '/' ∉ name) {dir : Path}
    (hdir : dir.text.toList ≠ []) :
    (dir.join ⟨String.ofList name⟩).isAbsolute = dir.isAbsolute := by
  obtain ⟨above, hjoin, hends⟩ := toList_join_of_ne h hdir
  rw [isAbsolute, isAbsolute, hjoin]
  cases above with
  | nil =>
    rcases hends with heq | heq
    · exact absurd heq hdir
    · rw [heq]
      rfl
  | cons c cs => rcases hends with heq | heq <;> rw [heq] <;> rfl

theorem fileName?_join {name : List Char} (h : IsName name) (dir : Path) :
    (dir.join ⟨String.ofList name⟩).fileName? = some name := by
  obtain ⟨hslash, hidle, hup⟩ := h
  obtain ⟨above, hpieces⟩ := pieces_join hslash dir
  have hlast : (dir.join ⟨String.ofList name⟩).components.getLast? = some name := by
    rw [components, hpieces, List.filter_append, List.filter_singleton, hidle]
    exact List.getLast?_concat
  rw [fileName?, hlast]
  exact if_neg hup

/-! ## Extensions -/

theorem splitLastDot_of_not_mem {cs : List Char} (h : '.' ∉ cs) : splitLastDot cs = none := by
  induction cs with
  | nil => rfl
  | cons c cs ih =>
    rw [List.mem_cons, not_or] at h
    rw [splitLastDot, ih h.2]
    exact if_neg (Ne.symm h.1)

theorem splitLastDot_append_dot (stem : List Char) {ext : List Char} (h : '.' ∉ ext) :
    splitLastDot (stem ++ '.' :: ext) = some (stem, ext) := by
  induction stem with
  | nil =>
    rw [List.nil_append, splitLastDot, splitLastDot_of_not_mem h]
    exact if_pos rfl
  | cons c cs ih => rw [List.cons_append, splitLastDot, ih]

/-- A file whose name is a stem, a dot and an extension has that extension. -/
theorem extension?_join {stem ext : List Char} (hname : IsName (stem ++ '.' :: ext))
    (hstem : stem ≠ []) (hext : '.' ∉ ext) (dir : Path) :
    (dir.join ⟨String.ofList (stem ++ '.' :: ext)⟩).extension? = some (String.ofList ext) := by
  obtain ⟨c, cs, rfl⟩ := List.exists_cons_of_ne_nil hstem
  rw [extension?, fileName?_join hname, Option.bind_some, extensionOf,
    splitLastDot_append_dot _ hext]
  rfl

end LayeredSchema.Path
