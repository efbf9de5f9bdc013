import LayeredSchema.Proofs.Disk.Path
import LayeredSchema.Proofs.Lists

/-!
# The name at the end of a path

What is taken for the name of a path can be read off its text: the last name in it, behind which
nothing but a trail of slashes and dots follows, `fileName?_eq_some_iff`. Its extension is what
follows the last dot of that name unless the dot stands first, `extension?_eq_some_iff`.
-/

namespace LayeredSchema.Path

/-! ## Pieces and the text between slashes -/

/-- With a slash in front of each of its pieces, a text is itself behind a slash. -/
theorem flatMap_splitSlashes (cs : List Char) :
    (splitSlashes cs).flatMap ('/' :: ·) = '/' :: cs := by
  induction cs with
  | nil => rfl
  | cons c cs ih =>
    rw [splitSlashes]
    by_cases hc : c = '/'
    · rw [if_pos hc, List.flatMap_cons, ih, hc]
      rfl
    · obtain ⟨piece, pieces, hpieces⟩ := List.exists_cons_of_ne_nil (splitSlashes_ne_nil cs)
      rw [hpieces, List.flatMap_cons, List.cons_append, List.cons.injEq] at ih
      rw [if_neg hc, hpieces]
      show '/' :: c :: (piece ++ pieces.flatMap ('/' :: ·)) = '/' :: c :: cs
      rw [ih.2]

theorem not_mem_of_mem_splitSlashes {cs piece : List Char} (h : piece ∈ splitSlashes cs) :
    '/' ∉ piece := by
  induction cs generalizing piece with
  | nil =>
    rw [splitSlashes, List.mem_singleton] at h
    rw [h]
    exact List.not_mem_nil
  | cons c cs ih =>
    obtain ⟨first, rest, hpieces⟩ := List.exists_cons_of_ne_nil (splitSlashes_ne_nil cs)
    rw [splitSlashes] at h
    by_cases hc : c = '/'
    · rw [if_pos hc, List.mem_cons] at h
      rcases h with rfl | h
      · exact List.not_mem_nil
      · exact ih h
    · rw [if_neg hc, hpieces] at h
      rw [hpieces] at ih
      rcases List.mem_cons.mp h with rfl | h
      · have hfirst : '/' ∉ first := ih List.mem_cons_self
        simp [Ne.symm hc, hfirst]
      · exact ih (List.mem_cons_of_mem _ h)

/-- Pieces without slashes that are joined by slashes are found again. -/
theorem splitSlashes_append_flatMap {name : List Char} {after : List (List Char)}
    (hname : '/' ∉ name) (hafter : ∀ piece ∈ after, '/' ∉ piece) :
    splitSlashes (name ++ after.flatMap ('/' :: ·)) = name :: after := by
  induction after generalizing name with
  | nil => rw [List.flatMap_nil, List.append_nil, splitSlashes_of_not_mem hname]
  | cons piece rest ih =>
    have hrest : splitSlashes (piece ++ rest.flatMap ('/' :: ·)) = piece :: rest := by
      apply ih
      · exact hafter piece List.mem_cons_self
      · exact fun other hother => hafter other (List.mem_cons_of_mem _ hother)
    rw [List.flatMap_cons, List.cons_append, splitSlashes_append_slash, hrest,
      splitSlashes_of_not_mem hname]
    rfl

/-! ## Trails -/

/-- What may follow the last name of a path: slashes, with or without a single dot behind them. -/
inductive IsTrail : List Char → Prop
  | nil : IsTrail []
  | slash {cs : List Char} (h : IsTrail cs) : IsTrail ('/' :: cs)
  | slashDot {cs : List Char} (h : IsTrail cs) : IsTrail ('/' :: '.' :: cs)

theorem isIdle_iff {piece : List Char} : isIdle piece = true ↔ piece = [] ∨ piece = ['.'] := by
  simp [isIdle]

theorem not_mem_of_isIdle {piece : List Char} (h : isIdle piece = true) : '/' ∉ piece := by
  rcases isIdle_iff.mp h with rfl | rfl <;> decide

/-- A trail is made of pieces that lead nowhere. -/
theorem isTrail_iff {cs : List Char} :
    IsTrail cs ↔ ∃ after : List (List Char),
      (∀ piece ∈ after, isIdle piece = true) ∧ cs = after.flatMap ('/' :: ·) := by
  constructor
  · intro h
    induction h with
    | nil => exact ⟨[], by simp, rfl⟩
    | slash _ ih =>
      obtain ⟨after, hidle, rfl⟩ := ih
      exact ⟨[] :: after, List.forall_mem_cons.mpr ⟨rfl, hidle⟩, rfl⟩
    | slashDot _ ih =>
      obtain ⟨after, hidle, rfl⟩ := ih
      exact ⟨['.'] :: after, List.forall_mem_cons.mpr ⟨rfl, hidle⟩, rfl⟩
  · intro h
    obtain ⟨after, hidle, rfl⟩ := h
    induction after with
    | nil => exact .nil
    | cons piece rest ih =>
      obtain ⟨hpiece, hrest⟩ := List.forall_mem_cons.mp hidle
      rcases isIdle_iff.mp hpiece with rfl | rfl
      · exact .slash (ih hrest)
      · exact .slashDot (ih hrest)

/-! ## The last name -/

/-- The text of the path ends in the name: it stands at the beginning or behind a slash, and only a
trail follows it. -/
structure EndsIn (p : Path) (name : List Char) : Prop where
  isName : IsName name
  split : ∃ above trail, p.text.toList = above ++ name ++ trail ∧
    (above = [] ∨ ∃ dir, above = dir ++ ['/']) ∧ IsTrail trail

/-- The last piece of a path that leads somewhere is what its text ends in. -/
theorem isLast_pieces_iff {p : Path} {name : List Char} (h : IsName name) :
    IsLast (fun piece => isIdle piece = false) p.pieces name ↔ p.EndsIn name := by
  constructor
  · rintro ⟨-, before, after, hpieces, hafter⟩
    have hidle : ∀ piece ∈ after, isIdle piece = true := by
      intro piece hpiece
      simpa using hafter piece hpiece
    have hsplit : splitSlashes p.text.toList = before ++ name :: after := hpieces
    have htext : before.flatMap ('/' :: ·) ++ '/' :: (name ++ after.flatMap ('/' :: ·))
        = '/' :: p.text.toList := by
      rw [← flatMap_splitSlashes p.text.toList, hsplit, List.flatMap_append, List.flatMap_cons,
        List.cons_append]
    refine ⟨h, ?_⟩
    -- the first slash is not one of the text, so nothing stands before the name or a directory does
    cases before with
    | nil =>
      rw [List.flatMap_nil, List.nil_append, List.cons.injEq] at htext
      exact ⟨[], _, htext.2.symm, Or.inl rfl, isTrail_iff.mpr ⟨after, hidle, rfl⟩⟩
    | cons piece rest =>
      rw [List.flatMap_cons, List.cons_append, List.cons_append, List.cons.injEq] at htext
      refine ⟨piece ++ rest.flatMap ('/' :: ·) ++ ['/'], _, ?_, Or.inr ⟨_, rfl⟩,
        isTrail_iff.mpr ⟨after, hidle, rfl⟩⟩
      rw [← htext.2]
      simp
  · rintro ⟨-, above, trail, htext, habove, htrail⟩
    obtain ⟨after, hidle, rfl⟩ := isTrail_iff.mp htrail
    have hname : splitSlashes (name ++ after.flatMap ('/' :: ·)) = name :: after :=
      splitSlashes_append_flatMap h.1 fun piece hpiece => not_mem_of_isIdle (hidle piece hpiece)
    refine ⟨h.2.1, ?_⟩
    have hlater : ∀ later ∈ after, ¬ isIdle later = false := by
      intro later hmem
      simpa using hidle later hmem
    rcases habove with rfl | ⟨dir, rfl⟩
    · refine ⟨[], after, ?_, hlater⟩
      rw [pieces, htext, List.nil_append, hname, List.nil_append]
    · refine ⟨splitSlashes dir, after, ?_, hlater⟩
      rw [pieces, htext, List.append_assoc, List.append_assoc, List.singleton_append,
        splitSlashes_append_slash, hname]

/-- The name of a path is the one that its text ends in. -/
theorem fileName?_eq_some_iff {p : Path} {name : List Char} :
    p.fileName? = some name ↔ p.EndsIn name := by
  have hlast : p.components.getLast? = some name ↔
      IsLast (fun piece => isIdle piece = false) p.pieces name := by
    rw [isLast_iff_getLast?_filter, components]
    simp
  constructor
  · intro h
    rw [fileName?] at h
    split at h
    · next last hcomponents =>
      split_ifs at h with hup
      obtain rfl := Option.some.inj h
      have hname : IsLast (fun piece => isIdle piece = false) p.pieces last := hlast.mp hcomponents
      obtain ⟨hidle, before, after, hpieces, -⟩ := id hname
      have hmem : last ∈ splitSlashes p.text.toList := by
        rw [← pieces, hpieces]
        simp
      exact (isLast_pieces_iff ⟨not_mem_of_mem_splitSlashes hmem, hidle, hup⟩).mp hname
    · cases h
  · intro h
    rw [fileName?, hlast.mpr ((isLast_pieces_iff h.isName).mpr h)]
    exact if_neg h.isName.2.2

/-! ## Stem and extension -/

theorem splitLastDot_eq_none_iff {cs : List Char} : splitLastDot cs = none ↔ '.' ∉ cs := by
  refine ⟨fun h => ?_, splitLastDot_of_not_mem⟩
  induction cs with
  | nil => exact List.not_mem_nil
  | cons c cs ih =>
    rw [splitLastDot] at h
    cases hcs : splitLastDot cs with
    | some parts =>
      rw [hcs] at h
      cases h
    | none =>
      rw [hcs] at h
      have hc : c ≠ '.' := by
        intro heq
        rw [heq] at h
        cases h
      rw [List.mem_cons, not_or]
      exact ⟨Ne.symm hc, ih hcs⟩

/-- A name is split at its last dot. -/
theorem splitLastDot_eq_some_iff {cs before after : List Char} :
    splitLastDot cs = some (before, after) ↔ cs = before ++ '.' :: after ∧ '.' ∉ after := by
  constructor
  · intro h
    induction cs generalizing before with
    | nil => cases h
    | cons c cs ih =>
      rw [splitLastDot] at h
      cases hcs : splitLastDot cs with
      | some parts =>
        -- the dot is further behind
        rw [hcs] at h
        cases h
        obtain ⟨hparts, hafter⟩ := ih hcs
        rw [List.cons_append, ← hparts]
        exact ⟨rfl, hafter⟩
      | none =>
        rw [hcs] at h
        dsimp only at h
        split_ifs at h with hc
        cases h
        exact ⟨by rw [hc, List.nil_append], splitLastDot_eq_none_iff.mp hcs⟩
  · intro h
    rw [h.1]
    exact splitLastDot_append_dot before h.2

/-- A name has an extension if it has a dot that does not stand first. -/
theorem extensionOf_eq_some_iff {name ext : List Char} :
    extensionOf name = some ext ↔ ∃ stem, splitLastDot name = some (stem, ext) ∧ stem ≠ [] := by
  rw [extensionOf]
  cases hsplit : splitLastDot name with
  | none => simp
  | some parts =>
    obtain ⟨before, after⟩ := parts
    cases before <;> simp

theorem stemOf_of_splitLastDot {name stem ext : List Char}
    (h : splitLastDot name = some (stem, ext)) (hstem : stem ≠ []) : stemOf name = stem := by
  obtain ⟨c, cs, rfl⟩ := List.exists_cons_of_ne_nil hstem
  rw [stemOf, h]

theorem EndsIn.stem? {p : Path} {stem ext : List Char} (h : p.EndsIn (stem ++ '.' :: ext))
    (hstem : stem ≠ []) (hext : '.' ∉ ext) : p.stem? = some (String.ofList stem) := by
  have hsplit := splitLastDot_append_dot stem hext
  rw [Path.stem?, fileName?_eq_some_iff.mpr h, Option.map_some, stemOf_of_splitLastDot hsplit hstem]

/-- The extension is what stands behind the last dot of the name that the path ends in, unless the
name begins with that dot. -/
def HasExtension (p : Path) (ext : List Char) : Prop :=
  ∃ stem, stem ≠ [] ∧ '.' ∉ ext ∧ p.EndsIn (stem ++ '.' :: ext)

theorem extension?_eq_some_iff {p : Path} {ext : String} :
    p.extension? = some ext ↔ p.HasExtension ext.toList := by
  have htext : ∀ after, String.ofList after = ext ↔ after = ext.toList := by
    intro after
    rw [← String.toList_inj, String.toList_ofList]
  rw [extension?, Option.map_eq_some_iff]
  simp only [htext, exists_eq_right, Option.bind_eq_some_iff, fileName?_eq_some_iff,
    extensionOf_eq_some_iff, splitLastDot_eq_some_iff]
  constructor
  · intro h
    obtain ⟨name, hname, stem, ⟨rfl, hext⟩, hstem⟩ := h
    exact ⟨stem, hstem, hext, hname⟩
  · intro h
    obtain ⟨stem, hstem, hext, hname⟩ := h
    exact ⟨_, hname, stem, ⟨rfl, hext⟩, hstem⟩

end LayeredSchema.Path
