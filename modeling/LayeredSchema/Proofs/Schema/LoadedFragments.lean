import LayeredSchema.Proofs.Schema.Loading

/-!
# Loaded fragments

A fragment that has been loaded comes from the file of its kind and has the name of the kind; a kind
without a file has no fragment. Requiring all fragments changes nothing but that: with a file for
every kind the same fragments are loaded, `load_required_eq_ok_iff`.
-/

namespace LayeredSchema

theorem FragmentSet.mem_inOrder {fragments : FragmentSet} {fragment : Fragment} :
    fragment ∈ fragments.inOrder ↔ ∃ kind, fragments.get? kind = some fragment := by
  rw [inOrder, List.mem_filterMap]
  exact ⟨fun ⟨kind, _, h⟩ => ⟨kind, h⟩, fun ⟨kind, h⟩ => ⟨kind, Kind.mem_all kind, h⟩⟩

namespace Loader

variable {loader : Loader} {disk : Disk} {fragments : FragmentSet} {kind : Kind}

theorem find_kind {file : FoundFile} (h : loader.find disk kind = some file) : file.kind = kind :=
  (find_eq_some_iff.mp h).1

theorem outcome_eq_ok_none_iff :
    loader.outcome disk kind = .ok none ↔
      loader.find disk kind = none ∧ loader.requireAll = false := by
  rw [outcome]
  cases loader.find disk kind with
  | some file => simp [map_eq_ok_iff]
  | none => cases loader.requireAll <;> simp

theorem exists_find_of_outcome {fragment : Fragment}
    (h : loader.outcome disk kind = .ok (some fragment)) :
    ∃ file, loader.find disk kind = some file ∧ fragment.name = kind.name ∧
      fragment.source = some file.path := by
  cases yields_iff.mpr h with
  | @fragment file _ _ _ uses =>
    exact ⟨⟨kind, file.path, file.tier⟩, find_eq_some_iff.mpr ⟨rfl, _, uses⟩, rfl, rfl⟩

/-- A loaded fragment has the name of its kind, and was read from the file of the kind. -/
theorem exists_find_of_load {fragment : Fragment} (h : loader.load disk = .ok fragments)
    (hfragment : fragments.get? kind = some fragment) :
    ∃ file, loader.find disk kind = some file ∧ fragment.name = kind.name ∧
      fragment.source = some file.path := by
  apply exists_find_of_outcome
  rw [load_eq_ok_iff.mp h kind, hfragment]

theorem get?_eq_none_of_load_iff (h : loader.load disk = .ok fragments) :
    fragments.get? kind = none ↔ loader.find disk kind = none := by
  have houtcome := load_eq_ok_iff.mp h kind
  constructor
  · intro hnone
    rw [hnone] at houtcome
    exact (outcome_eq_ok_none_iff.mp houtcome).1
  · intro hnone
    rw [Option.eq_none_iff_forall_ne_some]
    intro fragment hfragment
    obtain ⟨file, hfile, -⟩ := exists_find_of_load h hfragment
    rw [hnone] at hfile
    cases hfile

/-! ## Requiring all fragments -/

variable {paths : SchemaPaths}

/-- A kind with a file comes to the same whether or not it is required. -/
theorem outcome_of_find {file : FoundFile} (required : Bool)
    (h : loader.find disk kind = some file) :
    outcome ⟨loader.paths, required⟩ disk kind = loader.outcome disk kind := by
  have hfind : find ⟨loader.paths, required⟩ disk kind = some file := h
  rw [outcome, outcome, h, hfind]

/-- With a file for every kind nothing is loaded differently if all fragments are required. -/
theorem loadInto_required (h : ∀ kind, find ⟨paths, false⟩ disk kind ≠ none) :
    loadInto ⟨paths, true⟩ disk = loadInto ⟨paths, false⟩ disk := by
  funext fragments kind
  obtain ⟨file, hfile⟩ := Option.ne_none_iff_exists'.mp (h kind)
  have houtcome : outcome ⟨paths, true⟩ disk kind = outcome ⟨paths, false⟩ disk kind :=
    outcome_of_find true hfile
  rw [loadInto_eq, loadInto_eq, houtcome]

theorem load_required (h : ∀ kind, find ⟨paths, false⟩ disk kind ≠ none) :
    load ⟨paths, true⟩ disk = load ⟨paths, false⟩ disk := by
  rw [load, load, loadInto_required h]

/-- A required kind that comes to a result has a file. -/
theorem find_ne_none_of_load_required (h : load ⟨paths, true⟩ disk = .ok fragments) (kind : Kind) :
    find ⟨paths, false⟩ disk kind ≠ none := by
  intro hnone
  have hmissing : find ⟨paths, true⟩ disk kind = none := hnone
  have houtcome := load_eq_ok_iff.mp h kind
  rw [outcome, hmissing] at houtcome
  cases houtcome

/-- Requiring all fragments loads the fragments that are loaded otherwise, if there is a file for
every kind. -/
theorem load_required_eq_ok_iff :
    load ⟨paths, true⟩ disk = .ok fragments ↔
      load ⟨paths, false⟩ disk = .ok fragments ∧
        ∀ kind, find ⟨paths, false⟩ disk kind ≠ none := by
  constructor
  · intro h
    have hfound := find_ne_none_of_load_required h
    rw [← load_required hfound]
    exact ⟨h, hfound⟩
  · rintro ⟨h, hfound⟩
    rw [load_required hfound, h]

end Loader

end LayeredSchema
