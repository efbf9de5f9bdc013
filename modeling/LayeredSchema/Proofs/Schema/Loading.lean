import LayeredSchema.Proofs.Schema.Candidates
import Mathlib.Data.List.Nodup

/-!
# Loading fragments

Each kind is settled on its own: `Loader.Yields` says what it comes to, a fragment, none, or an
error. A set of fragments is loaded kind by kind, `Loaded.step`, and ends with the fragment of every
kind or with the error of the first kind that has one.

* `yields_iff` finds the outcome of a kind in the program, `Loader.outcome`;
* `load_eq_ok_iff` and `load_eq_error_iff` describe the fragments of all kinds.
-/

namespace LayeredSchema

/-! ## Results that are mapped -/

section

variable {ε α β : Type} {f : α → β} {result : Except ε α}

theorem map_eq_ok_iff {b : β} : result.map f = .ok b ↔ ∃ a, result = .ok a ∧ f a = b := by
  cases result <;> simp [Except.map]

theorem map_eq_error_iff {e : ε} : result.map f = .error e ↔ result = .error e := by
  cases result <;> simp [Except.map]

end

/-! ## Kinds in merge order -/

namespace Kind

theorem mem_all (kind : Kind) : kind ∈ all := by
  cases kind <;> decide

theorem nodup_all : all.Nodup := by
  decide

/-- What stands before a kind in the list of all kinds is what is merged before it. -/
theorem mem_before_iff {before after : List Kind} {kind other : Kind}
    (h : all = before ++ kind :: after) : other ∈ before ↔ other.index < kind.index := by
  have hsorted : all.Pairwise fun a b => a.index < b.index := by decide
  have hmem : other ∈ all := mem_all other
  rw [h] at hsorted hmem
  exact mem_before_iff_of_pairwise (fun _ _ => Nat.lt_asymm) hsorted hmem

end Kind

/-- A set of fragments is what its slots hold. -/
theorem FragmentSet.ext_get? {a b : FragmentSet} (h : ∀ kind, a.get? kind = b.get? kind) :
    a = b := by
  cases a
  cases b
  rw [FragmentSet.mk.injEq]
  exact ⟨h .cloud, h .metric, h .tableMapping⟩

namespace Loader

variable {loader : Loader} {disk : Disk}

/-! ## What a kind comes to -/

/-- What loading a kind comes to. Its file is the one that is used for it, read in the format of its
extension; a kind without a file is skipped unless all are required. -/
inductive Yields (loader : Loader) (disk : Disk) (kind : Kind) :
    Except SchemaError (Option Fragment) → Prop where
  /-- The file holds a mapping. -/
  | fragment {file : Candidate} {format : SourceFormat} {text : String}
      {members : List (String × Value)}
      (uses : loader.paths.Uses disk kind file)
      (formatOf : SourceFormat.ofExtension? file.extension = some format)
      (readable : disk.readText file.path = .ok text)
      (parsed : format.read text = some (.object members)) :
      Yields loader disk kind
        (.ok (some { name := kind.name, body := .ofList members, source := some file.path }))
  /-- There is no file, and none is required. -/
  | skipped
      (noFile : ∀ file, loader.paths.IsCandidate kind file → ¬ disk.NamesFile file.path)
      (optional : loader.requireAll = false) :
      Yields loader disk kind (.ok none)
  /-- The file cannot be read. -/
  | unreadable {file : Candidate} {fault : Fault}
      (uses : loader.paths.Uses disk kind file)
      (unreadable : disk.readText file.path = .error fault) :
      Yields loader disk kind (.error (.unreadable file.path fault))
  /-- The text of the file does not parse. -/
  | malformed {file : Candidate} {format : SourceFormat} {text : String}
      (uses : loader.paths.Uses disk kind file)
      (formatOf : SourceFormat.ofExtension? file.extension = some format)
      (readable : disk.readText file.path = .ok text)
      (unparsed : format.read text = none) :
      Yields loader disk kind (.error (.malformed file.path))
  /-- The text of the file denotes something else than a mapping. -/
  | notMapping {file : Candidate} {format : SourceFormat} {text : String} {value : Value}
      (uses : loader.paths.Uses disk kind file)
      (formatOf : SourceFormat.ofExtension? file.extension = some format)
      (readable : disk.readText file.path = .ok text)
      (parsed : format.read text = some value)
      (notObject : ∀ members, value ≠ .object members) :
      Yields loader disk kind (.error (.notMapping kind.name value (some file.path)))
  /-- There is no file, and one is required. -/
  | missing
      (noFile : ∀ file, loader.paths.IsCandidate kind file → ¬ disk.NamesFile file.path)
      (required : loader.requireAll = true) :
      Yields loader disk kind (.error (.fragmentNotFound kind.name (some kind.stem)))

/-- The outcome of a kind as it is computed. -/
def outcome (loader : Loader) (disk : Disk) (kind : Kind) :
    Except SchemaError (Option Fragment) :=
  match loader.find disk kind with
  | some file => (readFragment disk kind file.path).map some
  | none =>
    if loader.requireAll then .error (.fragmentNotFound kind.name (some kind.stem))
    else .ok none

/-- The file that is used decides what comes of its kind. -/
theorem outcome_of_uses {kind : Kind} {file : Candidate}
    (h : loader.paths.Uses disk kind file) :
    loader.outcome disk kind = (readFragment disk kind file.path).map some := by
  have hfind : loader.find disk kind = some ⟨kind, file.path, file.tier⟩ :=
    find_eq_some_iff.mpr ⟨rfl, file.extension, h⟩
  rw [outcome, hfind]

/-- Without a file the kind is left out, or missing if all are asked for. -/
theorem outcome_of_noFile {kind : Kind}
    (h : ∀ file, loader.paths.IsCandidate kind file → ¬ disk.NamesFile file.path) :
    loader.outcome disk kind
      = if loader.requireAll then .error (.fragmentNotFound kind.name (some kind.stem))
        else .ok none := by
  rw [outcome, find_eq_none_iff.mpr h]

/-- The extensions that are looked for are those of the formats that can be read. -/
theorem exists_ofExtension? {paths : SchemaPaths} {kind : Kind} {file : Candidate}
    (h : paths.IsCandidate kind file) :
    ∃ format, SourceFormat.ofExtension? file.extension = some format := by
  have hall : ∀ extension ∈ ["json5", "json", "yaml", "yml"],
      ∃ format, SourceFormat.ofExtension? extension = some format := by
    intro extension hextension
    simp only [List.mem_cons, List.not_mem_nil, or_false] at hextension
    rcases hextension with rfl | rfl | rfl | rfl
    · exact ⟨.json5, rfl⟩
    · exact ⟨.json, rfl⟩
    · exact ⟨.yaml, rfl⟩
    · exact ⟨.yaml, rfl⟩
  exact hall _ h.1

theorem parseFragment_of_isCandidate {paths : SchemaPaths} {kind : Kind} {file : Candidate}
    {format : SourceFormat} (h : paths.IsCandidate kind file)
    (hformat : SourceFormat.ofExtension? file.extension = some format) (text : String) :
    parseFragment file.path text
      = match format.read text with
        | some value => .ok value
        | none => .error (.malformed file.path) := by
  rewrite [parseFragment, h.extension?, Option.getD_some, hformat]
  rfl

/-- What comes of a file once its text is read. -/
theorem readFragment_of_readText {paths : SchemaPaths} {kind : Kind} {file : Candidate}
    {format : SourceFormat} {text : String} (h : paths.IsCandidate kind file)
    (hformat : SourceFormat.ofExtension? file.extension = some format)
    (htext : disk.readText file.path = .ok text) :
    readFragment disk kind file.path
      = match format.read text with
        | none => .error (.malformed file.path)
        | some value =>
          match value.mapping? with
          | some body => .ok { name := kind.name, body, source := some file.path }
          | none => .error (.notMapping kind.name value (some file.path)) := by
  have hparse := parseFragment_of_isCandidate h hformat text
  rw [readFragment, htext]
  dsimp only
  rw [hparse]
  cases format.read text with
  | none => rfl
  | some value =>
    dsimp only
    rw [Fragment.ofValue]
    cases value.mapping? <;> rfl

theorem mapping?_eq_none {value : Value} (h : ∀ members, value ≠ .object members) :
    value.mapping? = none := by
  cases value with
  | object members => exact absurd rfl (h members)
  | _ => rfl

/-- Every kind comes to what is computed for it. -/
theorem yields_outcome (loader : Loader) (disk : Disk) (kind : Kind) :
    loader.Yields disk kind (loader.outcome disk kind) := by
  cases hfind : loader.find disk kind with
  | none =>
    have hnone := find_eq_none_iff.mp hfind
    rw [outcome_of_noFile hnone]
    cases hrequired : loader.requireAll with
    | false => exact .skipped hnone hrequired
    | true => exact .missing hnone hrequired
  | some found =>
    obtain ⟨-, extension, huses⟩ := find_eq_some_iff.mp hfind
    obtain ⟨format, hformat⟩ := exists_ofExtension? huses.isCandidate
    rw [outcome_of_uses huses]
    -- the ways in which a file that is there can fail, in the order in which they are met
    cases htext : disk.readText found.path with
    | error fault =>
      rw [readFragment, htext]
      exact .unreadable huses htext
    | ok text =>
      rw [readFragment_of_readText huses.isCandidate hformat htext]
      cases hread : format.read text with
      | none => exact .malformed huses hformat htext hread
      | some value =>
        cases value with
        | object members => exact .fragment huses hformat htext hread
        | _ => exact .notMapping huses hformat htext hread (by simp)

/-- A kind comes to nothing else. -/
theorem outcome_of_yields {kind : Kind} {result : Except SchemaError (Option Fragment)}
    (h : loader.Yields disk kind result) : loader.outcome disk kind = result := by
  cases h with
  | fragment uses formatOf readable parsed =>
    rw [outcome_of_uses uses, readFragment_of_readText uses.isCandidate formatOf readable, parsed]
    rfl
  | skipped noFile optional =>
    rw [outcome_of_noFile noFile, optional]
    rfl
  | unreadable uses unreadable =>
    rw [outcome_of_uses uses, readFragment, unreadable]
    rfl
  | malformed uses formatOf readable unparsed =>
    rw [outcome_of_uses uses, readFragment_of_readText uses.isCandidate formatOf readable, unparsed]
    rfl
  | notMapping uses formatOf readable parsed notObject =>
    rw [outcome_of_uses uses, readFragment_of_readText uses.isCandidate formatOf readable, parsed]
    dsimp only
    rw [mapping?_eq_none notObject]
    rfl
  | missing noFile required =>
    rw [outcome_of_noFile noFile, required]
    rfl

/-- The cases of what a kind can yield are all of them and exclude each other. -/
theorem yields_iff {kind : Kind} {result : Except SchemaError (Option Fragment)} :
    loader.Yields disk kind result ↔ loader.outcome disk kind = result :=
  ⟨outcome_of_yields, fun h => h ▸ yields_outcome loader disk kind⟩

/-! ## Kind by kind -/

theorem loadInto_eq (loader : Loader) (disk : Disk) (fragments : FragmentSet) (kind : Kind) :
    loader.loadInto disk fragments kind
      = match loader.outcome disk kind with
        | .ok (some fragment) => .ok (fragments.set kind fragment)
        | .ok none => .ok fragments
        | .error error => .error error := by
  rw [loadInto, loadFragment, outcome]
  cases loader.find disk kind with
  | none => cases loader.requireAll <;> rfl
  | some file =>
    dsimp only
    cases readFragment disk kind file.path <;> rfl

/-- The fragments once some kinds are settled: these hold what they came to, and the slots of the
other ones are empty. -/
structure Loaded (loader : Loader) (disk : Disk) (done : List Kind) (fragments : FragmentSet) :
    Prop where
  settled : ∀ kind ∈ done, loader.outcome disk kind = .ok (fragments.get? kind)
  unsettled : ∀ kind, kind ∉ done → fragments.get? kind = none

theorem loaded_empty (loader : Loader) (disk : Disk) : loader.Loaded disk [] .empty := by
  refine ⟨fun kind h => absurd h List.not_mem_nil, fun kind _ => ?_⟩
  cases kind <;> rfl

/-- Loading a kind settles it and leaves the other ones as they are. -/
theorem Loaded.step {done : List Kind} {kind : Kind} {fragments next : FragmentSet}
    (h : loader.Loaded disk done fragments) (hkind : kind ∉ done)
    (hnext : loader.loadInto disk fragments kind = .ok next) :
    loader.Loaded disk (done ++ [kind]) next := by
  rw [loadInto_eq] at hnext
  -- what the kind came to is in its slot now, and every other slot is the old one
  have hself : loader.outcome disk kind = .ok (next.get? kind) := by
    cases houtcome : loader.outcome disk kind with
    | error error =>
      rw [houtcome] at hnext
      cases hnext
    | ok result =>
      rw [houtcome] at hnext
      cases result with
      | none =>
        cases hnext
        rw [h.unsettled kind hkind]
      | some fragment =>
        cases hnext
        rw [FragmentSet.get?_set_self]
  have hother (other : Kind) (hne : other ≠ kind) : next.get? other = fragments.get? other := by
    rw [hself] at hnext
    cases hget : next.get? kind with
    | none =>
      rw [hget] at hnext
      cases hnext
      rfl
    | some fragment =>
      rw [hget] at hnext
      cases hnext
      exact FragmentSet.get?_set_of_ne fragments fragment hne
  refine ⟨fun other hmem => ?_, fun other hmem => ?_⟩
  · rcases List.mem_append.mp hmem with hmem | hmem
    · have hne : other ≠ kind := fun heq => hkind (heq ▸ hmem)
      rw [hother other hne]
      exact h.settled other hmem
    · rw [List.mem_singleton.mp hmem]
      exact hself
  · rw [List.mem_append, List.mem_singleton, not_or] at hmem
    rw [hother other hmem.2]
    exact h.unsettled other hmem.1

/-- Loading kinds one after the other settles all of them. -/
theorem Loaded.run {kinds done : List Kind} {fragments final : FragmentSet}
    (h : loader.Loaded disk done fragments) (hnd : (done ++ kinds).Nodup)
    (hfinal : kinds.foldlM (loader.loadInto disk) fragments = .ok final) :
    loader.Loaded disk (done ++ kinds) final := by
  induction kinds generalizing done fragments with
  | nil =>
    cases hfinal
    rwa [List.append_nil]
  | cons kind rest ih =>
    rw [List.foldlM_cons] at hfinal
    have hkind : kind ∉ done := by
      rw [List.nodup_append] at hnd
      exact fun hmem => hnd.2.2 kind hmem kind List.mem_cons_self rfl
    cases hnext : loader.loadInto disk fragments kind with
    | error error =>
      rw [hnext] at hfinal
      cases hfinal
    | ok next =>
      rw [hnext] at hfinal
      have hrest := ih (h.step hkind hnext) (by rwa [List.append_assoc]) hfinal
      rwa [List.append_assoc] at hrest

/-- An error of one kind ends loading. -/
theorem loadInto_of_error {kind : Kind} {error : SchemaError} (fragments : FragmentSet)
    (h : loader.outcome disk kind = .error error) :
    loader.loadInto disk fragments kind = .error error := by
  rw [loadInto_eq, h]

theorem exists_loadInto_of_ok {kind : Kind} {result : Option Fragment} (fragments : FragmentSet)
    (h : loader.outcome disk kind = .ok result) :
    ∃ next, loader.loadInto disk fragments kind = .ok next := by
  rw [loadInto_eq, h]
  cases result with
  | none => exact ⟨fragments, rfl⟩
  | some fragment => exact ⟨fragments.set kind fragment, rfl⟩

/-- Loading fails with the error of the first kind that has one. -/
theorem foldlM_loadInto_eq_error_iff {kinds : List Kind} {error : SchemaError}
    (fragments : FragmentSet) :
    kinds.foldlM (loader.loadInto disk) fragments = .error error ↔
      ∃ before kind after, kinds = before ++ kind :: after ∧
        loader.outcome disk kind = .error error ∧
        ∀ earlier ∈ before, ∃ result, loader.outcome disk earlier = .ok result := by
  induction kinds generalizing fragments with
  | nil =>
    constructor
    · intro h
      cases h
    · rintro ⟨before, kind, after, heq, -⟩
      simp at heq
  | cons first rest ih =>
    rw [List.foldlM_cons, exists_split_cons_iff]
    cases houtcome : loader.outcome disk first with
    | error fault =>
      rw [loadInto_of_error fragments houtcome]
      simp [bind, Except.bind]
    | ok result =>
      -- the first kind has no error, so the rest of them decide
      obtain ⟨next, hnext⟩ := exists_loadInto_of_ok fragments houtcome
      rw [hnext]
      refine (ih next).trans ?_
      simp

/-! ## All kinds -/

/-- Loading fails with the error of the first kind that has one. -/
theorem load_eq_error_iff {error : SchemaError} :
    loader.load disk = .error error ↔
      ∃ kind, loader.outcome disk kind = .error error ∧
        ∀ earlier, earlier.index < kind.index →
          ∃ result, loader.outcome disk earlier = .ok result := by
  rw [load, foldlM_loadInto_eq_error_iff]
  constructor
  · rintro ⟨before, kind, after, hall, hkind, hbefore⟩
    refine ⟨kind, hkind, fun earlier hlt => ?_⟩
    exact hbefore earlier ((Kind.mem_before_iff hall).mpr hlt)
  · rintro ⟨kind, hkind, hbefore⟩
    obtain ⟨before, after, hall⟩ := List.append_of_mem (Kind.mem_all kind)
    refine ⟨before, kind, after, hall, hkind, fun earlier hearlier => ?_⟩
    exact hbefore earlier ((Kind.mem_before_iff hall).mp hearlier)

/-- The fragments are loaded exactly if no kind has an error, and then each slot holds what its kind
came to. -/
theorem load_eq_ok_iff {fragments : FragmentSet} :
    loader.load disk = .ok fragments ↔
      ∀ kind, loader.outcome disk kind = .ok (fragments.get? kind) := by
  have hloaded (final : FragmentSet) (hfinal : loader.load disk = .ok final) (kind : Kind) :
      loader.outcome disk kind = .ok (final.get? kind) :=
    ((loaded_empty loader disk).run Kind.nodup_all hfinal).settled kind (Kind.mem_all kind)
  refine ⟨hloaded fragments, fun h => ?_⟩
  cases hload : loader.load disk with
  | error error =>
    obtain ⟨kind, hkind, -⟩ := load_eq_error_iff.mp hload
    rw [h kind] at hkind
    cases hkind
  | ok final =>
    have heq : final = fragments := by
      refine FragmentSet.ext_get? fun kind => ?_
      have hfinal := hloaded final hload kind
      rw [h kind] at hfinal
      exact (Except.ok.inj hfinal).symm
    rw [heq]

/-! ## Composing what was loaded -/

/-- Composing itself cannot fail: its errors are those of loading. -/
theorem compose_eq_error_iff {error : SchemaError} :
    loader.compose disk = .error error ↔ loader.load disk = .error error := by
  rw [compose, map_eq_error_iff]

/-- What is composed are the fragments loaded, over the defaults. -/
theorem compose_eq_ok_iff {composition : Composition} :
    loader.compose disk = .ok composition ↔
      ∃ fragments, loader.load disk = .ok fragments ∧
        composition = Composition.compose Defaults.base fragments.inOrder := by
  rw [compose, map_eq_ok_iff]
  -- composing a set is composing the fragments in it, in merge order
  exact exists_congr fun fragments => and_congr_right fun _ => eq_comm

/-- Loading and composing, kind by kind. The file of a kind is the first candidate that is a regular
file. If a kind comes to an error, that of the first such kind is returned; otherwise the fragments
of the kinds that have one are composed over the defaults, in merge order. -/
theorem compose_decided_by_kinds (loader : Loader) (disk : Disk) :
    (∀ kind file, loader.find disk kind = some file ↔
      file.kind = kind ∧
        ∃ extension, loader.paths.Uses disk kind ⟨file.tier, extension, file.path⟩) ∧
    (∀ error, loader.compose disk = .error error ↔
      ∃ kind, loader.Yields disk kind (.error error) ∧
        ∀ earlier, earlier.index < kind.index →
          ∀ other, ¬ loader.Yields disk earlier (.error other)) ∧
    (∀ composition, loader.compose disk = .ok composition ↔
      ∃ fragment : Kind → Option Fragment,
        (∀ kind, loader.Yields disk kind (.ok (fragment kind))) ∧
        composition = Composition.compose Defaults.base
          ([.cloud, .metric, .tableMapping].filterMap fragment)) := by
  refine ⟨fun _ _ => find_eq_some_iff, fun error => ?_, fun composition => ?_⟩
  · rw [compose_eq_error_iff, load_eq_error_iff]
    simp only [yields_iff]
    refine exists_congr fun kind => and_congr_right fun _ => forall₂_congr fun earlier _ => ?_
    -- a kind comes to a result or to an error
    cases loader.outcome disk earlier <;> simp
  · rw [compose_eq_ok_iff]
    simp only [load_eq_ok_iff, yields_iff]
    constructor
    · rintro ⟨fragments, hall, rfl⟩
      exact ⟨fragments.get?, hall, rfl⟩
    · rintro ⟨fragment, hall, rfl⟩
      refine ⟨⟨fragment .cloud, fragment .metric, fragment .tableMapping⟩, fun kind => ?_, rfl⟩
      rw [hall kind]
      cases kind <;> rfl

end Loader

end LayeredSchema
