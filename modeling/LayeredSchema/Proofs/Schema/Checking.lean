import LayeredSchema.Proofs.Schema.Collisions
import LayeredSchema.Proofs.Schema.LoadedFragments
import LayeredSchema.Proofs.Schema.RecognizedKeys
import LayeredSchema.Schema.Report

/-!
# What a check finds

A check looks for the files, loads them and composes the fragments, and its report puts together
what each of these steps tells. `CheckReport.Describes` says what the report has to do with the
files and with the bodies read from them, `describes_ofFragments`. A report is clean exactly if
every kind has a file, no two bodies have a key in common and all keys are recognized,
`isClean_ofFragments_iff`; what is composed then has no key that strict mode refuses.
-/

namespace LayeredSchema

/-! ## The holders of a key among the kinds -/

namespace FragmentSet

/-- The kinds whose fragments hold a key, in merge order. -/
def kindsHolding (fragments : FragmentSet) (key : String) : List Kind :=
  [.cloud, .metric, .tableMapping].filter fun kind =>
    (fragments.get? kind).any fun fragment => key ∈ fragment.keys

/-- Every fragment has the name of the kind whose slot it is in. -/
def IsNamed (fragments : FragmentSet) : Prop :=
  ∀ kind fragment, fragments.get? kind = some fragment → fragment.name = kind.name

/-- The fragments that hold a key are known by their kinds. -/
theorem IsNamed.map_name_holders {fragments : FragmentSet} (h : fragments.IsNamed) (key : String) :
    (holders fragments.inOrder key).map Fragment.name
      = (fragments.kindsHolding key).map Kind.name := by
  have hname (kind : Kind) (fragment : Fragment)
      (hfragment : (fragments.get? kind).filter (fun fragment => key ∈ fragment.keys)
        = some fragment) : fragment.name = kind.name :=
    h kind fragment (Option.filter_eq_some_iff.mp hfragment).1
  rw [holders, inOrder, List.filter_filterMap, map_filterMap_eq_map_filter hname, kindsHolding]
  simp only [Option.isSome_filter]
  rfl

theorem IsNamed.length_holders {fragments : FragmentSet} (h : fragments.IsNamed) (key : String) :
    (holders fragments.inOrder key).length = (fragments.kindsHolding key).length := by
  rw [← List.length_map Fragment.name, h.map_name_holders, List.length_map]

theorem IsNamed.name_ne_defaults {fragments : FragmentSet} (h : fragments.IsNamed) :
    ∀ fragment ∈ fragments.inOrder, fragment.name ≠ "defaults" := by
  intro fragment hfragment
  obtain ⟨kind, hkind⟩ := mem_inOrder.mp hfragment
  rw [h kind fragment hkind]
  cases kind <;> decide

end FragmentSet

theorem Loader.isNamed_of_load {loader : Loader} {disk : Disk} {fragments : FragmentSet}
    (h : loader.load disk = .ok fragments) : fragments.IsNamed := by
  intro kind fragment hfragment
  obtain ⟨-, -, hname, -⟩ := exists_find_of_load h hfragment
  exact hname

namespace CheckReport

/-! ## The report on loaded fragments -/

variable {loader : Loader} {disk : Disk} {fragments : FragmentSet}

/-- What is reported of fragments once they are loaded. -/
def ofFragments (loader : Loader) (disk : Disk) (fragments : FragmentSet) : CheckReport :=
  let composed := Composition.compose Defaults.base fragments.inOrder
  { found := Kind.all.filterMap (loader.find disk), missing := fragments.missing
    overlaps := composed.fragmentOverlaps
    unknownKeys := LayeredSchema.unknownKeys composed.schema }

theorem build_eq (loader : Loader) (disk : Disk) :
    build loader disk = (loader.load disk).map (ofFragments loader disk) := by
  rw [build]
  cases loader.load disk <;> rfl

/-- What a report says of the files that a loader finds and of the fragments read from them. -/
structure Describes (report : CheckReport) (loader : Loader) (disk : Disk)
    (fragments : FragmentSet) : Prop where
  /-- The kinds that have a file are found, in merge order. -/
  found_kinds : report.found.map FoundFile.kind
    = [.cloud, .metric, .tableMapping].filter fun kind => (loader.find disk kind).isSome
  /-- What is found of a kind is its file. -/
  found_file : ∀ file ∈ report.found, loader.find disk file.kind = some file
  /-- The other kinds are missing, in merge order. -/
  missing : report.missing
    = [.cloud, .metric, .tableMapping].filter fun kind => (loader.find disk kind).isNone
  /-- Overlaps are listed in the order of the bytes of the key, none twice. -/
  overlaps_pairwise :
    report.overlaps.Pairwise fun a b => Text.utf8Bytes a.key < Text.utf8Bytes b.key
  /-- They are the keys that the bodies of two kinds hold, each with all its layers. -/
  mem_overlaps : ∀ overlap, overlap ∈ report.overlaps ↔
    2 ≤ (fragments.kindsHolding overlap.key).length ∧
      overlap.layers
        = (if overlap.key ∈ ["version", "description", "process", "models"] then ["defaults"]
            else [])
          ++ (fragments.kindsHolding overlap.key).map Kind.name
  /-- Keys that are not recognized are listed in the order of their first appearance. -/
  unknownKeys_eq : report.unknownKeys
    = ((fragments.inOrder.flatMap Fragment.keys).filter fun key => !isRecognized key).eraseDups
  /-- They are the keys of the composition that no field has. -/
  mem_unknownKeys : ∀ key, key ∈ report.unknownKeys ↔
    key ∈ (Composition.compose Defaults.base fragments.inOrder).schema.keys ∧
      key ∉ ["format", "version", "description", "indexes", "params", "queries", "process",
        "models"]

/-- The missing kinds are those without a file, because a file that is found is loaded. -/
theorem missing_of_load (h : loader.load disk = .ok fragments) :
    fragments.missing
      = [.cloud, .metric, .tableMapping].filter fun kind => (loader.find disk kind).isNone := by
  rw [FragmentSet.missing]
  refine List.filter_congr fun kind _ => ?_
  rw [Bool.eq_iff_iff, Option.isNone_iff_eq_none, Option.isNone_iff_eq_none,
    Loader.get?_eq_none_of_load_iff h]

/-- The overlaps are the keys that the fragments of two kinds hold. -/
theorem mem_overlaps_ofFragments (h : loader.load disk = .ok fragments) {overlap : Overlap} :
    overlap ∈ (ofFragments loader disk fragments).overlaps ↔
      2 ≤ (fragments.kindsHolding overlap.key).length ∧
        overlap.layers
          = (if overlap.key ∈ ["version", "description", "process", "models"] then ["defaults"]
              else [])
            ++ (fragments.kindsHolding overlap.key).map Kind.name := by
  have hnamed := Loader.isNamed_of_load h
  rw [ofFragments, Composition.mem_fragmentOverlaps_iff, countP_holders hnamed.name_ne_defaults,
    hnamed.length_holders, writersOf_layers, ← holders, hnamed.map_name_holders, and_comm]
  rfl

theorem describes_ofFragments (h : loader.load disk = .ok fragments) :
    (ofFragments loader disk fragments).Describes loader disk fragments where
  found_kinds := by
    rw [ofFragments, map_filterMap_eq_map_filter fun _ _ => Loader.find_kind, List.map_id']
    rfl
  found_file := by
    intro file hfile
    obtain ⟨kind, -, hfind⟩ := List.mem_filterMap.mp hfile
    rw [Loader.find_kind hfind, hfind]
  missing := missing_of_load h
  overlaps_pairwise := by
    refine ((Composition.overlaps_pairwise _).sublist List.filter_sublist).imp fun hlt => ?_
    exact Text.utf8Bytes_lt_iff.mpr hlt
  mem_overlaps := fun _ => mem_overlaps_ofFragments h
  unknownKeys_eq := unknownKeys_compose fragments.inOrder
  mem_unknownKeys := by
    intro key
    rw [ofFragments, LayeredSchema.unknownKeys, List.mem_filter, ← exists_name_eq_iff,
      ← isRecognized_iff]
    simp

/-! ## Clean reports -/

theorem isClean_iff {report : CheckReport} :
    report.isClean = true ↔
      report.missing = [] ∧ report.overlaps = [] ∧ report.unknownKeys = [] := by
  rw [isClean, Bool.and_eq_true, Bool.and_eq_true, List.isEmpty_iff, List.isEmpty_iff,
    List.isEmpty_iff, and_assoc]

theorem missing_eq_nil_iff (h : loader.load disk = .ok fragments) :
    fragments.missing = [] ↔ ∀ kind, loader.find disk kind ≠ none := by
  rw [missing_of_load h, List.filter_eq_nil_iff]
  constructor
  · intro hnone kind hkind
    exact hnone kind (Kind.mem_all kind) (Option.isNone_iff_eq_none.mpr hkind)
  · intro hfind kind _ hnone
    exact hfind kind (Option.isNone_iff_eq_none.mp hnone)

theorem overlaps_eq_nil_iff (h : loader.load disk = .ok fragments) :
    (ofFragments loader disk fragments).overlaps = [] ↔
      fragments.inOrder.Pairwise fun a b => ¬ a.Collides b := by
  have hnames := (Loader.isNamed_of_load h).name_ne_defaults
  rw [← List.map_eq_nil_iff (f := Overlap.key), List.eq_nil_iff_forall_not_mem,
    pairwise_not_collides_iff]
  refine forall_congr' fun key => ?_
  rw [ofFragments, Composition.mem_keys_fragmentOverlaps, countP_holders hnames]
  omega

/-- A report is clean exactly if all fragments are there, no two of them collide and all their keys
are recognized. -/
theorem isClean_ofFragments_iff (h : loader.load disk = .ok fragments) :
    (ofFragments loader disk fragments).isClean = true ↔
      (∀ kind, loader.find disk kind ≠ none) ∧
        fragments.inOrder.Pairwise (fun a b => ¬ a.Collides b) ∧
        ∀ fragment ∈ fragments.inOrder, ∀ key ∈ fragment.keys, ∃ field, Field.name field = key := by
  have hunknown : (ofFragments loader disk fragments).unknownKeys = [] ↔
      ∀ fragment ∈ fragments.inOrder, ∀ key ∈ fragment.keys, ∃ field, Field.name field = key :=
    unknownKeys_compose_eq_nil_iff
  rw [isClean_iff, overlaps_eq_nil_iff h, hunknown]
  exact and_congr_left fun _ => missing_eq_nil_iff h

/-- With a clean report strict mode refuses no key, whether or not all fragments are required. -/
theorem code_ne_unknownField_of_isClean {paths : SchemaPaths} {required : Bool}
    {error : SchemaError} (h : Loader.load ⟨paths, false⟩ disk = .ok fragments)
    (hclean : (ofFragments ⟨paths, false⟩ disk fragments).isClean = true)
    (herror : (Loader.compose ⟨paths, required⟩ disk).bind
      (fun composition => composition.output true) = .error error) :
    error.report.code ≠ .unknownField := by
  obtain ⟨hfind, -, hrecognized⟩ := (isClean_ofFragments_iff h).mp hclean
  -- the same fragments are loaded if they are required
  have hload : Loader.load ⟨paths, required⟩ disk = .ok fragments := by
    cases required with
    | false => exact h
    | true => exact Loader.load_required_eq_ok_iff.mpr ⟨h, hfind⟩
  have hcompose : Loader.compose ⟨paths, required⟩ disk
      = .ok (Composition.compose Defaults.base fragments.inOrder) :=
    Loader.compose_eq_ok_iff.mpr ⟨fragments, hload, rfl⟩
  rw [hcompose] at herror
  have hread := Composition.output_true_eq_error_iff.mp herror
  rcases TypedSchema.ofMapping_eq_error_iff.mp hread with ⟨key, rest, hunknown, -⟩ | ⟨-, hwrong⟩
  · rw [unknownKeys_compose_eq_nil_iff.mpr hrecognized] at hunknown
    cases hunknown
  · obtain ⟨-, -, -, -, ⟨-, -, -, rfl⟩, -⟩ := hwrong
    exact ErrorCode.noConfusion

/-- A check agrees with loading and composing. It fails exactly if loading does, with its error, and
otherwise reports on the fragments that are loaded. Its report is clean exactly if they can be
loaded with all of them required, no two of their bodies have a key in common, and every key of
every body is recognized; then strict mode refuses no key of what is composed. -/
theorem check_agrees_with_loading (paths : SchemaPaths) (disk : Disk) :
    (∀ error, build ⟨paths, false⟩ disk = .error error ↔
      Loader.load ⟨paths, false⟩ disk = .error error) ∧
    ∀ fragments, Loader.load ⟨paths, false⟩ disk = .ok fragments →
      ∃ report, build ⟨paths, false⟩ disk = .ok report ∧
        report.Describes ⟨paths, false⟩ disk fragments ∧
        (report.isClean = true ↔
          ∃ required, Loader.load ⟨paths, true⟩ disk = .ok required ∧
            required.inOrder.Pairwise (fun a b => ¬ a.Collides b) ∧
            ∀ fragment ∈ required.inOrder, ∀ key ∈ fragment.keys,
              key ∈ ["format", "version", "description", "indexes", "params", "queries", "process",
                "models"]) ∧
        (report.isClean = true → ∀ required error,
          (Loader.compose ⟨paths, required⟩ disk).bind
            (fun composition => composition.output true) = .error error →
          error.report.code ≠ .unknownField) := by
  refine ⟨fun error => ?_, fun fragments hload => ?_⟩
  · rw [build_eq, map_eq_error_iff]
  refine ⟨ofFragments ⟨paths, false⟩ disk fragments, ?_, describes_ofFragments hload, ?_, ?_⟩
  · rw [build_eq, hload]
    rfl
  · -- loading all three kinds succeeds exactly if no file is missing, with the same fragments
    rw [isClean_ofFragments_iff hload]
    simp only [exists_name_eq_iff]
    constructor
    · rintro ⟨hfind, hclean⟩
      exact ⟨fragments, Loader.load_required_eq_ok_iff.mpr ⟨hload, hfind⟩, hclean⟩
    · rintro ⟨required, hrequired, hclean⟩
      obtain ⟨hsame, hfind⟩ := Loader.load_required_eq_ok_iff.mp hrequired
      rw [hload] at hsame
      obtain rfl := Except.ok.inj hsame
      exact ⟨hfind, hclean⟩
  · exact fun hclean required error herror => code_ne_unknownField_of_isClean hload hclean herror

/-- A disk with a file of each kind in one directory. -/
def partsDisk (cloud metric tableMapping : String) : Disk where
  workingDirectory := []
  nodes :=
    [(["parts".toList], .directory),
     (["parts".toList, "CloudSchema.json".toList], .file cloud.toUTF8),
     (["parts".toList, "MetricSchema.json".toList], .file metric.toUTF8),
     (["parts".toList, "OneTable.json".toList], .file tableMapping.toUTF8)]

/-- The paths that lead to that directory. -/
def partsPaths : SchemaPaths := { projectDir := some ⟨"parts"⟩, userDir := none }

/-- Two fragments give the version, and the third one has a key that is not recognized. -/
def uncleanDisk : Disk :=
  partsDisk "\x7b\"version\":\"1\"\x7d" "\x7b\"version\":\"2\"\x7d" "\x7b\"extra\":null\x7d"

/-- The fragments are clean, but the version is of the wrong type. -/
def wrongTypeDisk : Disk :=
  partsDisk "\x7b\"version\":1\x7d" "\x7b\x7d" "\x7b\"params\":\x7b\x7d\x7d"

/-- A report that is not clean, and a clean one on fragments that strict mode refuses for a type. -/
theorem check_agrees_with_loading_parts :
    (∃ report, build ⟨partsPaths, false⟩ uncleanDisk = .ok report ∧
      ⟨"version", ["defaults", "cloud", "metric"]⟩ ∈ report.overlaps ∧
      "extra" ∈ report.unknownKeys ∧ report.isClean ≠ true) ∧
    ∃ report error, build ⟨partsPaths, false⟩ wrongTypeDisk = .ok report ∧
      report.isClean = true ∧
      (Loader.compose ⟨partsPaths, true⟩ wrongTypeDisk).bind
        (fun composition => composition.output true) = .error error ∧
      error.report.code ≠ .unknownField := by
  constructor
  · obtain ⟨-, hall⟩ := check_agrees_with_loading partsPaths uncleanDisk
    obtain ⟨report, hbuild, hdescribes, hclean, -⟩ := hall _ rfl
    refine ⟨report, hbuild, (hdescribes.mem_overlaps _).mpr (by decide),
      (hdescribes.mem_unknownKeys _).mpr (by decide), fun h => ?_⟩
    obtain ⟨required, hrequired, hdistinct, -⟩ := hclean.mp h
    cases hrequired
    exact absurd hdistinct (by decide)
  · obtain ⟨-, hall⟩ := check_agrees_with_loading partsPaths wrongTypeDisk
    obtain ⟨report, hbuild, -, hclean, hstrict⟩ := hall _ rfl
    have hreport := hclean.mpr ⟨_, rfl, by decide, by decide⟩
    exact ⟨report, _, hbuild, hreport, rfl, hstrict hreport true _ rfl⟩

end CheckReport

end LayeredSchema
