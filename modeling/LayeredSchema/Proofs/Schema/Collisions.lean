import LayeredSchema.Proofs.Schema.Reordering

/-!
# The report of collisions

Overlaps between fragments are told from those with the base by the names of the writers: a writer
that has the name of the base layer is taken for the base. A key is reported exactly if two holders
of it have other names, `mem_keys_fragmentOverlaps`. Where that is all there is to a collision, an
empty report means that no two fragments collide, and then their order is inert.
-/

namespace LayeredSchema

/-- A key that at most one fragment holds has the same holders in any order of the fragments. -/
theorem holders_eq_of_perm {fragments others : List Fragment} {key : String}
    (hperm : others.Perm fragments) (h : ¬ 2 ≤ (holders fragments key).length) :
    holders others key = holders fragments key := by
  have hholders : (holders others key).Perm (holders fragments key) := hperm.filter _
  match hlist : holders fragments key with
  | [] =>
    rw [hlist] at hholders
    exact hholders.eq_nil
  | [fragment] =>
    rw [hlist] at hholders
    exact hholders.eq_singleton
  | _ :: _ :: _ =>
    rw [hlist] at h
    simp at h

/-- Where no fragment has the name of the base layer, all holders of a key count. -/
theorem countP_holders {fragments : List Fragment}
    (h : ∀ fragment ∈ fragments, fragment.name ≠ "defaults") (key : String) :
    (holders fragments key).countP (fun fragment => fragment.name ≠ "defaults")
      = (holders fragments key).length := by
  rw [List.countP_eq_length]
  intro fragment hfragment
  exact decide_eq_true (h fragment (List.mem_of_mem_filter hfragment))

theorem two_le_countP_holders {fragments : List Fragment}
    (h : ∀ fragment ∈ fragments, fragment.name ≠ "defaults") (key : String)
    (hlen : 2 ≤ (holders fragments key).length) :
    2 ≤ (holders fragments key).countP fun fragment => fragment.name ≠ "defaults" := by
  rw [countP_holders h]
  exact hlen

theorem holders_cons (first : Fragment) (rest : List Fragment) (key : String) :
    holders (first :: rest) key
      = if key ∈ first.keys then first :: holders rest key else holders rest key := by
  by_cases hkey : key ∈ first.keys <;> simp [holders, hkey]

/-- No two fragments collide exactly if every key has one holder at most. -/
theorem pairwise_not_collides_iff {fragments : List Fragment} :
    fragments.Pairwise (fun a b => ¬ a.Collides b) ↔
      ∀ key, (holders fragments key).length ≤ 1 := by
  induction fragments with
  | nil => simp [holders]
  | cons first rest ih =>
    rw [List.pairwise_cons, ih]
    constructor
    · rintro ⟨hfirst, hrest⟩ key
      rw [holders_cons]
      split_ifs with hkey
      · -- nothing behind the first fragment holds a key of it
        have hnone : holders rest key = [] := by
          rw [holders, List.filter_eq_nil_iff]
          intro other hother hmem
          exact hfirst other hother ⟨key, hkey, of_decide_eq_true hmem⟩
        rw [hnone, List.length_singleton]
      · exact hrest key
    · intro h
      refine ⟨?_, fun key => ?_⟩
      · -- a second holder of the key would be one too many
        rintro other hother ⟨key, hkey, hmem⟩
        have hholder : other ∈ holders rest key :=
          List.mem_filter.mpr ⟨hother, decide_eq_true hmem⟩
        have hpos := List.length_pos_of_mem hholder
        have hle := h key
        rw [holders_cons, if_pos hkey, List.length_cons] at hle
        omega
      · have hle := h key
        rw [holders_cons] at hle
        split_ifs at hle with hkey
        · rw [List.length_cons] at hle
          omega
        · exact hle

namespace Composition

/-- The overlaps are the keys with two writers or more, each with all of them. -/
theorem Records.mem_overlaps_iff {layers : List Fragment} {composition : Composition}
    (h : Records layers composition) {overlap : Overlap} :
    overlap ∈ composition.overlaps ↔
      overlap.layers = writersOf layers overlap.key ∧ 1 < overlap.layers.length := by
  rw [mem_overlaps]
  refine and_congr_left fun hlen => ?_
  rw [← h.writers overlap.key]
  cases composition.writers.get? overlap.key with
  | none =>
    -- a key without a history is no overlap
    constructor
    · intro hnone
      cases hnone
    · intro hnil
      rw [hnil] at hlen
      exact absurd hlen (by simp)
  | some names =>
    rw [Option.getD_some, Option.some_inj, eq_comm]

/-- Of the writers of a key those are counted as fragments that do not have the name of the base
layer. -/
theorem fragmentWriters_writersOf (base : Mapping) (fragments : List Fragment) (key : String) :
    Overlap.fragmentWriters ⟨key, writersOf (layers base fragments) key⟩
      = (holders fragments key).countP fun fragment => fragment.name ≠ "defaults" := by
  have hbase : (if key ∈ base.keys then ["defaults"] else []).filter
      (fun name => decide (name ≠ "defaults")) = [] := by
    split_ifs <;> simp
  have hname : Defaults.layerName = "defaults" := rfl
  rw [Overlap.fragmentWriters, writersOf_layers, hname, List.filter_append, hbase, List.nil_append,
    List.filter_map, List.length_map, List.countP_eq_length_filter]
  rfl

theorem length_holders_le_writersOf (base : Mapping) (fragments : List Fragment) (key : String) :
    (holders fragments key).length ≤ (writersOf (layers base fragments) key).length := by
  rw [writersOf_eq_map_holders, List.length_map]
  exact ((List.sublist_cons_self _ _).filter _).length_le

/-- An overlap is reported with all writers of its key, if two of the holders have names other than
that of the base layer. -/
theorem mem_fragmentOverlaps_iff (base : Mapping) (fragments : List Fragment) {overlap : Overlap} :
    overlap ∈ (compose base fragments).fragmentOverlaps ↔
      overlap.layers = writersOf (layers base fragments) overlap.key ∧
        2 ≤ (holders fragments overlap.key).countP fun fragment => fragment.name ≠ "defaults" := by
  obtain ⟨key, names⟩ := overlap
  rw [fragmentOverlaps, List.mem_filter, decide_eq_true_iff,
    (records_compose base fragments).mem_overlaps_iff, and_assoc]
  refine and_congr_right fun hnames => ?_
  dsimp only at hnames ⊢
  rw [hnames, fragmentWriters_writersOf]
  refine ⟨And.right, fun hcount => ⟨?_, hcount⟩⟩
  -- two fragments that hold the key are two writers, which makes the key an overlap
  have hholders : (holders fragments key).countP (fun fragment => fragment.name ≠ "defaults")
      ≤ (holders fragments key).length := List.countP_le_length
  have hwriters := length_holders_le_writersOf base fragments key
  omega

/-- A key is reported if two of its holders have names other than that of the base layer. -/
theorem mem_keys_fragmentOverlaps (base : Mapping) (fragments : List Fragment) (key : String) :
    key ∈ (compose base fragments).fragmentOverlaps.map Overlap.key ↔
      2 ≤ (holders fragments key).countP fun fragment => fragment.name ≠ "defaults" := by
  rw [List.mem_map]
  constructor
  · rintro ⟨overlap, hoverlap, rfl⟩
    exact ((mem_fragmentOverlaps_iff base fragments).mp hoverlap).2
  · intro hcount
    exact ⟨⟨key, writersOf (layers base fragments) key⟩,
      (mem_fragmentOverlaps_iff base fragments).mpr ⟨rfl, hcount⟩, rfl⟩

theorem nodup_keys_fragmentOverlaps (composition : Composition) :
    (composition.fragmentOverlaps.map Overlap.key).Nodup :=
  (nodup_keys_overlaps composition).sublist (List.filter_sublist.map Overlap.key)

/-- The report has one entry for each key that two fragments hold under names other than that of the
base layer, and no other entry. So it is complete if there are two such fragments wherever there are
two at all; and if it is empty then, any order of the fragments gives every key the same value. -/
theorem collisions_reported (base : Mapping) (fragments : List Fragment) :
    ((compose base fragments).fragmentOverlaps.map Overlap.key).Nodup ∧
    (∀ key, key ∈ (compose base fragments).fragmentOverlaps.map Overlap.key ↔
      2 ≤ (holders fragments key).countP fun fragment => fragment.name ≠ "defaults") ∧
    ((∀ key, 2 ≤ (holders fragments key).length →
        2 ≤ (holders fragments key).countP fun fragment => fragment.name ≠ "defaults") →
      (∀ key, key ∈ (compose base fragments).fragmentOverlaps.map Overlap.key ↔
        2 ≤ (holders fragments key).length) ∧
      ((compose base fragments).fragmentOverlaps = [] → ∀ others, others.Perm fragments →
        ∀ key, (compose base others).get? key = (compose base fragments).get? key)) := by
  refine ⟨nodup_keys_fragmentOverlaps _, mem_keys_fragmentOverlaps base fragments, ?_⟩
  intro hnamed
  have hcomplete (key : String) :
      key ∈ (compose base fragments).fragmentOverlaps.map Overlap.key ↔
        2 ≤ (holders fragments key).length := by
    rw [mem_keys_fragmentOverlaps]
    exact ⟨fun h => h.trans List.countP_le_length, hnamed key⟩
  refine ⟨hcomplete, fun hempty others hperm key => ?_⟩
  have hsingle : ¬ 2 ≤ (holders fragments key).length := by
    rw [← hcomplete key, hempty]
    exact List.not_mem_nil
  exact get?_compose_congr base (holders_eq_of_perm hperm hsingle)

/-- A report with an entry, and an empty one for the first two of the same fragments, which may then
change places. -/
theorem collisions_reported_twoVersions :
    (∀ fragment ∈ twoVersions, fragment.name ≠ "defaults") ∧
    "version" ∈ (compose .empty twoVersions).fragmentOverlaps.map Overlap.key ∧
    (compose .empty (twoVersions.take 2)).fragmentOverlaps = [] ∧
    ∀ key, (compose .empty (twoVersions.take 2).reverse).get? key
      = (compose .empty (twoVersions.take 2)).get? key := by
  have hnames : ∀ fragment ∈ twoVersions, fragment.name ≠ "defaults" := by decide
  have htwo : ∀ fragment ∈ twoVersions.take 2, fragment.name ≠ "defaults" := by decide
  have hempty : (compose .empty (twoVersions.take 2)).fragmentOverlaps = [] := by
    have hentries : ((compose .empty (twoVersions.take 2)).writers.entries.filter
        fun entry => 1 < entry.2.length) = [] := by decide
    rw [fragmentOverlaps, overlaps, hentries, List.map_nil, List.mergeSort_nil, List.filter_nil]
  obtain ⟨-, -, hall⟩ := collisions_reported .empty twoVersions
  obtain ⟨-, -, hfirst⟩ := collisions_reported .empty (twoVersions.take 2)
  refine ⟨hnames, ?_, hempty, ?_⟩
  · rw [(hall (two_le_countP_holders hnames)).1]
    decide
  · exact (hfirst (two_le_countP_holders htwo)).2 hempty _ (List.reverse_perm _)

/-- Two fragments that give the version different values, the first one named as the base is. -/
def namesakeOfBase : List Fragment :=
  [{ name := "defaults", body := .ofList [("version", .string "1")] },
   { name := "cloud", body := .ofList [("version", .string "2")] }]

/-- The report says nothing of a key that two fragments hold if one of them has the name of the base
layer, though its value hangs on their order. -/
theorem collision_hidden_by_name :
    2 ≤ (holders namesakeOfBase "version").length ∧
    (compose .empty namesakeOfBase).fragmentOverlaps = [] ∧
    namesakeOfBase.reverse.Perm namesakeOfBase ∧
    (compose .empty namesakeOfBase).get? "version" = some (.string "2") ∧
    (compose .empty namesakeOfBase.reverse).get? "version" = some (.string "1") := by
  refine ⟨by decide, ?_, List.reverse_perm _, rfl, rfl⟩
  have hentries : ((compose .empty namesakeOfBase).writers.entries.filter
      fun entry => 1 < entry.2.length) = [("version", ["defaults", "cloud"])] := by decide
  rw [fragmentOverlaps, overlaps, hentries, List.map_singleton, List.mergeSort_singleton]
  decide

end Composition

end LayeredSchema
