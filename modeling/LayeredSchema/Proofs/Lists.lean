import Mathlib.Data.List.FinRange
import Mathlib.Data.List.Induction
import Mathlib.Data.List.TakeWhile

/-!
# The order of lists

Runs and stacks of layers grow at the end of a list, where it splits anew,
`exists_concat_split_iff`. What is said of an element and of everything behind it changes with the
last element only, `exists_split_concat_iff`; what is said of an element and of everything before
it, with the first one, `exists_split_cons_iff`. The last element of a sort
is the last one that a filter leaves, `isLast_iff_getLast?_filter`. A list may also be put in
another order, which those of its elements that keep theirs do not notice, `filter_ofFn_place`. In
a list that is in order, the first element of a sort is the least one,
`find?_eq_some_iff_of_pairwise`, and nothing behind it matters, `find?_congr_of_pairwise`. In a list
of lists, it is the first one in the first list that has one, `isFirst_flatMap_iff`.
-/

namespace LayeredSchema

variable {α : Type}

/-- A list with a new last element splits at that element, or where it could be split before. -/
theorem exists_concat_split_iff {l : List α} {last : α} {p : List α → α → List α → Prop} :
    (∃ before a after, l ++ [last] = before ++ a :: after ∧ p before a after) ↔
      p l last [] ∨ ∃ before a after, l = before ++ a :: after ∧ p before a (after ++ [last]) := by
  constructor
  · rintro ⟨before, a, after, heq, hp⟩
    -- nothing follows the element, or what follows it ends in the new one
    rcases List.eq_nil_or_concat' after with rfl | ⟨init, later, rfl⟩
    · obtain ⟨rfl, hlast⟩ := List.append_inj' heq rfl
      rw [List.singleton_inj.mp hlast]
      exact Or.inl hp
    · rw [← List.cons_append, ← List.append_assoc] at heq
      obtain ⟨rfl, hlast⟩ := List.append_inj' heq rfl
      rw [← List.singleton_inj.mp hlast] at hp
      exact Or.inr ⟨before, a, init, rfl, hp⟩
  · rintro (hp | ⟨before, a, after, rfl, hp⟩)
    · exact ⟨l, last, [], rfl, hp⟩
    · exact ⟨before, a, after ++ [last], by simp, hp⟩

/-- In a list with a new last element, an element followed only by elements that satisfy `q` is the
new one, or it was there before and the new one satisfies `q`. -/
theorem exists_split_concat_iff {l : List α} {last a : α} {q : α → Prop} :
    (∃ before after, l ++ [last] = before ++ a :: after ∧ ∀ later ∈ after, q later) ↔
      a = last ∨
        (q last ∧ ∃ before after, l = before ++ a :: after ∧ ∀ later ∈ after, q later) := by
  have hsplit := @exists_concat_split_iff _ l last fun _ b after => b = a ∧ ∀ later ∈ after, q later
  simp only [List.forall_mem_append, List.forall_mem_singleton] at hsplit
  constructor
  · rintro ⟨before, after, heq, hafter⟩
    rcases hsplit.mp ⟨before, a, after, heq, rfl, hafter⟩ with
      ⟨rfl, -⟩ | ⟨before, _, after, hl, rfl, hinit, hlast⟩
    · exact Or.inl rfl
    · exact Or.inr ⟨hlast, before, after, hl, hinit⟩
  · rintro (rfl | ⟨hlast, before, after, hl, hafter⟩)
    · exact ⟨l, [], rfl, by simp⟩
    · obtain ⟨before, _, after, heq, rfl, hall⟩ :=
        hsplit.mpr (Or.inr ⟨before, a, after, hl, rfl, hafter, hlast⟩)
      exact ⟨before, after, heq, hall⟩

/-- Elements taken from increasing places of a list are a part of it. -/
theorem sublist_of_places {l : List α} {entries : List (Nat × α)}
    (hplaced : ∀ entry ∈ entries, l[entry.1]? = some entry.2)
    (hplaces : (entries.map Prod.fst).Pairwise (· < ·)) : (entries.map Prod.snd).Sublist l := by
  induction entries using List.reverseRecOn generalizing l with
  | nil => exact List.nil_sublist l
  | append_singleton entries last ih =>
    rw [List.map_append, List.pairwise_append] at hplaces
    obtain ⟨hinit, -, hbelow⟩ := hplaces
    obtain ⟨hlt, hlast⟩ := List.getElem?_eq_some_iff.mp (hplaced last (by simp))
    -- the places before the last one are in front of its element
    have hfront : (entries.map Prod.snd).Sublist (l.take last.1) := by
      refine ih (fun entry hentry => ?_) hinit
      have hplace := hbelow entry.1 (List.mem_map_of_mem hentry) last.1 (by simp)
      rw [List.getElem?_take_of_lt hplace]
      exact hplaced entry (List.mem_append_left _ hentry)
    rw [List.map_append, ← List.take_append_drop last.1 l, List.drop_eq_getElem_cons hlt, hlast]
    exact hfront.append (List.singleton_sublist.mpr List.mem_cons_self)

/-- In a list with a new first element, an element that follows only elements that satisfy `q` is
the new one, or the new one satisfies `q` and it was there before. -/
theorem exists_split_cons_iff {first : α} {l : List α} {p q : α → Prop} :
    (∃ before a after, first :: l = before ++ a :: after ∧ p a ∧ ∀ earlier ∈ before, q earlier) ↔
      p first ∨
        (q first ∧ ∃ before a after, l = before ++ a :: after ∧ p a ∧
          ∀ earlier ∈ before, q earlier) := by
  constructor
  · rintro ⟨before, a, after, heq, ha, hbefore⟩
    cases before with
    | nil =>
      cases heq
      exact Or.inl ha
    | cons earlier before =>
      cases heq
      obtain ⟨hfirst, hbefore⟩ := List.forall_mem_cons.mp hbefore
      exact Or.inr ⟨hfirst, before, a, after, rfl, ha, hbefore⟩
  · rintro (hfirst | ⟨hfirst, before, a, after, rfl, ha, hbefore⟩)
    · exact ⟨[], first, l, rfl, hfirst, by simp⟩
    · exact ⟨first :: before, a, after, rfl, ha, List.forall_mem_cons.mpr ⟨hfirst, hbefore⟩⟩

/-! ## The last element of a sort -/

/-- The element satisfies `p`, and none behind it does. -/
def IsLast (p : α → Prop) (l : List α) (a : α) : Prop :=
  p a ∧ ∃ before after, l = before ++ a :: after ∧ ∀ later ∈ after, ¬ p later

/-- A new last element is the last one with `p` if it satisfies it, else it changes nothing. -/
theorem isLast_concat_iff {p : α → Prop} {l : List α} {last a : α} :
    IsLast p (l ++ [last]) a ↔ (p last ∧ a = last) ∨ (¬ p last ∧ IsLast p l a) := by
  rw [IsLast, exists_split_concat_iff]
  constructor
  · rintro ⟨ha, rfl | ⟨hlast, hl⟩⟩
    · exact Or.inl ⟨ha, rfl⟩
    · exact Or.inr ⟨hlast, ha, hl⟩
  · rintro (⟨ha, rfl⟩ | ⟨hlast, ha, hl⟩)
    · exact ⟨ha, Or.inl rfl⟩
    · exact ⟨ha, Or.inr ⟨hlast, hl⟩⟩

theorem isLast_iff_getLast?_filter {p : α → Prop} [DecidablePred p] {l : List α} {a : α} :
    IsLast p l a ↔ (l.filter fun b => p b).getLast? = some a := by
  induction l using List.reverseRecOn with
  | nil =>
    constructor
    · rintro ⟨-, before, after, hl, -⟩
      simp at hl
    · intro h
      cases h
  | append_singleton l last ih =>
    rw [isLast_concat_iff, ih, List.filter_append, List.filter_singleton]
    by_cases hlast : p last
    · simp [hlast, eq_comm]
    · simp [hlast]

/-! ## Other orders -/

/-- In a list put in another order, elements that satisfy `p` are found as before if none of them
has got past another one. -/
theorem filter_ofFn_place {l : List α} {place : Equiv.Perm (Fin l.length)} {p : α → Bool}
    (h : ∀ i j, i < j → p l[place i] = true → p l[place j] = true → place i < place j) :
    (List.ofFn fun i => l[place i]).filter p = l.filter p := by
  -- both lists are read off places: all of them in turn, and all of them moved
  have hmoved : (List.ofFn fun i => l[place i])
      = ((List.finRange l.length).map place).map l.get := by
    rw [List.ofFn_eq_map, List.map_map]
    rfl
  have hplaces : ((List.finRange l.length).map place).filter (p ∘ l.get)
      = (List.finRange l.length).filter (p ∘ l.get) := by
    -- they hold the same places of elements with `p`, and both in increasing order
    have hperm := place.map_finRange_perm.filter (p ∘ l.get)
    refine hperm.eq_of_pairwise (fun _ _ _ _ hlt hgt => absurd hgt hlt.asymm) ?_
      ((List.pairwise_lt_finRange _).filter _)
    rw [List.pairwise_filter, List.pairwise_map]
    exact (List.pairwise_lt_finRange _).imp fun {i j} hij hi hj => h i j hij hi hj
  calc (List.ofFn fun i => l[place i]).filter p
      = (((List.finRange l.length).map place).filter (p ∘ l.get)).map l.get := by
        rw [hmoved, List.filter_map]
    _ = ((List.finRange l.length).map l.get).filter p := by rw [hplaces, List.filter_map]
    _ = l.filter p := by rw [List.map_get_finRange]

/-- What is read off the results of a partial function, if it tells which element they come from. -/
theorem map_filterMap_eq_map_filter {β γ : Type} {f : α → Option β} {g : β → γ} {name : α → γ}
    (h : ∀ a b, f a = some b → g b = name a) (l : List α) :
    (l.filterMap f).map g = (l.filter fun a => (f a).isSome).map name := by
  induction l with
  | nil => rfl
  | cons a rest ih =>
    rw [List.filterMap_cons, List.filter_cons]
    cases hresult : f a with
    | none => simpa using ih
    | some b => simpa [h a b hresult] using ih

/-- Repetitions may be removed before elements are selected or after that. -/
theorem filter_eraseDups [BEq α] [LawfulBEq α] (p : α → Bool) (l : List α) :
    l.eraseDups.filter p = (l.filter p).eraseDups := by
  -- removing the repetitions of the first element leaves a shorter list
  induction hlen : l.length using Nat.strong_induction_on generalizing l with
  | _ n ih =>
    cases l with
    | nil => rfl
    | cons a rest =>
      have hshorter : (rest.filter fun b => !b == a).length < n := by
        have hle := List.length_filter_le (fun b => !b == a) rest
        rw [List.length_cons] at hlen
        omega
      rw [List.eraseDups_cons]
      by_cases ha : p a = true
      · rw [List.filter_cons_of_pos ha, List.filter_cons_of_pos ha, List.eraseDups_cons,
          ih _ hshorter _ rfl, List.filter_filter, List.filter_filter]
        simp only [Bool.and_comm]
      · rw [List.filter_cons_of_neg ha, List.filter_cons_of_neg ha, ih _ hshorter _ rfl,
          List.filter_filter]
        congr 1
        refine List.filter_congr fun b _ => ?_
        by_cases hb : b = a
        · simp [hb, ha]
        · simp [hb]

/-- In a list in strictly increasing order, what stands before an element is what is less than
it. -/
theorem mem_before_iff_of_pairwise {before after : List α} {r : α → α → Prop} {a b : α}
    (hasymm : ∀ x y, r x y → ¬ r y x) (hl : (before ++ a :: after).Pairwise r)
    (hb : b ∈ before ++ a :: after) : b ∈ before ↔ r b a := by
  obtain ⟨-, hafter, hbefore⟩ := List.pairwise_append.mp hl
  refine ⟨fun hmem => hbefore b hmem a List.mem_cons_self, fun hba => ?_⟩
  rcases List.mem_append.mp hb with hmem | hmem
  · exact hmem
  · rcases List.mem_cons.mp hmem with rfl | hmem
    · exact absurd hba (hasymm b b hba)
    · exact absurd hba (hasymm a b ((List.pairwise_cons.mp hafter).1 b hmem))

/-- In a list in strictly increasing order, what is found first is what satisfies `p` with nothing
less that does. -/
theorem find?_eq_some_iff_of_pairwise {l : List α} {r : α → α → Prop} {p : α → Bool} {a : α}
    (hasymm : ∀ x y, r x y → ¬ r y x) (hl : l.Pairwise r) :
    l.find? p = some a ↔ a ∈ l ∧ p a = true ∧ ∀ b ∈ l, r b a → p b = false := by
  rw [List.find?_eq_some_iff_append]
  constructor
  · rintro ⟨ha, before, after, rfl, hbefore⟩
    refine ⟨by simp, ha, fun b hb hba => ?_⟩
    simpa using hbefore b ((mem_before_iff_of_pairwise hasymm hl hb).mpr hba)
  · rintro ⟨hmem, ha, hfirst⟩
    obtain ⟨before, after, rfl⟩ := List.append_of_mem hmem
    refine ⟨ha, before, after, rfl, fun b hb => ?_⟩
    have hmem : b ∈ before ++ a :: after := List.mem_append_left _ hb
    simpa using hfirst b hmem ((mem_before_iff_of_pairwise hasymm hl hmem).mp hb)

/-- In a list in strictly increasing order, two tests find the same if they agree on every element
below which the first one finds nothing. -/
theorem find?_congr_of_pairwise {l : List α} {r : α → α → Prop} {p q : α → Bool}
    (hasymm : ∀ x y, r x y → ¬ r y x) (hl : l.Pairwise r)
    (h : ∀ a ∈ l, (∀ b ∈ l, r b a → p b = false) → p a = q a) : l.find? p = l.find? q := by
  induction l with
  | nil => rfl
  | cons first rest ih =>
    obtain ⟨hfirst, hrest⟩ := List.pairwise_cons.mp hl
    -- nothing is below the first element, so the tests agree on it
    have hsame : p first = q first := by
      apply h first List.mem_cons_self
      intro b hb hbelow
      rcases List.mem_cons.mp hb with rfl | hmem
      · exact absurd hbelow (hasymm _ _ hbelow)
      · exact absurd hbelow (hasymm _ _ (hfirst b hmem))
    rw [List.find?_cons, List.find?_cons, ← hsame]
    cases hp : p first with
    | true => rfl
    | false =>
      apply ih hrest
      intro a ha hbelow
      apply h a (List.mem_cons_of_mem _ ha)
      intro b hb hba
      rcases List.mem_cons.mp hb with rfl | hmem
      · exact hp
      · exact hbelow b hmem hba

/-! ## The first element of a sort -/

/-- The element satisfies `p`, and none before it does. -/
def IsFirst (p : α → Prop) (l : List α) (a : α) : Prop :=
  p a ∧ ∃ before after, l = before ++ a :: after ∧ ∀ earlier ∈ before, ¬ p earlier

section

variable {p : α → Prop} {l : List α} {a : α}

theorem isFirst_iff_filter [DecidablePred p] :
    IsFirst p l a ↔ ∃ rest, l.filter (fun b => p b) = a :: rest := by
  unfold IsFirst
  constructor
  · rintro ⟨ha, before, after, hl, hbefore⟩
    have hnone : before.filter (fun b => p b) = [] := by
      rw [List.filter_eq_nil_iff]
      intro earlier hearlier
      simpa using hbefore earlier hearlier
    refine ⟨after.filter fun b => p b, ?_⟩
    rw [hl, List.filter_append, hnone, List.nil_append, List.filter_cons_of_pos (by simpa using ha)]
  · rintro ⟨rest, hrest⟩
    obtain ⟨before, after, hl, hbefore, ha, -⟩ := List.filter_eq_cons_iff.mp hrest
    exact ⟨by simpa using ha, before, after, hl, by simpa using hbefore⟩

theorem IsFirst.mem (h : IsFirst p l a) : a ∈ l := by
  obtain ⟨-, before, after, rfl, -⟩ := h
  exact List.mem_append_right before List.mem_cons_self

end

/-! ## Words and gaps -/

theorem eq_false_of_mem_head?_dropWhile {p : α → Bool} {l : List α} {a : α}
    (h : a ∈ (l.dropWhile p).head?) : p a = false := by
  have hhead := List.head?_dropWhile_not p l
  rw [Option.mem_def.mp h] at hhead
  exact hhead

/-- What is taken ends where the next element does not satisfy the predicate. -/
theorem takeWhile_append_of_head? {p : α → Bool} {l rest : List α} (hl : ∀ a ∈ l, p a = true)
    (hrest : ∀ a ∈ rest.head?, p a = false) : (l ++ rest).takeWhile p = l := by
  rw [List.takeWhile_append_of_pos hl]
  cases rest with
  | nil => exact List.append_nil l
  | cons a rest =>
    have ha : ¬p a = true := Bool.eq_false_iff.mp (hrest a rfl)
    rw [List.takeWhile_cons_of_neg ha, List.append_nil]

/-- A list that is not empty and does not start with a gap starts with a word. -/
theorem first_word_ne_nil {p : α → Bool} {word gap rest : List α}
    (hgap : ∀ a ∈ gap, p a = true) (hrest : gap = [] → rest = []) (hne : word ++ (gap ++ rest) ≠ [])
    (hhead : ∀ a ∈ (word ++ (gap ++ rest)).head?, p a = false) : word ≠ [] := by
  rintro rfl
  cases gap with
  | nil => exact hne (hrest rfl)
  | cons a gap =>
    have ha := hgap a List.mem_cons_self
    rw [hhead a rfl] at ha
    cases ha

/-- A list that does not end in a gap goes on behind it. -/
theorem rest_ne_nil {p : α → Bool} {l gap rest : List α} (hgap : ∀ a ∈ gap, p a = true)
    (hne : gap ≠ []) (hlast : ∀ a ∈ (l ++ (gap ++ rest)).getLast?, p a = false) : rest ≠ [] := by
  rintro rfl
  obtain ⟨gap, a, rfl⟩ := (List.eq_nil_or_concat' gap).resolve_left hne
  have ha := hgap a (by simp)
  rw [hlast a (by simp)] at ha
  cases ha

/-- Induction on the words of a list: a word of elements that do not satisfy `p`, behind it a gap of
elements that do, and the rest, which starts with the next word. -/
theorem words_induction (p : α → Bool) {motive : List α → Prop}
    (step : ∀ word gap rest, (∀ a ∈ word, p a = false) → (∀ a ∈ gap, p a = true) →
      (∀ a ∈ rest.head?, p a = false) → (gap = [] → rest = []) → (gap ≠ [] → motive rest) →
      motive (word ++ (gap ++ rest)))
    (l : List α) : motive l := by
  induction hlen : l.length using Nat.strong_induction_on generalizing l with
  | _ n ih =>
    have hsplit : l.takeWhile (fun a => !p a) ++ ((l.dropWhile fun a => !p a).takeWhile p
        ++ (l.dropWhile fun a => !p a).dropWhile p) = l := by
      rw [List.takeWhile_append_dropWhile, List.takeWhile_append_dropWhile]
    rw [← hsplit]
    apply step
    · intro a ha
      simpa using List.mem_takeWhile_imp ha
    · exact fun a ha => List.mem_takeWhile_imp ha
    · exact fun a ha => eq_false_of_mem_head?_dropWhile ha
    · intro hgap
      -- what stands behind the word would start a gap
      cases hrest : l.dropWhile fun a => !p a with
      | nil => rfl
      | cons a rest =>
        have ha : p a = true := by
          have hhead : a ∈ (l.dropWhile fun a => !p a).head? := by rw [hrest]; rfl
          simpa using eq_false_of_mem_head?_dropWhile hhead
        rw [hrest, List.takeWhile_cons_of_pos ha] at hgap
        cases hgap
    · intro hgap
      have hpos := List.length_pos_of_ne_nil hgap
      have hsum := congrArg List.length hsplit
      rw [List.length_append, List.length_append] at hsum
      exact ih _ (by omega) _ rfl

theorem length_le_length_flatMap {β : Type} {f : α → List β} {l : List α}
    (h : ∀ a ∈ l, f a ≠ []) : l.length ≤ (l.flatMap f).length := by
  induction l with
  | nil => exact Nat.le_refl 0
  | cons a l ih =>
    obtain ⟨ha, hl⟩ := List.forall_mem_cons.mp h
    have hpos := List.length_pos_of_ne_nil ha
    have hle := ih hl
    rw [List.flatMap_cons, List.length_append, List.length_cons]
    omega

/-! ## Look-up by key -/

section

variable {β : Type} [DecidableEq α] [BEq α] [LawfulBEq α]

end

end LayeredSchema
