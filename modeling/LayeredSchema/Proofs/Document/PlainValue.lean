import LayeredSchema.Document.Value
import LayeredSchema.Number.Power

/-!
# Plain values

The values that both output formats can be asked to keep as they are: no doubles, integers that have
64 bits with or without a sign, and objects whose keys are distinct.
-/

namespace LayeredSchema

namespace Value

/-- A value of nulls, booleans, integers from `-2^63` to `2^64 - 1`, strings, arrays and objects
with distinct keys, with at most `depth` arrays and objects inside one another. -/
inductive Plain : Nat → Value → Prop where
  | null {depth : Nat} : Plain depth .null
  | bool {depth : Nat} (b : Bool) : Plain depth (.bool b)
  | int {depth : Nat} {n : Int} (hlow : -(twoPow 63 : Int) ≤ n) (hhigh : n < twoPow 64) :
      Plain depth (.int n)
  | string {depth : Nat} (s : String) : Plain depth (.string s)
  | array {depth : Nat} {items : List Value} (hitems : ∀ v ∈ items, Plain depth v) :
      Plain (depth + 1) (.array items)
  | object {depth : Nat} {members : List (String × Value)} (hkeys : (members.map Prod.fst).Nodup)
      (hmembers : ∀ m ∈ members, Plain depth m.2) : Plain (depth + 1) (.object members)

/-- A value with fewer collections inside one another is plain at any greater depth. -/
theorem Plain.mono {depth depth' : Nat} {v : Value} (h : v.Plain depth) (hle : depth ≤ depth') :
    v.Plain depth' := by
  induction h generalizing depth' with
  | null => exact .null
  | bool b => exact .bool b
  | int hlow hhigh => exact .int hlow hhigh
  | string s => exact .string s
  | array _ ih =>
    obtain ⟨depth', rfl⟩ := Nat.exists_eq_add_of_le' (Nat.le_of_add_left_le hle)
    exact .array fun v hv => ih v hv (Nat.le_of_succ_le_succ hle)
  | object hkeys _ ih =>
    obtain ⟨depth', rfl⟩ := Nat.exists_eq_add_of_le' (Nat.le_of_add_left_le hle)
    exact .object hkeys fun m hm => ih m hm (Nat.le_of_succ_le_succ hle)

end Value

theorem fitsEither_of_bounds {bits : Nat} {n : Int} (hlow : -(twoPow bits : Int) ≤ n)
    (hhigh : n < twoPow (bits + 1)) : fitsEither bits n = true := by
  unfold fitsEither
  rw [Bool.and_eq_true, decide_eq_true_eq, decide_eq_true_eq]
  exact ⟨hlow, hhigh⟩

end LayeredSchema
