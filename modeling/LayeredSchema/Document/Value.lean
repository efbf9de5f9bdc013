import LayeredSchema.Document.OrderedMap
import LayeredSchema.Number.Binary64

/-!
# Document values

The values that JSON, JSON5 and YAML texts denote. Members of an object are kept in the order of
the text; readers hand them over with distinct keys.
-/

namespace LayeredSchema

/-- A value of a schema document. Integers keep their integrality; all other numbers are doubles. -/
inductive Value where
  | null
  | bool (b : Bool)
  | int (n : Int)
  | float (x : Binary64)
  | string (s : String)
  | array (items : List Value)
  | object (members : List (String × Value))
  deriving Inhabited

namespace Value

/-! ## Equality -/

mutual

/-- Whether two values are equal, member order included. -/
def same : Value → Value → Bool
  | null, null => true
  | bool a, bool b => a = b
  | int a, int b => a = b
  | float a, float b => a = b
  | string a, string b => a = b
  | array a, array b => sameItems a b
  | object a, object b => sameMembers a b
  | _, _ => false

/-- Whether two lists of values are equal. -/
def sameItems : List Value → List Value → Bool
  | [], [] => true
  | a :: as, b :: bs => same a b && sameItems as bs
  | _, _ => false

/-- Whether two lists of members are equal. -/
def sameMembers : List (String × Value) → List (String × Value) → Bool
  | [], [] => true
  | (k, a) :: as, (l, b) :: bs => decide (k = l) && same a b && sameMembers as bs
  | _, _ => false

end

mutual

theorem eq_of_same : ∀ {a b : Value}, same a b = true → a = b
  | null, b, h => by cases b <;> simp [same] at h ⊢
  | bool _, b, h => by cases b <;> simp [same] at h ⊢; exact h
  | int _, b, h => by cases b <;> simp [same] at h ⊢; exact h
  | float _, b, h => by cases b <;> simp [same] at h ⊢; exact h
  | string _, b, h => by cases b <;> simp [same] at h ⊢; exact h
  | array _, b, h => by
    cases b <;> simp only [same, Bool.false_eq_true] at h
    exact congrArg array (eq_of_sameItems h)
  | object _, b, h => by
    cases b <;> simp only [same, Bool.false_eq_true] at h
    exact congrArg object (eq_of_sameMembers h)

theorem eq_of_sameItems : ∀ {as bs : List Value}, sameItems as bs = true → as = bs
  | [], bs, h => by cases bs <;> simp [sameItems] at h ⊢
  | a :: as, bs, h => by
    cases bs <;> simp only [sameItems, Bool.and_eq_true, Bool.false_eq_true] at h
    rw [eq_of_same h.1, eq_of_sameItems h.2]

theorem eq_of_sameMembers :
    ∀ {as bs : List (String × Value)}, sameMembers as bs = true → as = bs
  | [], bs, h => by cases bs <;> simp [sameMembers] at h ⊢
  | (k, a) :: as, bs, h => by
    cases bs with
    | nil => simp [sameMembers] at h
    | cons b bs =>
      simp only [sameMembers, Bool.and_eq_true, decide_eq_true_eq] at h
      rw [h.1.1, eq_of_same h.1.2, eq_of_sameMembers h.2]

end

mutual

theorem same_self : ∀ a : Value, same a a = true
  | null => rfl
  | bool _ => by simp [same]
  | int _ => by simp [same]
  | float _ => by simp [same]
  | string _ => by simp [same]
  | array items => by rw [same]; exact sameItems_self items
  | object members => by rw [same]; exact sameMembers_self members

theorem sameItems_self : ∀ as : List Value, sameItems as as = true
  | [] => rfl
  | a :: as => by rw [sameItems, same_self a, sameItems_self as]; rfl

theorem sameMembers_self : ∀ as : List (String × Value), sameMembers as as = true
  | [] => rfl
  | (k, a) :: as => by rw [sameMembers, same_self a, sameMembers_self as]; simp

end

instance : DecidableEq Value := fun a b =>
  decidable_of_iff (same a b = true) ⟨eq_of_same, fun h => h ▸ same_self a⟩

/-! ## Views -/

/-- The kind of a value, with its article, for messages. -/
def kindName : Value → String
  | null => "null"
  | bool _ => "a boolean"
  | int _ => "a number"
  | float _ => "a number"
  | string _ => "a string"
  | array _ => "an array"
  | object _ => "a mapping"

end Value

/-- A mapping from keys to values, the form of a whole schema and of each of its layers. -/
abbrev Mapping := OrderedMap Value

namespace Value

/-- The mapping that an object denotes. -/
def mapping? : Value → Option Mapping
  | object members => some (OrderedMap.ofList members)
  | _ => none

/-- A mapping as a value. -/
def ofMapping (m : Mapping) : Value :=
  object m.entries

end Value

end LayeredSchema
