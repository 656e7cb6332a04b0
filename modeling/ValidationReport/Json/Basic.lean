import ValidationReport.Number.Binary64

/-!
# JSON values

Numbers are kept as written: a number with a point or an exponent is a floating point number, any
other an integer of unlimited size.  Members of an object have distinct keys, in the order in which
the keys first appeared.

## Main definitions

* `Json` — a value.
* `Object` — the members of an object, with `Object.get?` and `Object.insert`.
* `Json.same` — equality of values, which can be computed.
* `Json.isPlain` — a value that can be sent: finite numbers and well-formed text throughout.
-/

namespace ValidationReport

/-- A JSON value. -/
inductive Json where
  | null
  | bool (b : Bool)
  | int (i : Int)
  | float (x : Binary64)
  | str (t : Text)
  | arr (items : List Json)
  | obj (members : List (Text × Json))
  deriving Inhabited

abbrev Object := List (Text × Json)

namespace Object

def get? (key : Text) (o : Object) : Option Json := o.lookup key

/-- The members with a value for a key: in place of the one before, or at the end. -/
def insert (key : Text) (value : Json) : Object → Object
  | [] => [(key, value)]
  | (k, v) :: rest => if k = key then (k, value) :: rest else (k, v) :: insert key value rest

@[simp] theorem get?_nil (key : Text) : get? key [] = none := rfl

@[simp] theorem get?_insert_self (key : Text) (value : Json) (o : Object) :
    get? key (insert key value o) = some value := by
  induction o with
  | nil => simp [insert, get?]
  | cons m rest ih =>
    obtain ⟨k, v⟩ := m
    by_cases h : k = key
    · simp [insert, get?, h]
    · have h' : (key == k) = false := by simp [Ne.symm h]
      simpa [insert, get?, h, List.lookup_cons, h'] using ih

theorem get?_insert_of_ne {key key' : Text} (h : key' ≠ key) (value : Json) (o : Object) :
    get? key' (insert key value o) = get? key' o := by
  induction o with
  | nil =>
    have h' : (key' == key) = false := by simp [h]
    simp [insert, get?, List.lookup_cons, h']
  | cons m rest ih =>
    obtain ⟨k, v⟩ := m
    by_cases hk : k = key
    · subst hk
      have h' : (key' == k) = false := by simp [h]
      simp [insert, get?, List.lookup_cons, h']
    · simp only [insert, hk, ↓reduceIte, get?, List.lookup_cons]
      cases hb : key' == k
      · exact ih
      · rfl

end Object

namespace Json

/-- The text of a string, and null for no text. -/
def optional (t : Option Text) : Json := t.elim .null .str

/-! ### Equality -/

mutual

/-- The same value. -/
def same : Json → Json → Bool
  | .null, .null => true
  | .bool a, .bool b => a == b
  | .int a, .int b => a == b
  | .float a, .float b => a == b
  | .str a, .str b => a == b
  | .arr a, .arr b => sameItems a b
  | .obj a, .obj b => sameMembers a b
  | _, _ => false

/-- The same items in the same order. -/
def sameItems : List Json → List Json → Bool
  | [], [] => true
  | a :: as, b :: bs => a.same b && sameItems as bs
  | _, _ => false

/-- The same members in the same order. -/
def sameMembers : List (Text × Json) → List (Text × Json) → Bool
  | [], [] => true
  | (k, a) :: as, (l, b) :: bs => k == l && a.same b && sameMembers as bs
  | _, _ => false

end

mutual

theorem same_iff : ∀ a b : Json, a.same b = true ↔ a = b
  | .null, b => by cases b <;> simp [same]
  | .bool _, b => by cases b <;> simp [same]
  | .int _, b => by cases b <;> simp [same]
  | .float _, b => by cases b <;> simp [same]
  | .str _, b => by cases b <;> simp [same]
  | .arr items, b => by cases b <;> simp [same, sameItems_iff items]
  | .obj members, b => by cases b <;> simp [same, sameMembers_iff members]

theorem sameItems_iff : ∀ as bs : List Json, sameItems as bs = true ↔ as = bs
  | [], bs => by cases bs <;> simp [sameItems]
  | _ :: _, [] => by simp [sameItems]
  | a :: as, b :: bs => by simp [sameItems, same_iff a b, sameItems_iff as bs]

theorem sameMembers_iff : ∀ as bs : List (Text × Json), sameMembers as bs = true ↔ as = bs
  | [], bs => by cases bs <;> simp [sameMembers]
  | (_, _) :: _, [] => by simp [sameMembers]
  | (k, a) :: as, (l, b) :: bs => by
    simp [sameMembers, same_iff a b, sameMembers_iff as bs, and_assoc]

end

instance : DecidableEq Json := fun a b => decidable_of_iff (a.same b = true) (same_iff a b)

/-! ### Values that can be sent -/

mutual

/-- Finite numbers and well-formed text throughout. -/
def isPlain : Json → Bool
  | .null => true
  | .bool _ => true
  | .int _ => true
  | .float x => x.isFinite
  | .str t => t.isWellFormed
  | .arr items => arePlain items
  | .obj members => membersArePlain members

/-- Finite numbers and well-formed text in every item. -/
def arePlain : List Json → Bool
  | [] => true
  | j :: rest => j.isPlain && arePlain rest

/-- Finite numbers and well-formed text in every member. -/
def membersArePlain : List (Text × Json) → Bool
  | [] => true
  | (k, v) :: rest => k.isWellFormed && v.isPlain && membersArePlain rest

end

end Json

end ValidationReport
