import Mathlib.Data.List.Pairwise
import Mathlib.Logic.Relation
import ValidationReport.Proofs.NormalForm
import ValidationReport.Proofs.Unreadable

/-!
# The spelling of names

A field goes by two names, and an engine may use either one, in every record anew.  Nothing hangs on
the choice: two objects of facts from which the same fields can be told are read alike, or refused
alike.  That the same fields can be told is said without a reader, by single edits: a name is spelt
the other way, a member is added that is no field or that is overruled, members change places, or a
value inside is edited.

The names in an object are not all names of fields.  Keys of the simple report and all that is in
the engine's own data are data; no edit touches them, and they are found again as they were.

## Main definitions

* `Shape` — where in a value there are names of fields.
* `Issue.shape` and the like — the shapes of the records of facts.
* `Shape.Edit` — one edit of a value that leaves every field what it was.
* `Shape.Alike` — any number of edits, in either direction.
* `Blind` — a reader to which edits make no difference.
* `Payload.Carries` — the object of facts that a payload carries.

## Main results

* `Shape.Edit.sameField` — **an edit of a record leaves every field what it was, or edits its
  value.**
* `blind_record`, `Blind.list`, `Blind.table` — readers of records, arrays and tables are blind if
  those of their parts are.
* `load_alike` — **objects that differ in the spelling of their names are read as the same facts, or
  both refused, and names that are data stay as they are.**
-/

namespace ValidationReport

/-! ### Shapes -/

/-- Where in a value there are names of fields. -/
inductive Shape where
  /-- Nowhere: the value is data throughout. -/
  | data
  /-- The keys of the object are names of fields, and there may be names in these. -/
  | record (fields : List (Text × Shape))
  /-- In the items of the array. -/
  | items (item : Shape)
  /-- In the values of the object, whose own keys are data. -/
  | table (value : Shape)

def Issue.fields : List (Text × Shape) := [("message", .data), ("code", .data)]

def TimestampFacts.fields : List (Text × Shape) := [
  ("certificate", .data), ("creation_time", .data), ("message_imprint", .data)]

def RevocationFacts.fields : List (Text × Shape) := [
  ("certificate", .data), ("creation_time", .data), ("response", .data)]

def ProductionPlace.fields : List (Text × Shape) := [
  ("country_name", .data), ("state_or_province", .data), ("city", .data), ("postal_code", .data)]

def SignatureFacts.fields : List (Text × Shape) := [
  ("id", .data), ("indication", .data), ("sub_indication", .data), ("qualification", .data),
  ("profile", .data), ("signature_format", .data), ("signature_method", .data),
  ("claimed_signing_time", .data), ("best_signature_time", .data), ("signing_certificate", .data),
  ("revocations", .items (.record RevocationFacts.fields)),
  ("timestamps", .items (.record TimestampFacts.fields)),
  ("references", .data), ("signer_roles", .data),
  ("production_place", .record ProductionPlace.fields),
  ("errors", .items (.record Issue.fields)), ("warnings", .items (.record Issue.fields))]

def SimpleEntry.fields : List (Text × Shape) := [
  ("indication", .data), ("sub_indication", .data), ("qualification", .data)]

def DataFile.fields : List (Text × Shape) := [
  ("name", .data), ("mime_type", .data), ("size", .data), ("declared_size", .data),
  ("content", .data)]

def Facts.fields : List (Text × Shape) := [
  ("document_format", .data), ("container_type", .data), ("format_version", .data),
  ("hashcode", .data),
  ("signatures", .items (.record SignatureFacts.fields)),
  ("simple_reports", .table (.record SimpleEntry.fields)),
  ("container_errors", .items (.record Issue.fields)),
  ("container_warnings", .items (.record Issue.fields)),
  ("data_files", .items (.record DataFile.fields)),
  ("validation_process", .data), ("diagnostic_data", .data)]

/-! ### Edits -/

/-- One edit that leaves every field of a value what it was. -/
inductive Shape.Edit : Shape → Json → Json → Prop
  /-- A field that is there under one spelling only is spelt in any way. -/
  | respelt {fields : List (Text × Shape)} {name : Text} {shape : Shape} {before after : Object}
      {value : Json} (s s' : Spelling) (hfield : (name, shape) ∈ fields)
      (honly : ∀ t : Spelling, t.spell name ∉ (before ++ after).map Prod.fst) :
    Edit (.record fields) (.obj (before ++ (s.spell name, value) :: after))
      (.obj (before ++ (s'.spell name, value) :: after))
  /-- A member is added whose key is no spelling of a field. -/
  | unknown {fields : List (Text × Shape)} {key : Text} {before after : Object} (value : Json)
      (hunknown : ∀ field ∈ fields, ∀ t : Spelling, key ≠ t.spell field.1) :
    Edit (.record fields) (.obj (before ++ after)) (.obj (before ++ (key, value) :: after))
  /-- A field that is there in camel case is added with underscores as well, with any value. -/
  | overruled {fields : List (Text × Shape)} {name : Text} {shape : Shape} {before after : Object}
      (value : Json) (hfield : (name, shape) ∈ fields) (hspellings : camelCase name ≠ name)
      (hcamel : camelCase name ∈ (before ++ after).map Prod.fst) :
    Edit (.record fields) (.obj (before ++ after)) (.obj (before ++ (name, value) :: after))
  /-- Members change places. -/
  | reordered {fields : List (Text × Shape)} {o o' : Object} (hperm : o.Perm o')
      (hkeys : (o.map Prod.fst).Nodup) : Edit (.record fields) (.obj o) (.obj o')
  /-- The value of a field is edited. -/
  | inField {fields : List (Text × Shape)} {name : Text} {shape : Shape} {before after : Object}
      {value value' : Json} (s : Spelling) (hfield : (name, shape) ∈ fields)
      (hvalue : Edit shape value value') :
    Edit (.record fields) (.obj (before ++ (s.spell name, value) :: after))
      (.obj (before ++ (s.spell name, value') :: after))
  /-- An item of an array is edited. -/
  | inItem {shape : Shape} {before after : List Json} {item item' : Json}
      (hitem : Edit shape item item') :
    Edit (.items shape) (.arr (before ++ item :: after)) (.arr (before ++ item' :: after))
  /-- The value under a key of a table is edited. -/
  | inTable {shape : Shape} {key : Text} {before after : Object} {value value' : Json}
      (hvalue : Edit shape value value') :
    Edit (.table shape) (.obj (before ++ (key, value) :: after))
      (.obj (before ++ (key, value') :: after))

/-- Two values become the same by edits, made or undone. -/
def Shape.Alike (shape : Shape) : Json → Json → Prop := Relation.EqvGen shape.Edit

/-- Only arrays and objects are edited. -/
theorem Shape.Edit.ne_null {shape : Shape} {j j' : Json} (h : shape.Edit j j') :
    j ≠ .null ∧ j' ≠ .null := by
  cases h <;> exact ⟨Json.noConfusion, Json.noConfusion⟩

/-! ### Members that are looked up -/

theorem get?_middle_of_ne {key k : Text} (h : key ≠ k) (value : Json) (before after : Object) :
    Object.get? key (before ++ (k, value) :: after) = Object.get? key (before ++ after) := by
  unfold Object.get?
  rw [List.lookup_append, List.lookup_append, List.lookup_cons, beq_eq_false_iff_ne.mpr h]

theorem get?_middle_self (key : Text) (value : Json) (before after : Object) :
    Object.get? key (before ++ (key, value) :: after) =
      (Object.get? key before).or (some value) := by
  unfold Object.get?
  rw [List.lookup_append, List.lookup_cons, beq_self_eq_true]

/-- Distinct keys are found wherever their members stand. -/
theorem lookup_eq_of_perm {α : Type} {l l' : List (Text × α)} (h : l.Perm l')
    (hkeys : (l.map Prod.fst).Nodup) (key : Text) : l.lookup key = l'.lookup key := by
  induction h with
  | nil => rfl
  | cons p _ ih =>
    rw [List.map_cons, List.nodup_cons] at hkeys
    rw [List.lookup_cons, List.lookup_cons, ih hkeys.2]
  | swap p q l =>
    obtain ⟨k, a⟩ := p
    obtain ⟨k', a'⟩ := q
    have hne : k' ≠ k := by
      rw [List.map_cons, List.map_cons, List.nodup_cons] at hkeys
      exact fun heq => hkeys.1 (heq ▸ List.mem_cons_self)
    simp only [List.lookup_cons]
    rcases eq_or_ne key k with rfl | hk
    · rw [beq_self_eq_true, beq_eq_false_iff_ne.mpr hne.symm]
    · rw [beq_eq_false_iff_ne.mpr hk]
  | trans h _ ih ih' =>
    rw [ih hkeys, ih' ((h.map Prod.fst).nodup_iff.mp hkeys)]

/-- The spelling in camel case is asked for first. -/
theorem field?_eq_or (name : Text) (o : Object) :
    field? name o =
      (Object.get? (Spelling.camel.spell name) o).or
        (Object.get? (Spelling.underscores.spell name) o) := by
  unfold field?
  show _ = (Object.get? (camelCase name) o).or (Object.get? name o)
  cases Object.get? (camelCase name) o <;> rfl

theorem field?_eq_of_get? {name : Text} {o o' : Object}
    (h : ∀ t : Spelling, Object.get? (t.spell name) o = Object.get? (t.spell name) o') :
    field? name o = field? name o' := by
  rw [field?_eq_or, field?_eq_or, h, h]

/-- A field that is there under one spelling only is found, whichever it is. -/
theorem field?_middle {name : Text} {before after : Object} (s : Spelling) (value : Json)
    (honly : ∀ t : Spelling, t.spell name ∉ (before ++ after).map Prod.fst) :
    field? name (before ++ (s.spell name, value) :: after) = some value := by
  have hget : ∀ t : Spelling,
      Object.get? (t.spell name) (before ++ (s.spell name, value) :: after) =
        if t.spell name = s.spell name then some value else none := by
    intro t
    split
    · next heq =>
      have hbefore : Object.get? (s.spell name) before = none :=
        lookup_eq_none_iff_not_mem.mpr fun hmem => honly s (by simp [hmem])
      rw [heq, get?_middle_self, hbefore, Option.none_or]
    · next hne =>
      rw [get?_middle_of_ne hne]
      exact lookup_eq_none_iff_not_mem.mpr (honly t)
  rw [field?_eq_or, hget, hget]
  -- one of the two spellings is the one in use
  cases s with
  | camel => simp
  | underscores =>
    rw [if_pos rfl]
    split <;> rfl

/-! ### Fields after an edit -/

/-- What an edit leaves of a field: the value that it had, or an edited one. -/
inductive SameField (shape : Shape) : Option Json → Option Json → Prop
  | same (value : Option Json) : SameField shape value value
  | edited {value value' : Json} (h : shape.Edit value value') :
    SameField shape (some value) (some value')

theorem SameField.eq_or {shape : Shape} {found found' : Option Json}
    (h : SameField shape found found') : found = found' ∨
      ∃ value value', found = some value ∧ found' = some value' ∧ shape.Edit value value' := by
  cases h with
  | same => exact Or.inl rfl
  | edited h => exact Or.inr ⟨_, _, rfl, rfl, h⟩

/-- The first of two values that is there is what it was, or edited. -/
theorem SameField.or {shape : Shape} {first first' second second' : Option Json}
    (h : SameField shape first first') (h' : SameField shape second second') :
    SameField shape (first.or second) (first'.or second') := by
  cases h with
  | edited hvalue => exact .edited hvalue
  | same =>
    cases first with
    | none => exact h'
    | some value => exact .same _

/-- A field is its own, or no spelling of it is one of another field. -/
theorem eq_or_apart {fields : List (Text × Shape)} (hapart : (fields.map Prod.fst).Pairwise Apart)
    {p q : Text × Shape} (hp : p ∈ fields) (hq : q ∈ fields) : p = q ∨ Apart p.1 q.1 := by
  have : Std.Symm fun p q : Text × Shape => Apart p.1 q.1 := ⟨fun _ _ h => h.symm⟩
  rcases eq_or_ne p q with heq | hne
  · exact Or.inl heq
  · exact Or.inr ((List.pairwise_map.mp hapart).forall hp hq hne)

/-- The value of a field is edited, wherever else the field may be. -/
theorem sameField_middle {shape : Shape} {value value' : Json} (h : shape.Edit value value')
    (name : Text) (s : Spelling) (before after : Object) :
    SameField shape (field? name (before ++ (s.spell name, value) :: after))
      (field? name (before ++ (s.spell name, value') :: after)) := by
  have hget : ∀ t : Spelling,
      SameField shape (Object.get? (t.spell name) (before ++ (s.spell name, value) :: after))
        (Object.get? (t.spell name) (before ++ (s.spell name, value') :: after)) := by
    intro t
    rcases eq_or_ne (t.spell name) (s.spell name) with heq | hne
    · rw [heq, get?_middle_self, get?_middle_self]
      cases Object.get? (s.spell name) before with
      | none => exact .edited h
      | some first => exact .same _
    · rw [get?_middle_of_ne hne, get?_middle_of_ne hne]
      exact .same _
  rw [field?_eq_or, field?_eq_or]
  exact (hget .camel).or (hget .underscores)

/-- **An edit of a record leaves every field what it was, or edits its value.** -/
theorem Shape.Edit.sameField {fields : List (Text × Shape)}
    (hapart : (fields.map Prod.fst).Pairwise Apart) {o o' : Object}
    (h : (Shape.record fields).Edit (.obj o) (.obj o')) {name : Text} {shape : Shape}
    (hfield : (name, shape) ∈ fields) : SameField shape (field? name o) (field? name o') := by
  cases h with
  | @respelt _ name' shape' before after value s s' hfield' honly =>
    rcases eq_or_apart hapart hfield hfield' with heq | hne
    · cases heq
      rw [field?_middle s value honly, field?_middle s' value honly]
      exact .same _
    · rw [field?_eq_of_get? fun t =>
        (get?_middle_of_ne (hne t s) value before after).trans
          (get?_middle_of_ne (hne t s') value before after).symm]
      exact .same _
  | @unknown _ key before after value hunknown =>
    rw [field?_eq_of_get? fun t =>
      (get?_middle_of_ne (hunknown _ hfield t).symm value before after).symm]
    exact .same _
  | @overruled _ name' shape' before after value hfield' hspellings hcamel =>
    rcases eq_or_apart hapart hfield hfield' with heq | hne
    · cases heq
      -- the value in camel case is found on either side, and hides the other one
      have hfound : Object.get? (camelCase name) (before ++ after) ≠ none := fun hnone =>
        lookup_eq_none_iff_not_mem.mp hnone hcamel
      obtain ⟨value', hvalue'⟩ := Option.ne_none_iff_exists'.mp hfound
      have hkept := get?_middle_of_ne hspellings value before after
      unfold field?
      rw [hkept, hvalue']
      exact .same _
    · rw [field?_eq_of_get? fun t =>
        (get?_middle_of_ne (hne t .underscores) value before after).symm]
      exact .same _
  | reordered hperm hkeys =>
    rw [field?_eq_of_get? fun t => lookup_eq_of_perm hperm hkeys (t.spell name)]
    exact .same _
  | @inField _ name' shape' before after value value' s hfield' hvalue =>
    rcases eq_or_apart hapart hfield hfield' with heq | hne
    · cases heq
      exact sameField_middle hvalue name s before after
    · rw [field?_eq_of_get? fun t =>
        (get?_middle_of_ne (hne t s) value before after).trans
          (get?_middle_of_ne (hne t s) value' before after).symm]
      exact .same _

/-! ### Blind readers -/

/-- No edit makes a difference to what is read. -/
def Blind {α : Type} (read : Reads α) (shape : Shape) : Prop :=
  ∀ j j', shape.Edit j j' → read j = read j'

/-- Data is not edited. -/
theorem blind_data {α : Type} (read : Reads α) : Blind read .data := by
  intro j j' h
  cases h

theorem mapM_middle_congr {α β : Type} {f : β → Option α} {b b' : β} (h : f b = f b')
    (before after : List β) : (before ++ b :: after).mapM f = (before ++ b' :: after).mapM f := by
  rw [List.mapM_append, List.mapM_append, List.mapM_cons, List.mapM_cons, h]

section

variable {α : Type} {read : Reads α} {shape : Shape}

theorem Blind.list (h : Blind read shape) : Blind (readList read) (.items shape) := by
  intro j j' hedit
  cases hedit with
  | @inItem _ before after item item' hitem =>
    exact mapM_middle_congr (h item item' hitem) before after

theorem Blind.table (h : Blind read shape) : Blind (readTable read) (.table shape) := by
  intro j j' hedit
  cases hedit with
  | @inTable _ key before after value value' hvalue =>
    refine mapM_middle_congr ?_ before after
    show (read value).map _ = (read value').map _
    rw [h value value' hvalue]

/-- Any number of edits makes no difference either. -/
theorem Blind.eq_of_alike (h : Blind read shape) {j j' : Json} (halike : shape.Alike j j') :
    read j = read j' := by
  induction halike with
  | rel j j' hedit => exact h j j' hedit
  | refl j => rfl
  | symm j j' _ ih => exact ih.symm
  | trans j j' j'' _ _ ih ih' => exact ih.trans ih'

variable {name : Text} {o o' : Object}

theorem Blind.required (h : Blind read shape)
    (hfield : SameField shape (field? name o) (field? name o')) :
    required name read o = required name read o' := by
  unfold ValidationReport.required
  rcases hfield.eq_or with heq | ⟨value, value', hvalue, hvalue', hedit⟩
  · rw [heq]
  · rw [hvalue, hvalue']
    exact h value value' hedit

theorem Blind.defaulted (h : Blind read shape) (standard : α)
    (hfield : SameField shape (field? name o) (field? name o')) :
    defaulted name standard read o = defaulted name standard read o' := by
  unfold ValidationReport.defaulted
  rcases hfield.eq_or with heq | ⟨value, value', hvalue, hvalue', hedit⟩
  · rw [heq]
  · rw [hvalue, hvalue']
    exact h value value' hedit

theorem optional_of_ne_null {value : Json} (hvalue : field? name o = some value)
    (hne : value ≠ .null) : optional name read o = (read value).map some := by
  unfold ValidationReport.optional
  rw [hvalue]
  cases value with
  | null => exact absurd rfl hne
  | _ => rfl

/-- No edit makes null of a value, or a value of null. -/
theorem Blind.optional (h : Blind read shape)
    (hfield : SameField shape (field? name o) (field? name o')) :
    optional name read o = optional name read o' := by
  rcases hfield.eq_or with heq | ⟨value, value', hvalue, hvalue', hedit⟩
  · unfold ValidationReport.optional
    rw [heq]
  · obtain ⟨hne, hne'⟩ := hedit.ne_null
    rw [optional_of_ne_null hvalue hne, optional_of_ne_null hvalue' hne', h value value' hedit]

end

/-- **A reader of a record is blind if it sees nothing but the fields.** -/
theorem blind_record {α : Type} {read : Object → Option α} {fields : List (Text × Shape)}
    (hapart : (fields.map Prod.fst).Pairwise Apart)
    (h : ∀ o o', (∀ {i : ℕ} {name : Text} {shape : Shape}, fields[i]? = some (name, shape) →
      SameField shape (field? name o) (field? name o')) → read o = read o') :
    Blind (readRecord read) (.record fields) := by
  have hobjects : ∀ o o', (Shape.record fields).Edit (.obj o) (.obj o') → read o = read o' :=
    fun o o' hedit => h o o' fun hi => hedit.sameField hapart (List.mem_of_getElem? hi)
  intro j j' hedit
  cases hedit with
  | respelt s s' hfield honly => exact hobjects _ _ (.respelt s s' hfield honly)
  | unknown value hunknown => exact hobjects _ _ (.unknown value hunknown)
  | overruled value hfield hspellings hcamel =>
    exact hobjects _ _ (.overruled value hfield hspellings hcamel)
  | reordered hperm hkeys => exact hobjects _ _ (.reordered hperm hkeys)
  | inField s hfield hvalue => exact hobjects _ _ (.inField s hfield hvalue)

/-! ### Records -/

theorem blind_issue : Blind (readRecord readIssue) (.record Issue.fields) := by
  refine blind_record (apart_of_recordNames (i := 0) rfl) fun o o' h => ?_
  unfold readIssue
  rw [(blind_data readText).required (h (i := 0) rfl),
    (blind_data readInteger).optional (h (i := 1) rfl)]

theorem blind_timestamp : Blind (readRecord readTimestamp) (.record TimestampFacts.fields) := by
  refine blind_record (apart_of_recordNames (i := 1) rfl) fun o o' h => ?_
  unfold readTimestamp
  rw [(blind_data readText).optional (h (i := 0) rfl),
    (blind_data Moment.ofJson?).optional (h (i := 1) rfl),
    (blind_data readText).optional (h (i := 2) rfl)]

theorem blind_revocation : Blind (readRecord readRevocation) (.record RevocationFacts.fields) := by
  refine blind_record (apart_of_recordNames (i := 2) rfl) fun o o' h => ?_
  unfold readRevocation
  rw [(blind_data readText).optional (h (i := 0) rfl),
    (blind_data Moment.ofJson?).optional (h (i := 1) rfl),
    (blind_data readText).optional (h (i := 2) rfl)]

theorem blind_productionPlace :
    Blind (readRecord readProductionPlace) (.record ProductionPlace.fields) := by
  refine blind_record (apart_of_recordNames (i := 3) rfl) fun o o' h => ?_
  unfold readProductionPlace
  rw [(blind_data readText).defaulted [] (h (i := 0) rfl),
    (blind_data readText).defaulted [] (h (i := 1) rfl),
    (blind_data readText).defaulted [] (h (i := 2) rfl),
    (blind_data readText).defaulted [] (h (i := 3) rfl)]

theorem blind_signature : Blind (readRecord readSignature) (.record SignatureFacts.fields) := by
  refine blind_record (apart_of_recordNames (i := 4) rfl) fun o o' h => ?_
  unfold readSignature
  rw [(blind_data readText).required (h (i := 0) rfl),
    (blind_data readText).defaulted defaultIndication (h (i := 1) rfl),
    (blind_data readText).optional (h (i := 2) rfl),
    (blind_data readText).optional (h (i := 3) rfl),
    (blind_data readText).optional (h (i := 4) rfl),
    (blind_data readText).optional (h (i := 5) rfl),
    (blind_data readText).defaulted [] (h (i := 6) rfl),
    (blind_data Moment.ofJson?).optional (h (i := 7) rfl),
    (blind_data Moment.ofJson?).optional (h (i := 8) rfl),
    (blind_data readText).optional (h (i := 9) rfl),
    blind_revocation.list.defaulted [] (h (i := 10) rfl),
    blind_timestamp.list.defaulted [] (h (i := 11) rfl),
    (blind_data (readList readText)).defaulted [] (h (i := 12) rfl),
    (blind_data (readList readText)).defaulted [] (h (i := 13) rfl),
    blind_productionPlace.optional (h (i := 14) rfl),
    blind_issue.list.defaulted [] (h (i := 15) rfl),
    blind_issue.list.defaulted [] (h (i := 16) rfl)]

theorem blind_simpleEntry : Blind (readRecord readSimpleEntry) (.record SimpleEntry.fields) := by
  refine blind_record (apart_of_recordNames (i := 5) rfl) fun o o' h => ?_
  unfold readSimpleEntry
  rw [(blind_data readText).required (h (i := 0) rfl),
    (blind_data readText).optional (h (i := 1) rfl),
    (blind_data readText).optional (h (i := 2) rfl)]

theorem blind_dataFile : Blind (readRecord readDataFile) (.record DataFile.fields) := by
  refine blind_record (apart_of_recordNames (i := 6) rfl) fun o o' h => ?_
  unfold readDataFile
  rw [(blind_data readText).required (h (i := 0) rfl),
    (blind_data readText).optional (h (i := 1) rfl),
    (blind_data readInteger).optional (h (i := 2) rfl),
    (blind_data readInteger).optional (h (i := 3) rfl),
    (blind_data readText).optional (h (i := 4) rfl)]

theorem blind_facts : Blind (readRecord readFacts) (.record Facts.fields) := by
  refine blind_record (apart_of_recordNames (i := 7) rfl) fun o o' h => ?_
  unfold readFacts
  rw [(blind_data readText).required (h (i := 0) rfl),
    (blind_data readText).optional (h (i := 1) rfl),
    (blind_data readText).optional (h (i := 2) rfl),
    (blind_data readBoolean).defaulted false (h (i := 3) rfl),
    blind_signature.list.defaulted [] (h (i := 4) rfl),
    blind_simpleEntry.table.defaulted [] (h (i := 5) rfl),
    blind_issue.list.defaulted [] (h (i := 6) rfl),
    blind_issue.list.defaulted [] (h (i := 7) rfl),
    blind_dataFile.list.defaulted [] (h (i := 8) rfl),
    (blind_data readObject).optional (h (i := 9) rfl),
    (blind_data readObject).optional (h (i := 10) rfl)]

/-! ### Payloads -/

/-- The object of facts that a payload carries, as a value or as text that can be read. -/
inductive Payload.Carries : Payload → Object → Prop
  | value (o : Object) : Carries (.value (.obj o)) o
  | text {t : Text} {o : Object} (hread : Json.read t = .ok (.obj o)) : Carries (.text t) o
  | bytes {octets : Bytes} {t : Text} {o : Object} (htext : Text.ofUtf8? octets = some t)
      (hread : Json.read t = .ok (.obj o)) : Carries (.bytes octets) o

theorem Payload.Carries.load_eq {p : Payload} {o : Object} (h : p.Carries o) :
    p.load = ofValue (.obj o) := by
  cases h with
  | value => rfl
  | text hread =>
    show ofText _ = _
    rw [ofText, hread]
    rfl
  | bytes htext hread =>
    simp only [load, htext, ofText, hread]
    rfl

/-- An object of facts is read, or refused as malformed. -/
theorem ofValue_cases (j : Json) :
    (∃ f, Payload.ofValue j = .ok f) ∨ Payload.ofValue j = .error .malformed := by
  unfold Payload.ofValue
  cases readRecord readFacts j with
  | some f => exact Or.inl ⟨f, rfl⟩
  | none => exact Or.inr rfl

/-- The keys of a table are read as they are. -/
theorem keys_of_readTable {α : Type} {read : Reads α} {members : Object} {entries : List (Text × α)}
    (h : readTable read (.obj members) = some entries) :
    entries.map Prod.fst = members.map Prod.fst := by
  induction members generalizing entries with
  | nil =>
    cases h
    rfl
  | cons member members ih =>
    simp only [readTable, List.mapM_cons, bind_eq_some_iff, Option.pure_def, Option.some.injEq]
      at h
    obtain ⟨entry, hentry, entries, hentries, rfl⟩ := h
    obtain ⟨a, -, rfl⟩ := Option.map_eq_some_iff.mp hentry
    rw [List.map_cons, List.map_cons, ih hentries]

/-- Data of the engine is read as it is. -/
theorem optional_readObject_eq_some_iff {name : Text} {o : Object} {data : Option Object}
    (h : optional name readObject o = some data) (members : Object) :
    data = some members ↔ field? name o = some (.obj members) := by
  unfold optional at h
  split at h
  · next hnone =>
    cases h
    simp [hnone]
  · next hnull =>
    cases h
    simp [hnull]
  · next value _ hvalue =>
    obtain ⟨read, hread, rfl⟩ := Option.map_eq_some_iff.mp h
    cases value with
    | obj members' =>
      cases hread
      simp [hvalue]
    | _ => cases hread

/-! ### A sample -/

/-- A signature that keeps its reason under one name or the other. -/
def Json.lateSignature (reason : Text) : Json := .obj [("id", .str "S0"), (reason, .str "late")]

/-- A simple report whose only key looks like the name of a field. -/
def Json.oneReport (others : Object) : Json :=
  .obj [("sub_indication", .obj (("indication", .str "PASSED") :: others))]

/-- Facts with names in both spellings, and one of them overruled by a value that is no text. -/
def Object.mixed : Object := [
  ("signatures", .arr [.lateSignature "sub_indication"]), ("documentFormat", .str "BDOC"),
  ("document_format", .int 7), ("simple_reports", .oneReport [])]

/-- The same facts in another order and with names spelt the other way, and with a member that is
no field. -/
def Object.respelt : Object := [
  ("documentFormat", .str "BDOC"), ("signatures", .arr [.lateSignature "subIndication"]),
  ("simpleReports", .oneReport [("documentFormat", .null)])]

/-- What is read from either. -/
def Facts.late : Facts :=
  .ofSignatures "BDOC" [{ SignatureFacts.ofWord "S0" defaultIndication with
    subIndication := some "late" }] [("sub_indication", ⟨"PASSED", none, none⟩)]

/-- Five edits make the one of the other. -/
theorem alike_mixed_respelt :
    (Shape.record Facts.fields).Alike (.obj Object.mixed) (.obj Object.respelt) := by
  have hsub : camelCase "sub_indication" = "subIndication" := by decide +kernel
  have hreports : camelCase "simple_reports" = "simpleReports" := by decide +kernel
  have hoverruled := @Shape.Edit.overruled Facts.fields "document_format" .data
    [("signatures", .arr [.lateSignature "sub_indication"]), ("documentFormat", .str "BDOC")]
    [("simple_reports", .oneReport [])] (.int 7) (List.mem_of_getElem? (i := 0) rfl)
    (by decide +kernel) (by decide +kernel)
  have hreason := @Shape.Edit.respelt SignatureFacts.fields "sub_indication" .data
    [("id", .str "S0")] [] (.str "late") .underscores .camel (List.mem_of_getElem? (i := 2) rfl)
    (by intro t; cases t <;> decide +kernel)
  have hsignatures := @Shape.Edit.inField Facts.fields "signatures" _ []
    [("documentFormat", .str "BDOC"), ("simple_reports", .oneReport [])] _ _ .underscores
    (List.mem_of_getElem? (i := 4) rfl) (@Shape.Edit.inItem _ [] [] _ _ hreason)
  have hrespelt := @Shape.Edit.respelt Facts.fields "simple_reports" _
    [("signatures", .arr [.lateSignature "subIndication"]), ("documentFormat", .str "BDOC")] []
    (.oneReport []) .underscores .camel (List.mem_of_getElem? (i := 5) rfl)
    (by intro t; cases t <;> decide +kernel)
  have hunknown : ∀ field ∈ SimpleEntry.fields, ∀ t : Spelling,
      ("documentFormat" : Text) ≠ t.spell field.1 := by
    intro field hfield t
    simp only [SimpleEntry.fields, List.mem_cons, List.not_mem_nil, or_false] at hfield
    rcases hfield with rfl | rfl | rfl <;> cases t <;> decide +kernel
  have hmember := @Shape.Edit.unknown SimpleEntry.fields "documentFormat"
    [("indication", .str "PASSED")] [] .null hunknown
  have htable := @Shape.Edit.inField Facts.fields "simple_reports" _
    [("signatures", .arr [.lateSignature "subIndication"]), ("documentFormat", .str "BDOC")] []
    _ _ .camel (List.mem_of_getElem? (i := 5) rfl)
    (@Shape.Edit.inTable _ "sub_indication" [] [] _ _ hmember)
  have hordered := @Shape.Edit.reordered Facts.fields _ _ (@List.Perm.swap (Text × Json)
    ("documentFormat", .str "BDOC") ("signatures", .arr [.lateSignature "subIndication"])
    [("simpleReports", .oneReport [("documentFormat", .null)])]) (by decide +kernel)
  -- written out, each edit starts from what the one before it has made
  simp only [Json.lateSignature, Json.oneReport, List.cons_append, List.nil_append, Spelling.spell,
    hsub, hreports] at hoverruled hsignatures hrespelt htable hordered
  simp only [Object.mixed, Object.respelt, Json.lateSignature, Json.oneReport]
  exact .trans _ _ _ (.symm _ _ (.rel _ _ hoverruled)) (.trans _ _ _ (.rel _ _ hsignatures)
    (.trans _ _ _ (.rel _ _ hrespelt) (.trans _ _ _ (.rel _ _ htable) (.rel _ _ hordered))))

/-! ### Facts in either spelling -/

/-- **Objects that differ in the spelling of their names are read as the same facts, or both
refused.**  Whatever else is added or overruled has no say.  Keys of the simple report, and what is
in the engine's own data, are data and are found again as they were. -/
theorem load_alike {p p' : Payload} {o o' : Object} (hp : p.Carries o) (hp' : p'.Carries o')
    (h : (Shape.record Facts.fields).Alike (.obj o) (.obj o')) :
    ((∃ f, p.load = .ok f ∧ p'.load = .ok f) ∨
      p.load = .error .malformed ∧ p'.load = .error .malformed) ∧
    ∀ f, p.load = .ok f →
      (∀ reports, field? "simple_reports" o = some (.obj reports) →
        f.simpleReports.map Prod.fst = reports.map Prod.fst) ∧
      (∀ data, f.validationProcess = some data ↔
        field? "validation_process" o = some (.obj data)) ∧
      ∀ data, f.diagnosticData = some data ↔ field? "diagnostic_data" o = some (.obj data) := by
  have hsame : p'.load = p.load := by
    rw [hp.load_eq, hp'.load_eq]
    unfold Payload.ofValue
    rw [blind_facts.eq_of_alike h]
  constructor
  · rw [hsame, hp.load_eq]
    rcases ofValue_cases (.obj o) with ⟨f, hf⟩ | hmalformed
    · exact Or.inl ⟨f, hf, hf⟩
    · exact Or.inr ⟨hmalformed, hmalformed⟩
  · intro f hf
    rw [hp.load_eq] at hf
    obtain ⟨-, -, -, -, -, hreports, -, -, -, hprocess, hdata⟩ :=
      readFacts_eq_some_iff.mp (ofValue_eq_ok_iff.mp hf)
    refine ⟨fun reports hfield => ?_, optional_readObject_eq_some_iff hprocess,
      optional_readObject_eq_some_iff hdata⟩
    unfold defaulted at hreports
    rw [hfield] at hreports
    exact keys_of_readTable hreports

/-- The overruled value has no say, and the key that looks like the name of a field is found as it
was. -/
theorem load_alike_mixed :
    (Payload.value (.obj Object.mixed)).Carries Object.mixed ∧
    (Payload.value (.obj Object.respelt)).Carries Object.respelt ∧
    (Shape.record Facts.fields).Alike (.obj Object.mixed) (.obj Object.respelt) ∧
    (Payload.value (.obj Object.mixed)).load = .ok .late ∧
    (Payload.value (.obj Object.respelt)).load = .ok .late ∧
    Facts.late.simpleReports.map Prod.fst = ["sub_indication"] := by
  have hread : readRecord readFacts (.obj Object.mixed) = some .late := by decide +kernel
  have hload : (Payload.value (.obj Object.mixed)).load = .ok .late :=
    load_obj_eq_ok_iff.mpr hread
  obtain ⟨hsame, hdata⟩ := load_alike (.value Object.mixed) (.value Object.respelt)
    alike_mixed_respelt
  have hreports : field? "simple_reports" Object.mixed =
      some (.obj [("sub_indication", .obj [("indication", .str "PASSED")])]) := by
    decide +kernel
  refine ⟨.value _, .value _, alike_mixed_respelt, hload, ?_, (hdata .late hload).1 _ hreports⟩
  rcases hsame with ⟨f, hf, hrespelt⟩ | ⟨hmalformed, -⟩
  · rw [hload] at hf
    cases hf
    exact hrespelt
  · rw [hload] at hmalformed
    cases hmalformed

end ValidationReport
