import Mathlib.Data.List.Nodup
import ValidationReport.Proofs.Spelling

/-!
# Distinct keys

Of two members with one key the later one counts, so the objects that are read
from text have distinct keys, at every depth.  The reader keeps this of all that
is still open: each step closes a value of values, or puts a member in its place.

## Main definitions

* `Json.Keyed` — every object in a value has distinct keys.
* `Json.State.Keyed` — so has everything that a reader holds.

## Main results

* `Json.State.Keyed.step` — one step keeps it.
* `Json.keyed_of_read` — **every object in a value that was read has distinct
  keys.**
* `keyed_of_load` — so has the data of the engine in facts.
-/

namespace ValidationReport

namespace Json

/-- A value that is no array and no object. -/
def isLeaf : Json → Bool
  | .arr _ => false
  | .obj _ => false
  | _ => true

/-- Every object in a value has distinct keys. -/
inductive Keyed : Json → Prop
  | leaf {j : Json} : j.isLeaf = true → Keyed j
  | arr {items : List Json} : (∀ j ∈ items, Keyed j) → Keyed (.arr items)
  | obj {members : Object} : (members.map Prod.fst).Nodup → (∀ m ∈ members, Keyed m.2) →
      Keyed (.obj members)

theorem Keyed.nodup {members : Object} (h : Keyed (.obj members)) :
    (members.map Prod.fst).Nodup := by
  cases h with
  | leaf hleaf => cases hleaf
  | obj hkeys _ => exact hkeys

theorem Keyed.of_mem {members : Object} (h : Keyed (.obj members)) {m : Text × Json}
    (hm : m ∈ members) : m.2.Keyed := by
  cases h with
  | leaf hleaf => cases hleaf
  | obj _ hvalues => exact hvalues m hm

/-! ### Members in their places -/

theorem mem_insert {key : Text} {value : Json} {o : Object} {m : Text × Json}
    (h : m ∈ o.insert key value) : m = (key, value) ∨ m ∈ o := by
  induction o with
  | nil => exact .inl (List.mem_singleton.mp h)
  | cons first o ih =>
    obtain ⟨k, v⟩ := first
    rw [Object.insert] at h
    split at h
    · next hk =>
      rcases List.mem_cons.mp h with rfl | h
      · exact .inl (by rw [hk])
      · exact .inr (List.mem_cons_of_mem _ h)
    · rcases List.mem_cons.mp h with rfl | h
      · exact .inr List.mem_cons_self
      · exact (ih h).imp_right (List.mem_cons_of_mem _)

/-- A new key goes to the end, and any other is there already. -/
theorem keys_insert (key : Text) (value : Json) (o : Object) :
    (o.insert key value).map Prod.fst =
      if key ∈ o.map Prod.fst then o.map Prod.fst else o.map Prod.fst ++ [key] := by
  induction o with
  | nil => rfl
  | cons first o ih =>
    obtain ⟨k, v⟩ := first
    rw [Object.insert]
    by_cases hk : k = key
    · rw [if_pos hk, if_pos (by rw [List.map_cons, hk]; exact List.mem_cons_self)]
      rfl
    · rw [if_neg hk, List.map_cons, List.map_cons, ih]
      by_cases hmem : key ∈ o.map Prod.fst
      · rw [if_pos hmem, if_pos (List.mem_cons_of_mem k hmem)]
      · rw [if_neg hmem, if_neg (by simpa [Ne.symm hk] using hmem)]
        rfl

/-- An object keeps distinct keys when a value is put in its place. -/
theorem Keyed.insert {o : Object} (h : Keyed (.obj o)) (key : Text) {value : Json}
    (hvalue : value.Keyed) : Keyed (.obj (o.insert key value)) := by
  refine .obj ?_ fun m hm => ?_
  · rw [keys_insert]
    split
    · exact h.nodup
    · next hnew => exact List.Nodup.append h.nodup (List.nodup_singleton key) (by simpa using hnew)
  · rcases mem_insert hm with rfl | hm
    · exact hvalue
    · exact h.of_mem hm

/-! ### Tokens -/

namespace Token

theorem isLeaf_of_number? {negative : Bool} {t rest : Text} {j : Json}
    (h : number? negative t = some (.atom j, rest)) : j.isLeaf = true := by
  unfold number? at h
  split at h
  · cases h
  · split at h
    · split at h
      · cases h
      · cases h
        rfl
    · simp only [Option.some.injEq, Prod.mk.injEq, Token.atom.injEq] at h
      obtain ⟨rfl, -⟩ := h
      rfl

theorem isLeaf_of_word? {t rest : Text} {j : Json} (h : word? t = some (.atom j, rest)) :
    j.isLeaf = true := by
  have hwords : ∀ w ∈ words, w.2.isLeaf = true := by simp [words, isLeaf]
  obtain ⟨w, hw, heq⟩ := Option.map_eq_some_iff.mp h
  cases heq
  exact hwords w (List.mem_of_find?_eq_some hw)

theorem isLeaf_of_first? {c : Code} {t rest : Text} {j : Json}
    (h : first? c t = some (.atom j, rest)) : j.isLeaf = true := by
  unfold first? at h
  split at h
  · next hpunctuation =>
    cases h
    unfold punctuation? at hpunctuation
    repeat' split at hpunctuation
    all_goals cases hpunctuation
  · split at h
    · obtain ⟨u, -, heq⟩ := Option.map_eq_some_iff.mp h
      cases heq
    · split at h
      · next hword =>
        cases h
        exact isLeaf_of_word? hword
      · split at h
        · exact isLeaf_of_number? h
        · exact isLeaf_of_number? h

theorem isLeaf_of_mem_scanUpTo {fuel : ℕ} {t : Text} {j : Json} (h : .atom j ∈ scanUpTo fuel t) :
    j.isLeaf = true := by
  induction fuel generalizing t with
  | zero => cases h
  | succ fuel ih =>
    cases t with
    | nil => cases h
    | cons c t =>
      rw [scanUpTo] at h
      split at h
      · exact ih h
      · split at h
        · next token rest hfirst =>
          rcases List.mem_cons.mp h with rfl | hrest
          · exact isLeaf_of_first? hfirst
          · exact ih hrest
        · simp at h

end Token

/-! ### The reader -/

/-- What is open around a value has distinct keys so far. -/
def Frame.Keyed : Frame → Prop
  | .items before => ∀ j ∈ before, j.Keyed
  | .members before => Json.Keyed (.obj before)
  | .member before _ => Json.Keyed (.obj before)

/-- A value that has just been read has distinct keys. -/
def Phase.Keyed : Phase → Prop
  | .after j => j.Keyed
  | _ => True

/-- All that a reader holds has distinct keys. -/
structure State.Keyed (s : State) : Prop where
  frames : ∀ frame ∈ s.frames, frame.Keyed
  phase : s.phase.Keyed

namespace State

variable {s s' : State}

theorem keyed_initial : initial.Keyed := ⟨by simp [initial], trivial⟩

theorem Keyed.enter (h : s.Keyed) {frame : Frame} (hframe : frame.Keyed) (phase : Phase)
    (hphase : phase.Keyed) (hs : s.enter frame phase = .ok s') : s'.Keyed := by
  unfold State.enter at hs
  split at hs
  · cases hs
    exact ⟨List.forall_mem_cons.mpr ⟨hframe, h.frames⟩, hphase⟩
  · cases hs

theorem Keyed.stepValue (h : s.Keyed) {mayClose : Bool} {token : Token}
    (hatom : ∀ j, token = .atom j → j.isLeaf = true) (hs : s.stepValue mayClose token = .ok s') :
    s'.Keyed := by
  unfold State.stepValue at hs
  split at hs
  · have hnone : (Frame.items []).Keyed := by simp [Frame.Keyed]
    exact h.enter hnone (.value true) trivial hs
  · have hnone : (Frame.members []).Keyed := .obj List.nodup_nil (by simp)
    exact h.enter hnone (.key true) trivial hs
  · split at hs
    · next frames hframes =>
      cases hs
      have hall := h.frames
      rw [hframes] at hall
      exact ⟨(List.forall_mem_cons.mp hall).2, .arr (by simp)⟩
    · cases hs
  · cases hs
    exact ⟨h.frames, .leaf rfl⟩
  · cases hs
    exact ⟨h.frames, .leaf (hatom _ rfl)⟩
  · cases hs
  · cases hs

theorem Keyed.stepKey (h : s.Keyed) {mayClose : Bool} {token : Token}
    (hs : s.stepKey mayClose token = .ok s') : s'.Keyed := by
  have hall := h.frames
  unfold State.stepKey at hs
  split at hs
  · split at hs
    · next before frames hframes =>
      cases hs
      rw [hframes, List.forall_mem_cons] at hall
      exact ⟨List.forall_mem_cons.mpr hall, trivial⟩
    · cases hs
  · split at hs
    · next before frames hframes =>
      cases hs
      rw [hframes, List.forall_mem_cons] at hall
      exact ⟨hall.2, hall.1⟩
    · cases hs
  · cases hs

theorem Keyed.stepAfter (h : s.Keyed) {value : Json} (hvalue : value.Keyed) {token : Token}
    (hs : s.stepAfter value token = .ok s') : s'.Keyed := by
  have hall := h.frames
  unfold State.stepAfter at hs
  split at hs
  · next before frames hframes =>
    cases hs
    rw [hframes, List.forall_mem_cons] at hall
    exact ⟨List.forall_mem_cons.mpr ⟨List.forall_mem_cons.mpr ⟨hvalue, hall.1⟩, hall.2⟩, trivial⟩
  · next before frames hframes =>
    cases hs
    rw [hframes, List.forall_mem_cons] at hall
    refine ⟨hall.2, .arr fun j hj => ?_⟩
    exact List.forall_mem_cons.mpr ⟨hvalue, hall.1⟩ j (List.mem_reverse.mp hj)
  · next before key frames hframes =>
    cases hs
    rw [hframes, List.forall_mem_cons] at hall
    exact ⟨List.forall_mem_cons.mpr ⟨Json.Keyed.insert hall.1 key hvalue, hall.2⟩, trivial⟩
  · next before key frames hframes =>
    cases hs
    rw [hframes, List.forall_mem_cons] at hall
    exact ⟨hall.2, Json.Keyed.insert hall.1 key hvalue⟩
  · cases hs

/-- One step of the reader keeps keys distinct. -/
theorem Keyed.step (h : s.Keyed) {token : Token} (hatom : ∀ j, token = .atom j → j.isLeaf = true)
    (hs : s.step token = .ok s') : s'.Keyed := by
  unfold State.step at hs
  split at hs
  · exact h.stepValue hatom hs
  · exact h.stepKey hs
  · split at hs
    · cases hs
      exact ⟨h.frames, trivial⟩
    · cases hs
  · next value hphase =>
    have hvalue := h.phase
    rw [hphase] at hvalue
    exact h.stepAfter hvalue hs

/-- All the steps keep keys distinct. -/
theorem Keyed.steps (h : s.Keyed) {tokens : List Token}
    (hatoms : ∀ j, .atom j ∈ tokens → j.isLeaf = true)
    (hs : tokens.foldlM State.step s = .ok s') : s'.Keyed := by
  induction tokens generalizing s with
  | nil =>
    cases hs
    exact h
  | cons token tokens ih =>
    rw [List.foldlM_cons] at hs
    obtain ⟨s₁, hs₁, hs⟩ := bind_eq_ok_iff.mp hs
    exact ih (h.step (fun j hj => hatoms j (hj ▸ List.mem_cons_self)) hs₁)
      (fun j hj => hatoms j (List.mem_cons_of_mem token hj)) hs

end State

/-- **Every object in a value that was read has distinct keys.** -/
theorem keyed_of_read {t : Text} {j : Json} (h : read t = .ok j) : j.Keyed := by
  obtain ⟨s, hs, hresult⟩ := bind_eq_ok_iff.mp h
  have hkeyed := State.keyed_initial.steps (fun _ => Token.isLeaf_of_mem_scanUpTo) hs
  unfold State.result at hresult
  split at hresult
  · next value _ hphase =>
    cases hresult
    have hvalue := hkeyed.phase
    rw [hphase] at hvalue
    exact hvalue
  · cases hresult

end Json

/-! ### Data of the engine -/

theorem Json.Keyed.field? {o : Object} (h : Keyed (.obj o)) {name : Text} {value : Json}
    (hvalue : field? name o = some value) : value.Keyed := by
  have hget : ∀ {key : Text}, o.get? key = some value → value.Keyed := by
    intro key hkey
    obtain ⟨before, after, hsplit, -⟩ := List.lookup_eq_some_iff.mp hkey
    exact h.of_mem (m := (key, value)) (hsplit ▸ List.mem_append_right before List.mem_cons_self)
  unfold ValidationReport.field? at hvalue
  split at hvalue
  · next hcamel =>
    cases hvalue
    exact hget hcamel
  · exact hget hvalue

/-- Data of the engine in facts that were read from octets has distinct keys. -/
theorem keyed_of_load {octets : Bytes} {f : Facts} (h : (Payload.bytes octets).load = .ok f)
    {data : Object} (hdata : f.validationProcess = some data ∨ f.diagnosticData = some data) :
    Json.Keyed (.obj data) := by
  simp only [Payload.load] at h
  split at h
  · next t _ =>
    obtain ⟨j, hread, hj⟩ := bind_eq_ok_iff.mp h
    cases hobject : j with
    | obj o =>
      have hkeyed := Json.keyed_of_read hread
      rw [hobject] at hkeyed hj
      have hfields := readFacts_eq_some_iff.mp (ofValue_eq_ok_iff.mp hj)
      obtain ⟨-, -, -, -, -, -, -, -, -, hprocess, hdiagnostic⟩ := hfields
      rcases hdata with hdata | hdata
      · exact hkeyed.field? ((optional_readObject_eq_some_iff hprocess data).mp hdata)
      · exact hkeyed.field? ((optional_readObject_eq_some_iff hdiagnostic data).mp hdata)
    | _ =>
      rw [hobject] at hj
      cases hj
  · cases h

end ValidationReport
