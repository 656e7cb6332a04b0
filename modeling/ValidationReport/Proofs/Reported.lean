import ValidationReport.Conclusion.Writer
import ValidationReport.Proofs.Keys
import ValidationReport.Proofs.Utf8

/-!
# Values that can be sent

Plain values are reported as they are, unless they are nested too deep, and a
value is plain if its parts are.

## Main results

* `Json.isPlain_arr_iff`, `Json.isPlain_obj_iff` — plain values part by part.
* `Json.depth_arr_le_iff`, `Json.depth_obj_le_iff` — depth part by part.
* `Json.reportedWithin_of_isPlain` — **a plain value is reported as it is, or is too
  deep.**
* `Object.reported_of_isPlain` — so is an object.
-/

namespace ValidationReport

theorem isWellFormed_iff {t : Text} : t.isWellFormed = true ↔ ∀ c ∈ t, c.isScalar = true :=
  List.all_eq_true

/-- A text made of characters is well formed. -/
@[simp] theorem isWellFormed_ofString (s : String) : (Text.ofString s).isWellFormed = true :=
  Text.isWellFormed_map_ofChar s.toList

/-- Only surrogates are mended. -/
theorem mended_of_isWellFormed {t : Text} (h : t.isWellFormed = true) : t.mended = t := by
  unfold Text.mended
  rw [isWellFormed_iff] at h
  induction t with
  | nil => rfl
  | cons c t ih =>
    have hscalar : c.isSurrogate = false := by simpa [Code.isScalar] using h c List.mem_cons_self
    rw [List.flatMap_cons, if_neg (by simp [hscalar]),
      ih fun d hd => h d (List.mem_cons_of_mem c hd)]
    rfl

namespace Json

/-! ### Values by their parts -/

theorem arePlain_iff {items : List Json} :
    arePlain items = true ↔ ∀ j ∈ items, j.isPlain = true := by
  induction items with
  | nil => simp [arePlain]
  | cons j items ih => rw [arePlain, Bool.and_eq_true, ih, List.forall_mem_cons]

theorem membersArePlain_iff {members : List (Text × Json)} : membersArePlain members = true ↔
    ∀ m ∈ members, m.1.isWellFormed = true ∧ m.2.isPlain = true := by
  induction members with
  | nil => simp [membersArePlain]
  | cons m members ih =>
    rw [membersArePlain, Bool.and_eq_true, Bool.and_eq_true, ih, List.forall_mem_cons]

theorem isPlain_arr_iff {items : List Json} :
    (arr items).isPlain = true ↔ ∀ j ∈ items, j.isPlain = true := by
  rw [isPlain, arePlain_iff]

theorem isPlain_obj_iff {members : List (Text × Json)} : (obj members).isPlain = true ↔
    ∀ m ∈ members, m.1.isWellFormed = true ∧ m.2.isPlain = true := by
  rw [isPlain, membersArePlain_iff]

theorem depthOfItems_le_iff {items : List Json} {n : ℕ} :
    depthOfItems items ≤ n ↔ ∀ j ∈ items, j.depth ≤ n := by
  induction items with
  | nil => simp [depthOfItems]
  | cons j items ih => rw [depthOfItems, Nat.max_le, ih, List.forall_mem_cons]

theorem depthOfMembers_le_iff {members : List (Text × Json)} {n : ℕ} :
    depthOfMembers members ≤ n ↔ ∀ m ∈ members, m.2.depth ≤ n := by
  induction members with
  | nil => simp [depthOfMembers]
  | cons m members ih => rw [depthOfMembers, Nat.max_le, ih, List.forall_mem_cons]

theorem depth_arr_le_iff {items : List Json} {n : ℕ} :
    (arr items).depth ≤ n + 1 ↔ ∀ j ∈ items, j.depth ≤ n := by
  rw [depth, Nat.add_le_add_iff_right, depthOfItems_le_iff]

theorem depth_obj_le_iff {members : List (Text × Json)} {n : ℕ} :
    (obj members).depth ≤ n + 1 ↔ ∀ m ∈ members, m.2.depth ≤ n := by
  rw [depth, Nat.add_le_add_iff_right, depthOfMembers_le_iff]

theorem depth_pos (j : Json) : 0 < j.depth := by
  cases j <;> simp [depth]

/-! ### Reporting -/

/-- A step that passes some members on and stops at the others. -/
theorem mapM_eq_ite {α ε : Type} {f : α → Except ε α} {p : α → Prop} [DecidablePred p] {e : ε}
    {l : List α} (h : ∀ a ∈ l, f a = if p a then .ok a else .error e) :
    l.mapM f = if ∀ a ∈ l, p a then .ok l else .error e := by
  induction l with
  | nil => simp [pure, Except.pure]
  | cons a l ih =>
    rw [List.mapM_cons, h a List.mem_cons_self, ih fun b hb => h b (List.mem_cons_of_mem a hb)]
    by_cases ha : p a
    · by_cases hl : ∀ b ∈ l, p b
      · rw [if_pos ha, if_pos hl, if_pos (List.forall_mem_cons.mpr ⟨ha, hl⟩)]
        rfl
      · rw [if_pos ha, if_neg hl, if_neg fun hall => hl (List.forall_mem_cons.mp hall).2]
        rfl
    · rw [if_neg ha, if_neg fun hall => ha (List.forall_mem_cons.mp hall).1]
      rfl

/-- **A plain value is reported as it is, or is too deep.**  The induction is on the depth that is
left. -/
theorem reportedWithin_of_isPlain {limit : ℕ} {j : Json} (h : j.isPlain = true) :
    j.reportedWithin limit = if j.depth ≤ limit then .ok j else .error .depth := by
  induction limit generalizing j with
  | zero => rw [reportedWithin, if_neg (Nat.not_le.mpr j.depth_pos)]
  | succ limit ih =>
    cases j with
    | arr items =>
      rw [isPlain_arr_iff] at h
      have hitems := mapM_eq_ite fun j hj => ih (h j hj)
      rw [reportedWithin, hitems]
      simp only [depth_arr_le_iff]
      split <;> rfl
    | obj members =>
      rw [isPlain_obj_iff] at h
      rw [reportedWithin, mapM_eq_ite (p := fun m => m.2.depth ≤ limit) (e := .depth)]
      · simp only [depth_obj_le_iff]
        split <;> rfl
      · rintro ⟨key, value⟩ hm
        obtain ⟨hkey, hvalue⟩ := h _ hm
        simp only [hkey, ih hvalue, Bool.not_true, Bool.false_eq_true, if_false]
        by_cases hdepth : value.depth ≤ limit
        · rw [if_pos hdepth, if_pos hdepth]
          rfl
        · rw [if_neg hdepth, if_neg hdepth]
          rfl
    | float x =>
      have hfinite : x.isFinite = true := h
      rw [reportedWithin, if_pos hfinite, if_pos (by simp [depth])]
    | _ => rw [reportedWithin, if_pos (by simp [depth])] <;> simp

end Json

/-- A new member goes to the end. -/
theorem insert_of_not_mem {key : Text} {o : Object} (h : key ∉ o.map Prod.fst) (value : Json) :
    o.insert key value = o ++ [(key, value)] := by
  induction o with
  | nil => rfl
  | cons m o ih =>
    rw [List.map_cons, List.mem_cons, not_or] at h
    rw [Object.insert, if_neg (Ne.symm h.1), ih h.2]
    rfl

/-- A step that puts some members in their places and stops at the others, if their keys are
new. -/
theorem foldlM_insert_eq_ite {ε : Type} {f : Object → Text × Json → Except ε Object}
    {p : Text × Json → Prop} [DecidablePred p] {e : ε} {rest written : Object}
    (h : ∀ m ∈ rest, ∀ o, f o m = if p m then .ok (o.insert m.1 m.2) else .error e)
    (hkeys : ((written ++ rest).map Prod.fst).Nodup) :
    rest.foldlM f written = if ∀ m ∈ rest, p m then .ok (written ++ rest) else .error e := by
  induction rest generalizing written with
  | nil => simp [pure, Except.pure]
  | cons m rest ih =>
    obtain ⟨hm, hrest⟩ := List.forall_mem_cons.mp h
    rw [List.append_cons] at hkeys ⊢
    -- keys are distinct, so each member goes to the end
    have hnew : m.1 ∉ written.map Prod.fst := by
      rw [List.map_append, List.map_append, List.nodup_append, List.nodup_append] at hkeys
      exact fun hmem => hkeys.1.2.2 _ hmem _ List.mem_cons_self rfl
    rw [List.foldlM_cons, hm]
    by_cases hp : p m
    · rw [if_pos hp, insert_of_not_mem hnew]
      have hall : (∀ a ∈ m :: rest, p a) ↔ ∀ a ∈ rest, p a := by
        rw [List.forall_mem_cons]
        exact and_iff_right hp
      simp only [hall]
      exact ih hrest hkeys
    · rw [if_neg hp, if_neg fun hall => hp (List.forall_mem_cons.mp hall).1]
      rfl

/-- **A plain object is reported as it is, or one of its members is too deep.** -/
theorem Object.reported_of_isPlain {o : Object} (h : (Json.obj o).isPlain = true)
    (hkeys : (o.map Prod.fst).Nodup) :
    o.reported = if Json.depthOfMembers o ≤ Json.depthLimit then .ok o else .error .depth := by
  rw [Json.isPlain_obj_iff] at h
  rw [← List.nil_append o] at hkeys
  rw [Object.reported, foldlM_insert_eq_ite (p := fun m => m.2.depth ≤ Json.depthLimit)
    (e := .depth) ?_ hkeys]
  · simp only [Json.depthOfMembers_le_iff, List.nil_append]
  · rintro ⟨key, value⟩ hm written
    obtain ⟨hkey, hvalue⟩ := h _ hm
    simp only [mended_of_isWellFormed hkey, Json.reported, Json.reportedWithin_of_isPlain hvalue]
    by_cases hdepth : value.depth ≤ Json.depthLimit
    · rw [if_pos hdepth, if_pos hdepth]
      rfl
    · rw [if_neg hdepth, if_neg hdepth]
      rfl

end ValidationReport
