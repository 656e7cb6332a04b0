import Mathlib.Data.List.Forall2
import ValidationReport.Failure

/-!
# Where a computation fails

The entry of a signature is put together by steps that may each fail, and by
steps over lists that fail with their first failing member.  Whether the whole
fails, and with what, is read off the steps.

## Main definitions

* `Fails` — a computation ends with a failure.

## Main results

* `bind_eq_ok_iff`, `bind_eq_error_iff` — two steps in a row.
* `mapM_eq_ok_iff` — a step over a list gives the results of the members.
* `sublist_of_mapM` — fewer members give fewer results, in the same order.
* `mapM_eq_error_iff` — **a step over a list fails with its first failing
  member.**
* `fails_mapM_iff` — it fails if any member does.
* `tolerate_eq_error_iff` — what is left to fail when unreadable evidence counts
  as absent.
-/

namespace ValidationReport

universe u

/-- A computation ends with a failure. -/
def Fails {ε α : Type u} (x : Except ε α) : Prop := ∃ e, x = .error e

section

variable {ε α β : Type u}

theorem not_fails_iff {x : Except ε α} : ¬ Fails x ↔ ∃ a, x = .ok a := by
  unfold Fails
  cases x <;> simp

@[simp] theorem not_fails_ok (a : α) : ¬ Fails (.ok a : Except ε α) := by
  rintro ⟨e, he⟩
  cases he

@[simp] theorem fails_error (e : ε) : Fails (.error e : Except ε α) := ⟨e, rfl⟩

/-- What fails for one reason only, and in one way, gives a result without this reason. -/
theorem exists_ok_iff_not {x : Except ε α} {p : Prop} {e₀ : ε}
    (h : ∀ e, x = .error e ↔ p ∧ e = e₀) : (∃ a, x = .ok a) ↔ ¬ p := by
  rw [← not_fails_iff]
  unfold Fails
  simp only [h, exists_and_left, exists_eq, and_true]

/-! ### Steps in a row -/

theorem bind_eq_ok_iff {x : Except ε α} {f : α → Except ε β} {b : β} :
    (x >>= f) = .ok b ↔ ∃ a, x = .ok a ∧ f a = .ok b := by
  cases x <;> simp [bind, Except.bind]

theorem bind_eq_error_iff {x : Except ε α} {f : α → Except ε β} {e : ε} :
    (x >>= f) = .error e ↔ x = .error e ∨ ∃ a, x = .ok a ∧ f a = .error e := by
  cases x <;> simp [bind, Except.bind]

theorem fails_bind_iff {x : Except ε α} {f : α → Except ε β} :
    Fails (x >>= f) ↔ Fails x ∨ ∃ a, x = .ok a ∧ Fails (f a) := by
  cases x <;> simp [bind, Except.bind]

theorem map_eq_ok_iff {x : Except ε α} {f : α → β} {b : β} :
    x.map f = .ok b ↔ ∃ a, x = .ok a ∧ f a = b := by
  cases x <;> simp [Except.map]

theorem map_eq_error_iff {x : Except ε α} {f : α → β} {e : ε} :
    x.map f = .error e ↔ x = .error e := by
  cases x <;> simp [Except.map]

@[simp] theorem fails_map_iff {x : Except ε α} {f : α → β} : Fails (x.map f) ↔ Fails x := by
  cases x <;> simp [Except.map]

/-- A second step that cannot fail. -/
theorem fails_bind_pure_iff {x : Except ε α} {f : α → β} :
    Fails (x >>= fun a => pure (f a)) ↔ Fails x := by
  cases x <;> simp [bind, Except.bind, pure, Except.pure]

/-- A second step that fails whatever the first one gives. -/
theorem fails_bind_of_forall_iff {x : Except ε α} {f : α → Except ε β} {p : Prop}
    (h : ∀ a, Fails (f a) ↔ p) : Fails (x >>= f) ↔ Fails x ∨ p := by
  cases x with
  | error e => simp [bind, Except.bind]
  | ok a => simpa [bind, Except.bind] using h a

/-- A third step that fails whatever the second one gives. -/
theorem fails_bind_bind_of_forall_iff {γ : Type u} {x : Except ε α} {f : α → Except ε β}
    {g : β → Except ε γ} {p : Prop} (h : ∀ b, Fails (g b) ↔ p) :
    Fails (x >>= fun a => f a >>= g) ↔ Fails (x >>= f) ∨ p := by
  rw [← bind_assoc, fails_bind_of_forall_iff h]

/-! ### Steps over lists -/

/-- A step over a list gives the results of the members, one by one. -/
theorem mapM_eq_ok_iff {f : α → Except ε β} : ∀ {l : List α} {l' : List β},
    l.mapM f = .ok l' ↔ List.Forall₂ (fun a b => f a = .ok b) l l' := by
  intro l
  induction l with
  | nil =>
    intro l'
    rw [List.forall₂_nil_left_iff, List.mapM_nil]
    constructor
    · intro h
      exact (Except.ok.inj h).symm
    · rintro rfl
      rfl
  | cons a l ih =>
    intro l'
    rw [List.mapM_cons, List.forall₂_cons_left_iff, bind_eq_ok_iff]
    constructor
    · rintro ⟨b, hb, hrest⟩
      obtain ⟨bs, hbs, hpure⟩ := bind_eq_ok_iff.mp hrest
      cases hpure
      exact ⟨b, bs, hb, ih.mp hbs, rfl⟩
    · rintro ⟨b, bs, hb, hbs, rfl⟩
      exact ⟨b, hb, bind_eq_ok_iff.mpr ⟨bs, ih.mpr hbs, rfl⟩⟩

/-- Fewer members give fewer results, in the same order. -/
theorem sublist_of_mapM {f : α → Except ε β} {l l' : List α} (h : l.Sublist l') :
    ∀ {k k' : List β}, l.mapM f = .ok k → l'.mapM f = .ok k' → k.Sublist k' := by
  induction h with
  | slnil =>
    intro k k' hk _
    cases hk
    exact List.nil_sublist k'
  | cons a _ ih =>
    -- The longer list has a member more, and its result is the one that is left out.
    intro k k' hk hk'
    obtain ⟨b, bs, -, hbs, rfl⟩ := List.forall₂_cons_left_iff.mp (mapM_eq_ok_iff.mp hk')
    have hrest : k.Sublist bs := ih hk (mapM_eq_ok_iff.mpr hbs)
    exact hrest.cons b
  | cons_cons a _ ih =>
    intro k k' hk hk'
    obtain ⟨b, bs, hb, hbs, rfl⟩ := List.forall₂_cons_left_iff.mp (mapM_eq_ok_iff.mp hk)
    obtain ⟨b', bs', hb', hbs', rfl⟩ := List.forall₂_cons_left_iff.mp (mapM_eq_ok_iff.mp hk')
    have hsame : b = b' := Except.ok.inj (hb.symm.trans hb')
    have hrest : bs.Sublist bs' := ih (mapM_eq_ok_iff.mpr hbs) (mapM_eq_ok_iff.mpr hbs')
    rw [hsame]
    exact hrest.cons_cons b'

/-- **A step over a list fails with its first failing member.** -/
theorem mapM_eq_error_iff {f : α → Except ε β} {e : ε} : ∀ {l : List α},
    l.mapM f = .error e ↔ ∃ before a after, l = before ++ a :: after ∧
      (∀ b ∈ before, ∃ v, f b = .ok v) ∧ f a = .error e := by
  intro l
  induction l with
  | nil => simp [pure, Except.pure]
  | cons c l ih =>
    rw [List.mapM_cons, bind_eq_error_iff]
    constructor
    · rintro (hc | ⟨v, hv, hrest⟩)
      · exact ⟨[], c, l, rfl, by simp, hc⟩
      · rcases bind_eq_error_iff.mp hrest with hl | ⟨vs, -, hpure⟩
        · obtain ⟨before, a, after, rfl, hbefore, ha⟩ := ih.mp hl
          refine ⟨c :: before, a, after, rfl, ?_, ha⟩
          intro b hb
          rcases List.mem_cons.mp hb with rfl | hb
          · exact ⟨v, hv⟩
          · exact hbefore b hb
        · cases hpure
    · rintro ⟨before, a, after, hsplit, hbefore, ha⟩
      cases before with
      | nil =>
        obtain ⟨rfl, rfl⟩ := List.cons.inj hsplit
        exact Or.inl ha
      | cons b before =>
        obtain ⟨rfl, rfl⟩ := List.cons.inj hsplit
        obtain ⟨v, hv⟩ := hbefore c List.mem_cons_self
        refine Or.inr ⟨v, hv, bind_eq_error_iff.mpr (Or.inl (ih.mpr ?_))⟩
        exact ⟨before, a, after, rfl, fun b hb => hbefore b (List.mem_cons_of_mem c hb), ha⟩

/-- Each result of a step over a list is the result of a member. -/
theorem exists_of_mem_mapM {f : α → Except ε β} {b : β} {l : List α} {l' : List β}
    (h : l.mapM f = .ok l') (hb : b ∈ l') : ∃ a ∈ l, f a = .ok b := by
  obtain ⟨i, hi, rfl⟩ := List.getElem_of_mem hb
  have hresults := mapM_eq_ok_iff.mp h
  have hi' : i < l.length := hresults.length_eq ▸ hi
  exact ⟨l[i], List.getElem_mem hi', hresults.get hi' hi⟩

/-- A step over a list fails if any member does. -/
theorem fails_mapM_iff {f : α → Except ε β} : ∀ {l : List α},
    Fails (l.mapM f) ↔ ∃ a ∈ l, Fails (f a) := by
  intro l
  induction l with
  | nil => simp [pure, Except.pure]
  | cons c l ih =>
    rw [List.mapM_cons, fails_bind_of_forall_iff fun _ => fails_bind_pure_iff, ih]
    simp

end

/-! ### Tolerated evidence -/

/-- Only a fatal flaw is left to fail. -/
theorem tolerate_eq_error_iff {α : Type} {standIn : α} {x : Except Flaw α} {failure : Failure} :
    Flaw.tolerate standIn x = .error failure ↔ x = .error (.fatal failure) := by
  rcases x with ⟨_ | _⟩ | _ <;> simp [Flaw.tolerate]

/-- What is tolerated fails exactly when the flaw is fatal. -/
theorem fails_tolerate_iff {α : Type} {standIn : α} {x : Except Flaw α} :
    Fails (Flaw.tolerate standIn x) ↔ ∃ failure, x = .error (.fatal failure) := by
  unfold Fails
  simp only [tolerate_eq_error_iff]

/-- What is tolerated is what was read, or stands in for it. -/
theorem tolerate_eq_ok {α : Type} {standIn a : α} {x : Except Flaw α}
    (h : Flaw.tolerate standIn x = .ok a) : a = standIn ∨ x = .ok a := by
  rcases x with ⟨_ | _⟩ | _
  · exact Or.inl (Except.ok.inj h).symm
  · cases h
  · exact Or.inr (by rw [Except.ok.inj h])

theorem readable_eq_ok_iff {α : Type} {a : Option α} {b : α} :
    Flaw.readable a = .ok b ↔ a = some b := by
  cases a <;> simp [Flaw.readable]

/-- Evidence that merely is not there is not fatal. -/
theorem readable_ne_fatal {α : Type} (a : Option α) (failure : Failure) :
    Flaw.readable a ≠ .error (.fatal failure) := by
  cases a <;> simp [Flaw.readable]

end ValidationReport
