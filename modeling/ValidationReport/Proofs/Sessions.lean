import Mathlib.Data.List.Induction
import ValidationReport.Service

/-!
# Settings over a session

Settings are read when somebody asks for them, and what was read once is kept until
it is cleared.  So the answer to a step may hang on a step long past: on the first
reading since the last clear that did not fail.  If there is such a reading, its
settings are in force, whatever has become of the environment, and asking for them
cannot fail.  If there is none, the environment of the moment is read.

Both are told of the history alone, the steps so far and the environment that they
leave, and the session is shown to keep just the settings in force.

## Main definitions

* `SessionStep.asks` — the steps that ask for the settings that are kept.
* `Environment.after` — the environment that steps leave.
* `NoneInForce`, `InForce` — what the history says about the settings.
* `Session.after`, `Session.Answers` — the session that steps leave, and what is
  answered to the step after them.

## Main results

* `noneInForce_append_singleton_iff`, `inForce_append_singleton_iff` — one more step.
* `kept_after` — **the session keeps the settings in force, and no others.**
* `answers_of_session` — **the answer to every step, by its history.**
-/

namespace ValidationReport

/-! ### Histories -/

/-- The steps that ask for the settings that are kept. -/
def SessionStep.asks : SessionStep → Bool
  | .settings => true
  | .validate .. => true
  | _ => false

/-- The environment after a step.  Only setting and unsetting a variable change it. -/
def SessionStep.change (e : Environment) : SessionStep → Environment
  | .set name value => e.set name value
  | .unset name => e.unset name
  | _ => e

/-- The environment that steps leave. -/
def Environment.after (e : Environment) (steps : List SessionStep) : Environment :=
  steps.foldl SessionStep.change e

/-- No reading since the last clear has given settings: each that could was followed by a clear. -/
def NoneInForce (e : Environment) (steps : List SessionStep) : Prop :=
  ∀ before step after, steps = before ++ step :: after → step.asks = true →
    Settings.read? (e.after before) ≠ none → SessionStep.clear ∈ after

/-- The settings of the first reading since the last clear that gave any, told by the steps before
it and after it. -/
structure FirstReading (e : Environment) (before : List SessionStep) (step : SessionStep)
    (after : List SessionStep) (settings : Settings) : Prop where
  first : NoneInForce e before
  asks : step.asks = true
  read : Settings.read? (e.after before) = some settings
  kept : SessionStep.clear ∉ after

/-- The settings that are in force after steps. -/
def InForce (e : Environment) (steps : List SessionStep) (settings : Settings) : Prop :=
  ∃ before step after, steps = before ++ step :: after ∧ FirstReading e before step after settings

/-- The session that steps leave. -/
def Session.after (s : Session) (steps : List SessionStep) : Session :=
  steps.foldl (fun s step => (s.step step).2) s

/-- A session in which nothing has been read. -/
def Session.opened (e : Environment) : Session := ⟨e, none⟩

/-- What is answered to a step that comes after others, in every run that goes on from there. -/
def Session.Answers (s : Session) (steps : List SessionStep) (step : SessionStep)
    (answer : SessionAnswer) : Prop :=
  ∀ rest, (s.run (steps ++ step :: rest))[steps.length]? = some answer

/-! ### One more step -/

section

variable {e : Environment} {steps : List SessionStep} {step : SessionStep} {settings : Settings}

/-- A step of a longer history is the last one, or one of the others. -/
theorem append_singleton_eq_append_cons_iff {α : Type} {l before after : List α} {a b : α} :
    l ++ [a] = before ++ b :: after ↔
      (l = before ∧ a = b ∧ after = []) ∨
        ∃ rest, after = rest ++ [a] ∧ l = before ++ b :: rest := by
  constructor
  · intro h
    rcases List.eq_nil_or_concat after with rfl | ⟨rest, x, rfl⟩
    · obtain ⟨rfl, hlast⟩ := List.append_inj' h rfl
      exact Or.inl ⟨rfl, List.singleton_inj.mp hlast, rfl⟩
    · have hends : l ++ [a] = (before ++ b :: rest) ++ [x] := by simpa using h
      obtain ⟨hfront, hlast⟩ := List.append_inj' hends rfl
      refine Or.inr ⟨rest, ?_, hfront⟩
      rw [List.singleton_inj.mp hlast, List.concat_eq_append]
  · rintro (⟨rfl, rfl, rfl⟩ | ⟨rest, rfl, rfl⟩)
    · rfl
    · simp

theorem noneInForce_nil : NoneInForce e [] := by
  intro before step after h
  simp at h

/-- Nothing is in force after a clear, or if nothing was and the step gave no settings. -/
theorem noneInForce_append_singleton_iff : NoneInForce e (steps ++ [step]) ↔
    step = .clear ∨
      NoneInForce e steps ∧ (step.asks = true → Settings.read? (e.after steps) = none) := by
  constructor
  · intro h
    by_cases hclear : step = .clear
    · exact Or.inl hclear
    · refine Or.inr ⟨?_, ?_⟩
      · intro before read after hsteps hasks hread
        have hmem := h before read (after ++ [step]) (by rw [hsteps]; simp) hasks hread
        rcases List.mem_append.mp hmem with hafter | hlast
        · exact hafter
        · exact absurd (List.mem_singleton.mp hlast).symm hclear
      · intro hasks
        by_contra hread
        simpa using h steps step [] rfl hasks hread
  · intro h before read after hsteps hasks hread
    rcases append_singleton_eq_append_cons_iff.mp hsteps with
      ⟨rfl, rfl, rfl⟩ | ⟨rest, rfl, hfront⟩
    · -- the reading is the last step, which gave settings
      rcases h with rfl | ⟨-, hfails⟩
      · cases hasks
      · exact absurd (hfails hasks) hread
    · rcases h with rfl | ⟨hnone, -⟩
      · simp
      · exact List.mem_append_left _ (hnone before read rest hfront hasks hread)

/-- Settings stay in force until a clear, and come into force by the first reading that gives
them. -/
theorem inForce_append_singleton_iff : InForce e (steps ++ [step]) settings ↔
    step ≠ .clear ∧ (InForce e steps settings ∨
      NoneInForce e steps ∧ step.asks = true ∧ Settings.read? (e.after steps) = some settings) := by
  constructor
  · rintro ⟨before, read, after, hsteps, h⟩
    rcases append_singleton_eq_append_cons_iff.mp hsteps with
      ⟨rfl, rfl, rfl⟩ | ⟨rest, rfl, hfront⟩
    · refine ⟨?_, Or.inr ⟨h.first, h.asks, h.read⟩⟩
      rintro rfl
      cases h.asks
    · have hkept := h.kept
      rw [List.mem_append, not_or, List.mem_singleton] at hkept
      exact ⟨fun hclear => hkept.2 hclear.symm,
        Or.inl ⟨before, read, rest, hfront, h.first, h.asks, h.read, hkept.1⟩⟩
  · rintro ⟨hclear, ⟨before, read, after, rfl, h⟩ | ⟨hnone, hasks, hread⟩⟩
    · refine ⟨before, read, after ++ [step], by simp, h.first, h.asks, h.read, ?_⟩
      rw [List.mem_append, not_or, List.mem_singleton]
      exact ⟨h.kept, fun hlast => hclear hlast.symm⟩
    · exact ⟨steps, step, [], rfl, hnone, hasks, hread, by simp⟩

end

/-! ### The session -/

namespace Session

variable (s : Session) (steps : List SessionStep) (step : SessionStep)

/-- Settings that are asked for are those that were kept, or else those that can be read. -/
theorem settings_fst : s.settings.1 = s.kept.or (Settings.read? s.environment) := by
  unfold settings
  cases s.kept with
  | some kept => rfl
  | none => cases Settings.read? s.environment <;> rfl

/-- Settings that were told are kept. -/
theorem kept_settings : s.settings.2.kept = s.settings.1 := by
  unfold settings
  cases hkept : s.kept with
  | some kept => exact hkept
  | none =>
    cases Settings.read? s.environment with
    | some read => rfl
    | none => exact hkept

theorem environment_settings : s.settings.2.environment = s.environment := by
  unfold settings
  cases s.kept with
  | some kept => rfl
  | none => cases Settings.read? s.environment <;> rfl

theorem environment_step : (s.step step).2.environment = step.change s.environment := by
  cases step with
  | settings => exact s.environment_settings
  | validate request time table => exact s.environment_settings
  | _ => rfl

/-- After a step settings are kept that were kept before, or that the step has read. -/
theorem kept_step_eq_some_iff {settings : Settings} : (s.step step).2.kept = some settings ↔
    step ≠ .clear ∧ (s.kept = some settings ∨
      s.kept = none ∧ step.asks = true ∧ Settings.read? s.environment = some settings) := by
  cases step with
  | clear => simp [Session.step, clear]
  | settings => simp [Session.step, SessionStep.asks, kept_settings, settings_fst]
  | validate request time table =>
    simp [Session.step, SessionStep.asks, kept_settings, settings_fst]
  | _ => simp [Session.step, SessionStep.asks]

/-- After a step nothing is kept if it was a clear, or if nothing was kept and the step has read
nothing. -/
theorem kept_step_eq_none_iff : (s.step step).2.kept = none ↔
    step = .clear ∨
      s.kept = none ∧ (step.asks = true → Settings.read? s.environment = none) := by
  cases step with
  | clear => simp [Session.step, clear]
  | settings => simp [Session.step, SessionStep.asks, kept_settings, settings_fst]
  | validate request time table =>
    simp [Session.step, SessionStep.asks, kept_settings, settings_fst]
  | _ => simp [Session.step, SessionStep.asks]

theorem after_append_singleton : s.after (steps ++ [step]) = ((s.after steps).step step).2 := by
  simp [after]

theorem after_append (others : List SessionStep) :
    s.after (steps ++ others) = (s.after steps).after others := List.foldl_append

/-- A run is one of its beginning and one of what follows, in the session left by the beginning. -/
theorem run_append (others : List SessionStep) :
    s.run (steps ++ others) = s.run steps ++ (s.after steps).run others := by
  induction steps generalizing s with
  | nil => rfl
  | cons step steps ih =>
    rw [List.cons_append, run, run, ih, List.cons_append]
    rfl

theorem length_run : (s.run steps).length = steps.length := by
  induction steps generalizing s with
  | nil => rfl
  | cons step steps ih => rw [run, List.length_cons, List.length_cons, ih]

/-- A step is answered in the session that the steps before it leave. -/
theorem answers_iff {answer : SessionAnswer} :
    s.Answers steps step answer ↔ ((s.after steps).step step).1 = answer := by
  have hrun : ∀ rest, (s.run (steps ++ step :: rest))[steps.length]? =
      some ((s.after steps).step step).1 := by
    intro rest
    have hlength : (s.run steps).length ≤ steps.length := Nat.le_of_eq (s.length_run steps)
    rw [run_append, List.getElem?_append_right hlength, length_run, Nat.sub_self]
    rfl
  constructor
  · intro h
    exact Option.some.inj ((hrun []).symm.trans (h []))
  · rintro rfl
    exact hrun

end Session

theorem Environment.after_append_singleton (e : Environment) (steps : List SessionStep)
    (step : SessionStep) : e.after (steps ++ [step]) = step.change (e.after steps) := by
  simp [after]

/-- **The session keeps the settings in force, and no others.**  Its environment is the one that
the steps leave. -/
theorem kept_after (e : Environment) (steps : List SessionStep) :
    ((Session.opened e).after steps).environment = e.after steps ∧
    (((Session.opened e).after steps).kept = none ↔ NoneInForce e steps) ∧
    ∀ settings,
      ((Session.opened e).after steps).kept = some settings ↔ InForce e steps settings := by
  induction steps using List.reverseRecOn with
  | nil =>
    refine ⟨rfl, iff_of_true rfl noneInForce_nil, fun settings => ?_⟩
    refine iff_of_false (by simp [Session.after, Session.opened]) ?_
    rintro ⟨before, step, after, h, -⟩
    simp at h
  | append_singleton steps step ih =>
    obtain ⟨henvironment, hnone, hforce⟩ := ih
    rw [Session.after_append_singleton, Environment.after_append_singleton]
    refine ⟨?_, ?_, fun settings => ?_⟩
    · rw [Session.environment_step, henvironment]
    · rw [Session.kept_step_eq_none_iff, noneInForce_append_singleton_iff, henvironment, hnone]
    · rw [Session.kept_step_eq_some_iff, inForce_append_singleton_iff, henvironment, hnone, hforce]

/-- Settings in force are told to whoever asks. -/
theorem told_of_inForce {e : Environment} {steps : List SessionStep} {settings : Settings}
    (h : InForce e steps settings) :
    ((Session.opened e).after steps).settings.1 = some settings := by
  obtain ⟨-, -, hforce⟩ := kept_after e steps
  rw [Session.settings_fst, (hforce settings).mpr h]
  rfl

/-- If none are in force, the environment of the moment is told. -/
theorem told_of_noneInForce {e : Environment} {steps : List SessionStep}
    (h : NoneInForce e steps) :
    ((Session.opened e).after steps).settings.1 = Settings.read? (e.after steps) := by
  obtain ⟨henvironment, hnone, -⟩ := kept_after e steps
  rw [Session.settings_fst, hnone.mpr h, henvironment]
  rfl

/-- Either nothing is in force, or one setting and no other. -/
theorem noneInForce_or_inForce (e : Environment) (steps : List SessionStep) :
    NoneInForce e steps ∨ ∃ settings, ∀ other, InForce e steps other ↔ other = settings := by
  obtain ⟨-, hnone, hforce⟩ := kept_after e steps
  cases hkept : ((Session.opened e).after steps).kept with
  | none => exact Or.inl (hnone.mp hkept)
  | some settings =>
    refine Or.inr ⟨settings, fun other => ?_⟩
    rw [← hforce other, hkept, Option.some.injEq]
    exact eq_comm

/-! ### Answers -/

/-- Once there are settings, a request does not fail on them. -/
theorem validate_ne_unreadableSettings (settings : Settings) (table : PolicyTable) (time : Moment)
    (r : Request) : validate settings table time r ≠ .error .unreadableSettings := by
  unfold validate policyFor Payload.facts
  cases resolvePolicy r.policy table settings.defaultPolicy with
  | error shown => simp [Except.mapError, bind, Except.bind]
  | ok policy =>
    cases r.facts.load with
    | error fault => cases fault <;> simp [Except.mapError, bind, Except.bind, Obstacle.ofFault]
    | ok facts =>
      simp only [Except.mapError, bind, Except.bind]
      cases (Assembly.ofFacts facts r.document policy settings.reportSignatureEnabled).layers
        r.reportType time <;> simp

/-- **The answer to every step, by its history.**  Settings in force are told, and requests are
answered with them, whatever the environment; nothing fails on them.  If none are in force, as in
the beginning and after every clear, the environment of the moment decides, and a reading that fails
leaves nothing behind.  Fresh settings are those of the environment, and asking for them changes no
later answer.  At most one setting is in force at a time, and if there is none, that is what the
history says. -/
theorem answers_of_session (e : Environment) (steps : List SessionStep) :
    (∀ settings, InForce e steps settings →
      (Session.opened e).Answers steps .settings (.settings (.ok settings)) ∧
      ∀ r time table,
        (Session.opened e).Answers steps (.validate r time table)
          (.report (validate settings table time r)) ∧
        validate settings table time r ≠ .error .unreadableSettings) ∧
    (NoneInForce e steps →
      (Session.opened e).Answers steps .settings
        (.settings (settingsOr (Settings.read? (e.after steps)))) ∧
      (∀ r time table, (Session.opened e).Answers steps (.validate r time table)
        (.report ((settingsOr (Settings.read? (e.after steps))).bind fun settings =>
          validate settings table time r))) ∧
      (Settings.read? (e.after steps) = none → ∀ step : SessionStep, step.asks = true →
        NoneInForce e (steps ++ [step]) ∧
          ((Session.opened e).after (steps ++ [step])).kept = none)) ∧
    NoneInForce e [] ∧ NoneInForce e (steps ++ [.clear]) ∧
    (Session.opened e).Answers steps .freshSettings
      (.settings (settingsOr (Settings.read? (e.after steps)))) ∧
    (∀ later step answer,
      (Session.opened e).Answers (steps ++ .freshSettings :: later) step answer ↔
        (Session.opened e).Answers (steps ++ later) step answer) ∧
    (NoneInForce e steps ∨ ∃ settings, ∀ other, InForce e steps other ↔ other = settings) := by
  simp only [Session.answers_iff]
  refine ⟨?_, ?_, noneInForce_nil, noneInForce_append_singleton_iff.mpr (Or.inl rfl), ?_, ?_,
    noneInForce_or_inForce e steps⟩
  · intro settings hforce
    have htold := told_of_inForce hforce
    refine ⟨?_, fun r time table => ⟨?_, validate_ne_unreadableSettings settings table time r⟩⟩
    · simp only [Session.step, htold]
      rfl
    · simp only [Session.step, htold]
      rfl
  · intro hnone
    have htold := told_of_noneInForce hnone
    refine ⟨?_, fun r time table => ?_, fun hfails step hasks => ?_⟩
    · simp only [Session.step, htold]
    · simp only [Session.step, htold]
    · -- nothing has been read by the last step either
      have hstill : NoneInForce e (steps ++ [step]) :=
        noneInForce_append_singleton_iff.mpr (Or.inr ⟨hnone, fun _ => hfails⟩)
      exact ⟨hstill, (kept_after e (steps ++ [step])).2.1.mpr hstill⟩
  · simp only [Session.step, Session.freshSettings, (kept_after e steps).1]
  · intro later step answer
    rw [Session.after_append, Session.after_append]
    rfl

/-- A reading that fails on a word, one that does not, and a variable that is set too late. -/
def lateHistory : List SessionStep :=
  [.set "SIGREPORT_REPORT_SIGNATURE_ENABLED" "perhaps", .settings,
    .set "SIGREPORT_REPORT_SIGNATURE_ENABLED" "on", .settings,
    .set "Sigreport_Default_Policy" "POLv3"]

/-- The second reading is in force, until a clear lets the late variable through. -/
theorem answers_of_session_late :
    InForce [] lateHistory { Settings.standard with reportSignatureEnabled := true } ∧
      (Session.opened []).Answers lateHistory .settings
        (.settings (.ok { Settings.standard with reportSignatureEnabled := true })) ∧
      (Session.opened []).Answers lateHistory .freshSettings (.settings (.ok
        { Settings.standard with reportSignatureEnabled := true, defaultPolicy := "POLv3" })) ∧
      (Session.opened []).Answers (lateHistory ++ [.clear]) .settings (.settings (.ok
        { Settings.standard with reportSignatureEnabled := true, defaultPolicy := "POLv3" })) := by
  have hset : NoneInForce [] ([] ++ [.set "SIGREPORT_REPORT_SIGNATURE_ENABLED" "perhaps"]) :=
    noneInForce_append_singleton_iff.mpr (Or.inr ⟨noneInForce_nil, fun hasks => by cases hasks⟩)
  have hfailed : NoneInForce [] (lateHistory.take 2) :=
    noneInForce_append_singleton_iff.mpr (Or.inr ⟨hset, fun _ => by decide⟩)
  have hbefore : NoneInForce [] (lateHistory.take 3) :=
    noneInForce_append_singleton_iff.mpr (Or.inr ⟨hfailed, fun hasks => by cases hasks⟩)
  have hforce : InForce [] lateHistory { Settings.standard with reportSignatureEnabled := true } :=
    ⟨lateHistory.take 3, .settings, lateHistory.drop 4, rfl, hbefore, rfl, by decide,
      by simp [lateHistory]⟩
  have hread : Settings.read? (Environment.after [] lateHistory) =
      some { Settings.standard with reportSignatureEnabled := true, defaultPolicy := "POLv3" } := by
    decide
  obtain ⟨hkept, -, -, hclear, hfresh, -⟩ := answers_of_session [] lateHistory
  obtain ⟨-, hopen, -⟩ := answers_of_session [] (lateHistory ++ [.clear])
  refine ⟨hforce, (hkept _ hforce).1, ?_, ?_⟩
  · rw [hread] at hfresh
    exact hfresh
  · have hafter := (hopen hclear).1
    rw [Environment.after_append_singleton] at hafter
    change (Session.opened []).Answers _ _
      (.settings (settingsOr (Settings.read? (Environment.after [] lateHistory)))) at hafter
    rw [hread] at hafter
    exact hafter

end ValidationReport
