import Mathlib.Data.List.Forall2
import ValidationReport.Proofs.Verdict

/-!
# What the service answers

A request can be refused for two independent reasons, and when both hold the
policy goes first: facts are not even read for a policy that is not known.  Once
the policy is known and the facts are read, nothing in them keeps the report from
being made.  Damaged certificates, answers of responders, times and sizes show up
in the entry of their own signature at most.

## Main definitions

* `Assembly.IsEntryOf` — the entry of a signature, made or standing in for one
  that could not be processed.
* `Layers.Complete` — a report with all its layers and an entry for every
  signature.

## Main results

* `validate_of_unknownPolicy`, `validate_of_fault` — the two refusals, in order.
* `Assembly.complete_layersAt` — the layers of a time are complete.
* `outcome_of_validate` — **an unknown policy is refused first, unreadable facts
  next, and every other request is answered with a complete report.**
-/

namespace ValidationReport

/-! ### Policies -/

theorem lookup_eq_none_iff_not_mem {α β : Type} [BEq α] [LawfulBEq α] {key : α} {l : List (α × β)} :
    l.lookup key = none ↔ key ∉ l.map Prod.fst := by
  rw [List.lookup_eq_none_iff]
  simp only [bne_iff_ne, ne_eq, List.mem_map, not_exists, not_and]
  constructor
  · intro h p hp heq
    exact h p hp heq.symm
  · intro h p hp heq
    exact h p hp heq.symm

/-- A policy is found exactly if its key is in the table. -/
theorem resolvePolicy_eq_ok_iff {identifier : Option Text} {table : PolicyTable} {standard : Text}
    {policy : Policy} : resolvePolicy identifier table standard = .ok policy ↔
      table.lookup (policyKey identifier standard) = some policy := by
  unfold resolvePolicy
  cases table.lookup (policyKey identifier standard) <;> simp

section

variable {settings : Settings} {table : PolicyTable} {time : Moment} {r : Request}

/-- An unknown policy is refused, whatever the facts. -/
theorem validate_of_unknownPolicy
    (h : policyKey r.policy settings.defaultPolicy ∉ table.map Prod.fst) :
    validate settings table time r =
      .error (.refused (.unknownPolicy (identifierShown r.policy settings.defaultPolicy))) := by
  unfold validate policyFor resolvePolicy
  rw [lookup_eq_none_iff_not_mem.mpr h]
  rfl

/-- Facts that cannot be read are refused under a policy that is known. -/
theorem validate_of_fault {policy : Policy} {fault : Json.Fault}
    (hpolicy : table.lookup (policyKey r.policy settings.defaultPolicy) = some policy)
    (hfault : r.facts.load = .error fault) :
    validate settings table time r = .error (.ofFault fault) := by
  unfold validate policyFor Payload.facts
  rw [resolvePolicy_eq_ok_iff.mpr hpolicy, hfault]
  rfl

end

/-! ### Complete reports -/

/-- The entry of a signature: the one that could be made, or the one that stands in for it. -/
def Assembly.IsEntryOf (a : Assembly) (s : SignatureFacts) (e : SignatureEntry) : Prop :=
  e.id = s.id ∧ (a.entry s = .ok e ∧ a.Describes s e ∨ Fails (a.entry s) ∧ e = a.failedEntry s)

theorem Assembly.isEntryOf_entryOrFailure (a : Assembly) (s : SignatureFacts) :
    a.IsEntryOf s (a.entryOrFailure s) := by
  refine ⟨a.id_entryOrFailure s, ?_⟩
  rcases a.entryOrFailure_cases s with ⟨e, hok, he, hdescribes⟩ | ⟨hfails, he⟩
  · rw [he]
    exact Or.inl ⟨hok, hdescribes⟩
  · exact Or.inr ⟨hfails, he⟩

/-- A report with one conclusion in all its layers, with the data of the engine in the layer that is
asked for, and with an entry for every signature, in order. -/
structure Layers.Complete (l : Layers) (a : Assembly) (type : ReportType) (time : Moment) :
    Prop where
  detailed : l.detailed.conclusion = l.simple.conclusion
  diagnostic : l.diagnostic.conclusion = l.simple.conclusion
  validationProcess : l.detailed.validationProcess =
    if type = .detailed then a.facts.validationProcess else none
  diagnosticData : l.diagnostic.diagnosticData =
    if type = .diagnostic then a.facts.diagnosticData else none
  policy : l.simple.conclusion.policy = a.policy
  validationTime : ∃ c, time.utc = .ok c ∧ l.simple.conclusion.validationTime = c.utcText
  document : l.simple.conclusion.document =
    validatedDocument a.hashed a.document.filename a.document.content
  signatureForm : l.simple.conclusion.signatureForm = a.format.form a.facts
  warnings : l.simple.conclusion.warnings = a.facts.containerWarnings.map Issue.message
  signaturesCount : l.simple.conclusion.signaturesCount = a.facts.signatures.length
  entries : List.Forall₂ a.IsEntryOf a.facts.signatures l.simple.conclusion.signatures

/-- The layers of a time are complete. -/
theorem Assembly.complete_layersAt (a : Assembly) (type : ReportType) {time : Moment} {c : Civil}
    (h : time.utc = .ok c) : (a.layersAt c.utcText type).Complete a type time where
  detailed := rfl
  diagnostic := rfl
  validationProcess := rfl
  diagnosticData := rfl
  policy := rfl
  validationTime := ⟨c, h, rfl⟩
  document := rfl
  signatureForm := rfl
  warnings := rfl
  signaturesCount := List.length_map _
  entries := by
    show List.Forall₂ a.IsEntryOf a.facts.signatures (a.facts.signatures.map a.entryOrFailure)
    rw [List.forall₂_map_right_iff, List.forall₂_same]
    intro s _
    exact a.isEntryOf_entryOrFailure s

/-! ### Samples -/

/-- Octets that are no text. -/
def Payload.unreadable : Payload := .bytes [0xFF]

/-- Facts about a signature that cannot be processed. -/
def Payload.untimely : Payload := .value (.obj [("documentFormat", .str "PDF"),
  ("signatures", .arr [.obj [("id", .str "S0"), ("indication", .str "PASSED"),
    ("claimed_signing_time", .str "0001-01-01T00:00+01:00")]])])

/-- A request for a report on a document without a content. -/
def Request.onFacts (policy : Option Text) (facts : Payload) : Request :=
  ⟨⟨"doc", [], none, []⟩, facts, policy, .simple⟩

/-! ### Answers -/

/-- **An unknown policy is refused first, unreadable facts next, and every other request is answered
with a complete report.**  The facts are not looked at before the policy is known, and nothing in
facts that were read keeps the report from being made. -/
theorem outcome_of_validate (settings : Settings) (table : PolicyTable) (r : Request)
    {time : Moment} (h : time.InRange) :
    (policyKey r.policy settings.defaultPolicy ∉ table.map Prod.fst →
      validate settings table time r =
        .error (.refused (.unknownPolicy (identifierShown r.policy settings.defaultPolicy)))) ∧
    (policyKey r.policy settings.defaultPolicy ∈ table.map Prod.fst →
      (∀ fault, r.facts.load = .error fault →
        validate settings table time r = .error (.ofFault fault)) ∧
      ∀ facts, r.facts.load = .ok facts → ∃ policy l,
        table.lookup (policyKey r.policy settings.defaultPolicy) = some policy ∧
        validate settings table time r = .ok l ∧
        l.Complete (.ofFacts facts r.document policy settings.reportSignatureEnabled)
          r.reportType time) := by
  refine ⟨validate_of_unknownPolicy, fun hknown => ?_⟩
  have hfound : table.lookup (policyKey r.policy settings.defaultPolicy) ≠ none := by
    rw [ne_eq, lookup_eq_none_iff_not_mem, not_not]
    exact hknown
  obtain ⟨policy, hpolicy⟩ := Option.ne_none_iff_exists'.mp hfound
  refine ⟨fun fault hfault => validate_of_fault hpolicy hfault, fun facts hfacts => ?_⟩
  obtain ⟨c, hc, htext⟩ := h.exists_utcText
  refine ⟨policy, (Assembly.ofFacts facts r.document policy
    settings.reportSignatureEnabled).layersAt c.utcText r.reportType, hpolicy, ?_,
    Assembly.complete_layersAt _ r.reportType hc⟩
  apply validate_eq_ok (resolvePolicy_eq_ok_iff.mpr hpolicy)
  · unfold Payload.facts
    rw [hfacts]
    rfl
  · rw [Assembly.layers_eq, htext]
    rfl

/-- Of two obstacles the policy is told; without it the facts; and a signature that cannot be
processed is no obstacle. -/
theorem outcome_of_validate_samples :
    Moment.noon.InRange ∧
      validate .standard standardPolicies .noon (.onFacts (some "POLv5") .unreadable) =
        .error (.refused (.unknownPolicy "POLv5")) ∧
      validate .standard standardPolicies .noon (.onFacts (some " POLv3 ") .unreadable) =
        .error (.refused .malformedFacts) ∧
      ∃ l, validate .standard standardPolicies .noon (.onFacts none .untimely) = .ok l ∧
        l.Complete (.ofFacts (.ofSignatures "PDF" [.untimely "S0"] []) ⟨"doc", [], none, []⟩
          qesPolicy false) .simple .noon := by
  have hnoon : Moment.noon.InRange := by decide
  have hfacts : Payload.untimely.load = .ok (.ofSignatures "PDF" [.untimely "S0"] []) := by
    decide +kernel
  obtain ⟨hunknown, -⟩ := outcome_of_validate .standard standardPolicies
    (.onFacts (some "POLv5") .unreadable) hnoon
  obtain ⟨-, hknown⟩ := outcome_of_validate .standard standardPolicies
    (.onFacts (some " POLv3 ") .unreadable) hnoon
  obtain ⟨-, hstandard⟩ := outcome_of_validate .standard standardPolicies
    (.onFacts none .untimely) hnoon
  obtain ⟨policy, l, hpolicy, hl, hcomplete⟩ := (hstandard (by decide)).2 _ hfacts
  refine ⟨hnoon, hunknown (by decide), (hknown (by decide)).1 _ rfl, l, hl, ?_⟩
  obtain rfl : qesPolicy = policy := Option.some.inj hpolicy
  exact hcomplete

end ValidationReport
