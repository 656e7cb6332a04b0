import ValidationReport.Text.Blank

/-!
# Policies

A policy says which qualification levels a signature must reach: accepted levels pass, levels under
a warning pass with one, and every other level is turned down.  A policy that accepts no level asks
for none.  Policies are looked up by key in a table.

## Main definitions

* `Policy` — a policy.
* `adesPolicy`, `qesPolicy`, `standardPolicies` — the policies that are always known.
* `resolvePolicy` — the policy that an identifier asks for.
-/

namespace ValidationReport

/-- A policy. -/
structure Policy where
  name : Text
  description : Text
  url : Text
  accepted : List Text
  warned : List Text
  deriving DecidableEq, Repr

/-- A policy asks for a level as soon as it accepts one. -/
def Policy.requiresLevel (p : Policy) : Bool := !p.accepted.isEmpty

/-- Signatures of any legal type. -/
def adesPolicy : Policy where
  name := "POLv3"
  description := "Policy for validating Electronic Signatures and Electronic Seals regardless of the legal type of the signature or seal (according to Regulation (EU) No 910/2014), i.e. the fact that the electronic signature or electronic seal is either Advanced electronic Signature (AdES), AdES supported by a Qualified Certificate (AdES/QC) or a Qualified electronic Signature (QES) does not change the total validation result of the signature."
  url := "http://open-eid.github.io/SiVa/siva3/appendix/validation_policy/#POLv3"
  accepted := []
  warned := []

/-- Qualified signatures, and seals with a qualified certificate. -/
def qesPolicy : Policy where
  name := "POLv4"
  description := "Policy according most common requirements of Estonian Public Administration, to validate Qualified Electronic Signatures and Electronic Seals with Qualified Certificates (according to Regulation (EU) No 910/2014). I.e. signatures that have been recognized as Advanced electronic Signatures (AdES) and AdES supported by a Qualified Certificate (AdES/QC) do not produce a positive validation result."
  url := "http://open-eid.github.io/SiVa/siva3/appendix/validation_policy/#POLv4"
  accepted := ["QESIG", "QESEAL", "QES", "ADESEAL_QC"]
  warned := ["ADESIG_QC"]

/-- Policies by key. -/
abbrev PolicyTable := List (Text × Policy)

/-- The policies that are always known, by name. -/
def standardPolicies : PolicyTable := [adesPolicy, qesPolicy].map fun p => (p.name, p)

/-- The key that an identifier asks for: the identifier without blanks around it, or the default
if nothing is left. -/
def policyKey (identifier : Option Text) (standard : Text) : Text :=
  let key := (identifier.getD []).trim
  if key.isEmpty then standard else key

/-- An identifier in a message: as it was given, or the key if nothing was. -/
def identifierShown (identifier : Option Text) (standard : Text) : Text :=
  let given := identifier.getD []
  if given.isEmpty then policyKey identifier standard else given

/-- The policy that an identifier asks for, or the identifier if the table has no such key. -/
def resolvePolicy (identifier : Option Text) (table : PolicyTable) (standard : Text) :
    Except Text Policy :=
  match table.lookup (policyKey identifier standard) with
  | some policy => .ok policy
  | none => .error (identifierShown identifier standard)

end ValidationReport
