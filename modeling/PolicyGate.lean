import PolicyGate.Consent.Setup
import PolicyGate.Policy.Governed
import PolicyGate.Policy.Service
import PolicyGate.Proofs.Consent.Audit
import PolicyGate.Proofs.Consent.Exchange
import PolicyGate.Proofs.Consent.Execution
import PolicyGate.Proofs.Consent.Overtaking
import PolicyGate.Proofs.Consent.Prompting
import PolicyGate.Proofs.Consent.Schedule
import PolicyGate.Proofs.Consent.Served
import PolicyGate.Proofs.Consent.Settlement
import PolicyGate.Proofs.Engine.InForce
import PolicyGate.Proofs.Engine.Rejection
import PolicyGate.Proofs.Policy.Advice
import PolicyGate.Proofs.Policy.Evaluation
import PolicyGate.Proofs.Policy.Tolerance
import PolicyGate.Proofs.Document.Stripping
import PolicyGate.Proofs.Policy.Inertness
import PolicyGate.Proofs.Document.Bags
import PolicyGate.Proofs.Document.Agreement
import PolicyGate.Proofs.Policy.Enforcement
import PolicyGate.Proofs.Policy.Reordering
import PolicyGate.Proofs.Policy.Wording
import PolicyGate.Proofs.Policy.Aliases
import PolicyGate.Proofs.Document.Layering
import PolicyGate.Proofs.Policy.DenyLists
import PolicyGate.Proofs.Document.Absorption
import PolicyGate.Proofs.Document.Regrouping
import PolicyGate.Proofs.Source.Order
import PolicyGate.Proofs.Policy.Accounting
import PolicyGate.Proofs.Policy.Conditions
import PolicyGate.Proofs.Policy.Rereading
import PolicyGate.Proofs.Consent.Recovery
import PolicyGate.Proofs.Consent.Grounds
import PolicyGate.Proofs.Document.Idempotence
import PolicyGate.Proofs.Policy.Equality
import PolicyGate.Proofs.Policy.Absence
import PolicyGate.Proofs.Policy.Filling
import PolicyGate.Proofs.Consent.Replies
import PolicyGate.Proofs.Policy.Paths
import PolicyGate.Proofs.Policy.Families
import PolicyGate.Proofs.Policy.LeastVersions
