import ArsSolana.Theorems.Parity
import ArsSolana.Theorems.Language
import ArsSolana.Theorems.ClosedForm
import ArsSolana.Theorems.Dispute
import ArsSolana.Theorems.Store
import ArsSolana.Theorems.Ingestion
import ArsSolana.Theorems.Payer
import ArsSolana.Theorems.Gate
import ArsSolana.Theorems.InstructionData
import ArsSolana.Theorems.Intents
import ArsSolana.Theorems.Premium
import ArsSolana.Theorems.Unchecked
import ArsSolana.Theorems.Verdict
import ArsSolana.Theorems.Conformance
import ArsSolana.Theorems.Order
import ArsSolana.Theorems.Seeds
import ArsSolana.Theorems.Fingerprint
import ArsSolana.Theorems.Branches
import ArsSolana.Theorems.SelfTest
import ArsSolana.Theorems.HttpTransport
import ArsSolana.Theorems.Corpus
import ArsSolana.Theorems.CommandLine
import ArsSolana.Theorems.Words
import ArsSolana.Theorems.Delivery
import ArsSolana.Theorems.Writers
import ArsSolana.Theorems.Progress
import ArsSolana.Theorems.Ledger
import ArsSolana.Theorems.HostedGate
import ArsSolana.Theorems.PaymentHeader
import ArsSolana.Theorems.CrossLanguage
import ArsSolana.Theorems.Settlement
import ArsSolana.Theorems.Client
