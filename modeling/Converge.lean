import Converge.Main
import Converge.CommandLine
import Converge.Api.Discovery
import Converge.Plan.Cluster
import Converge.Plan.Table
import Converge.Instance.Validation
import Converge.Instance.Settings
import Converge.Object.ResourceSet
import Converge.Instance.Basic
import Converge.Object.Access
import Converge.Object.Deployment
import Converge.Object.Service
import Converge.Object.VolumeClaim
import Converge.Object.Route
import Converge.Object.Ingress
import Converge.JavaFlags
import Converge.ImageReference
import Converge.Codec.Record
import Converge.Text.Lowercase
import Converge.Text.Quoted
import Converge.Instance.Manifest
import Converge.Plan.Rendering
import Converge.Text.Split
import Converge.Text.Blank
import Converge.Number.Shortest
import Converge.Json.Parser
import Converge.Json.Printer
import Converge.Json.MergePatch
import Converge.Proofs.Codec.RoundTrip
import Converge.Proofs.Object.RoundTrip
import Converge.Proofs.Plan.Pass
import Converge.Proofs.Plan.Convergence
import Converge.Proofs.Comparison.Defaulting
import Converge.Proofs.Comparison.Drift
import Converge.Proofs.Comparison.ObjectDrift
import Converge.Proofs.Plan.Deletion
import Converge.Proofs.Plan.Drift
import Converge.Proofs.Instance.Normalization
import Converge.Proofs.Plan.Reading
import Converge.Proofs.Plan.References
import Converge.Proofs.Plan.Isolation
import Converge.Proofs.Instance.RoundTrip
import Converge.Proofs.Object.ForeignEntries
import Converge.Proofs.Object.Grouping
import Converge.Proofs.Plan.Accounting
import Converge.Proofs.Plan.Exposure
import Converge.Proofs.Plan.Availability
import Converge.Proofs.Plan.BlankTexts
import Converge.Proofs.Number.Range
import Converge.Proofs.Number.Rounding
import Converge.Proofs.Instance.Amounts
import Converge.Proofs.Instance.Completion
import Converge.Proofs.Plan.Credentials
import Converge.Proofs.Plan.Failures
import Converge.Proofs.Number.WholeAmounts
import Converge.Proofs.Facet.JavaFlags
import Converge.Proofs.Plan.SingleWriter
import Converge.Proofs.Comparison.LimitSpelling
import Converge.Proofs.Instance.Rules
import Converge.Proofs.Facet.RouteDecorators
import Converge.Proofs.Facet.ImageReference
import Converge.Proofs.Plan.Table
import Converge.Proofs.Comparison.Dictionaries
import Converge.Proofs.Facet.IngressSecrets
import Converge.Proofs.Api.Discovery
import Converge.Proofs.Facet.Ownership
