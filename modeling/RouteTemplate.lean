import RouteTemplate.Main
import RouteTemplate.Session.Step
import RouteTemplate.Proofs.RoundTrip
import RouteTemplate.Proofs.Scanning
import RouteTemplate.Proofs.Recognition
import RouteTemplate.Proofs.Sharing
import RouteTemplate.Proofs.Isolation
import RouteTemplate.Proofs.LastWrites
import RouteTemplate.Proofs.DistinctKeys
import RouteTemplate.Proofs.Overlay
import RouteTemplate.Proofs.ExpandCommand
import RouteTemplate.Proofs.Framing
import RouteTemplate.Proofs.Influence
import RouteTemplate.Proofs.Cutting
import RouteTemplate.Proofs.FixedPoints
import RouteTemplate.Proofs.Aliases
import RouteTemplate.Proofs.EntryNames
import RouteTemplate.Proofs.Agreement
import RouteTemplate.Proofs.MatchCommand
import RouteTemplate.Proofs.Listing
import RouteTemplate.Proofs.Quotations
import RouteTemplate.Proofs.Provenance
import RouteTemplate.Proofs.Colouring
import RouteTemplate.Proofs.Iteration
