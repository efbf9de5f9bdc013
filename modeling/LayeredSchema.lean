import LayeredSchema.Main
import LayeredSchema.Proofs.Command.Flags
import LayeredSchema.Proofs.Command.Precedence
import LayeredSchema.Proofs.Command.Watching
import LayeredSchema.Proofs.Disk.Changes
import LayeredSchema.Proofs.Disk.FileName
import LayeredSchema.Proofs.Disk.Lookup
import LayeredSchema.Proofs.Disk.Path
import LayeredSchema.Proofs.Document.PlainValue
import LayeredSchema.Proofs.Json.RoundTrip
import LayeredSchema.Proofs.Schema.Candidates
import LayeredSchema.Proofs.Schema.ChangedFiles
import LayeredSchema.Proofs.Schema.Checking
import LayeredSchema.Proofs.Schema.Collisions
import LayeredSchema.Proofs.Schema.Delivery
import LayeredSchema.Proofs.Schema.FragmentFiles
import LayeredSchema.Proofs.Schema.LoadedFragments
import LayeredSchema.Proofs.Schema.Loading
import LayeredSchema.Proofs.Schema.Provenance
import LayeredSchema.Proofs.Schema.Reception
import LayeredSchema.Proofs.Schema.Regrouping
import LayeredSchema.Proofs.Schema.Reloading
import LayeredSchema.Proofs.Schema.Reordering
import LayeredSchema.Proofs.Schema.Shadowing
import LayeredSchema.Proofs.Schema.Slots
import LayeredSchema.Proofs.Schema.StrictOutput
import LayeredSchema.Proofs.Schema.TypedComposition
import LayeredSchema.Proofs.Schema.Verdict
import LayeredSchema.Proofs.Schema.WatchedDirectories
import LayeredSchema.Proofs.Yaml.RoundTrip
