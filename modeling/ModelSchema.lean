import ModelSchema.Main
import ModelSchema.Files.Tree
import ModelSchema.Model.Cache
import ModelSchema.Proofs.Schema.Composition
import ModelSchema.Proofs.Schema.Comparison
import ModelSchema.Proofs.Schema.Reordering
import ModelSchema.Proofs.Manifest.Flattening
import ModelSchema.Proofs.Model.Cache
import ModelSchema.Proofs.Json.Pointer
import ModelSchema.Proofs.Schema.Draft4.Reference
import ModelSchema.Proofs.Schema.SelfContained
import ModelSchema.Proofs.Schema.Draft4.Assembled
import ModelSchema.Proofs.Schema.Attribution
import ModelSchema.Proofs.Model.Publication
import ModelSchema.Proofs.Number.Exact
import ModelSchema.Proofs.Schema.Contribution
import ModelSchema.Proofs.Schema.Bounds
import ModelSchema.Proofs.Schema.Choice
import ModelSchema.Proofs.Schema.Agreement
import ModelSchema.Proofs.Schema.Rearrangement
import ModelSchema.Proofs.Schema.Enlargement
import ModelSchema.Proofs.Schema.Substitution
import ModelSchema.Proofs.Model.Resolution
import ModelSchema.Proofs.Model.History
import ModelSchema.Proofs.Schema.WellFormed
import ModelSchema.Proofs.Schema.Transcription
import ModelSchema.Proofs.Manifest.Blame
import ModelSchema.Proofs.Schema.FirstError
import ModelSchema.Proofs.Schema.Depth
import ModelSchema.Proofs.Model.IntegerBounds
import ModelSchema.Proofs.Schema.Location
import ModelSchema.Proofs.Schema.Effect
import ModelSchema.Proofs.Manifest.Place
import ModelSchema.Proofs.Schema.WrittenBound
