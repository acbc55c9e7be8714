import ModelSchema.Manifest.Catalog
import ModelSchema.Manifest.Reader

/-!
# Catalogs from text

A catalog is loaded from the text of a manifest in one of two markups.  Loading fails if the text
cannot be had, if it is no manifest, or if the manifest has no catalog.
-/

namespace ModelSchema

/-- How values are written down. -/
inductive Markup where
  | json | yaml
deriving DecidableEq, Repr

/-- The value that a text describes. -/
def Markup.parse? : Markup → String → Option Json
  | json => Json.parse?
  | yaml => Yaml.parse?

/-- The manifest that a text describes. -/
def Manifest.ofText? : Markup → String → Option Manifest
  | .json => Manifest.ofJson?
  | .yaml => Manifest.ofYaml?

/-- Why no catalog was loaded. -/
inductive ManifestError where
  | unreadable (path reason : String)
  | malformed
  | refused (source : CatalogError)
deriving DecidableEq

/-- The text of an error; for a malformed manifest it stops before the place. -/
def ManifestError.message : ManifestError → String
  | unreadable path reason => s!"cannot read manifest '{path}': {reason}"
  | malformed => "invalid manifest"
  | refused source => source.message

/-- The texts of the causes of an error, each the cause of the one before. -/
def ManifestError.causes : ManifestError → List String
  | unreadable _ reason => [reason]
  | refused (.model _ source) => [source.message]
  | _ => []

/-- The catalog of the manifest that a text describes. -/
def Catalog.ofText {τ : Type} (markup : Markup) (text : String) :
    Except ManifestError (Catalog τ) :=
  match Manifest.ofText? markup text with
  | some manifest => (Catalog.ofManifest manifest).mapError .refused
  | none => .error .malformed

end ModelSchema
