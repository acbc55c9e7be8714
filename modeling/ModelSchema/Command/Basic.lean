import ModelSchema.Files.Access
import ModelSchema.Manifest.Text
import ModelSchema.Schema.Violation

/-!
# Commands on manifests

A manifest in a file can be listed, one of its models can be compiled to a schema, and a document
in another file can be validated against a model.  The files are reached through a `FileAccess`,
whatever it is an access to.
-/

namespace ModelSchema

/-- Why a command gives no result. -/
inductive CommandError where
  | manifest (path : String) (source : ManifestError)
  | model (name : String) (source : SchemaError)
  | schema (name : String)
  | document (path reason : String)
  | markup (path : String) (markup : Markup)
  | output (path reason : String)
deriving DecidableEq

/-- The texts of an error and its causes, each the cause of the one before. -/
def CommandError.chain : CommandError → List String
  | manifest path source =>
    s!"failed to load manifest {path}" :: source.message :: source.causes
  | model name source =>
    s!"failed to compile model '{name}'" :: source.message ::
      match source with
      | .model cause => [cause.message]
      | _ => []
  | schema name => [s!"schema of model '{name}' is not a valid Draft 4 schema"]
  | document path reason => [s!"failed to read document {path}", reason]
  | markup path .json => [s!"invalid JSON in {path}"]
  | markup path .yaml => [s!"invalid YAML in {path}"]
  | output path reason => [s!"failed to write {path}", reason]

/-- What a listing says of a model. -/
structure ModelSummary where
  name : String
  fields : List String
  required : List String
deriving DecidableEq

namespace ModelSummary

/-- The summary of a model. -/
def ofRegistry {τ : Type} (r : Registry τ) : ModelSummary :=
  ⟨r.name, r.fieldNames, r.requiredNames⟩

/-- The line for a model. -/
def display (s : ModelSummary) : String :=
  let required :=
    if s.required.isEmpty then "" else ", required: " ++ ", ".intercalate s.required
  s!"{s.name} ({s.fields.length} fields{required})"

end ModelSummary

/-- The markup of a file, by its path. -/
def Markup.ofPath (path : String) : Markup := if FilePath.isJson path then .json else .yaml

namespace FileAccess

variable {m : Type → Type} [Monad m]

/-- The catalog of the manifest in a file. -/
def catalog (files : FileAccess m) (path : String) : m (Except ManifestError (Catalog Empty)) := do
  match ← files.read path with
  | .ok text => return Catalog.ofText (.ofPath path) text
  | .error reason => return .error (.unreadable path reason)

/-- The catalog of the manifest in a file, for a command. -/
def loaded (files : FileAccess m) (path : String) : ExceptT CommandError m (Catalog Empty) := do
  match ← files.catalog path with
  | .ok catalog => return catalog
  | .error source => throw (.manifest path source)

/-- The models of a manifest. -/
def summaries (files : FileAccess m) (path : String) :
    ExceptT CommandError m (List ModelSummary) := do
  return (← files.loaded path).models.map .ofRegistry

/-- The schema of a model of a manifest. -/
def schema (files : FileAccess m) (path model : String) : ExceptT CommandError m Json := do
  let catalog ← files.loaded path
  match Scope.compileNamed ⟨.none, some catalog⟩ model with
  | .ok schema => return schema
  | .error source => throw (.model model source)

/-- The text of the schema of a model: on one line, or indented. -/
def rendered (files : FileAccess m) (path model : String) (compact : Bool) :
    ExceptT CommandError m String := do
  let schema ← files.schema path model
  return if compact then schema.compact else schema.pretty

/-- Writes the text of the schema of a model to a file. -/
def renderTo (files : FileAccess m) (path model : String) (compact : Bool) (output : String) :
    ExceptT CommandError m Unit := do
  let text ← files.rendered path model compact
  match ← files.write output (text ++ "\n") with
  | .ok () => return ()
  | .error reason => throw (.output output reason)

/-- The document in a file. -/
def document (files : FileAccess m) (path : String) : ExceptT CommandError m Json := do
  match ← files.read path with
  | .error reason => throw (.document path reason)
  | .ok text =>
    match (Markup.ofPath path).parse? text with
    | some value => return value
    | none => throw (.markup path (.ofPath path))

/-- The violations of a document in a file against a model of a manifest.  The model is compiled,
and its schema checked, before the document is read. -/
def violations (files : FileAccess m) (path model document : String) :
    ExceptT CommandError m (List Violation) := do
  let schema ← files.schema path model
  if Draft4.isSchema schema then
    let value ← files.document document
    return (Draft4.failures schema value).map .ofFailure
  else throw (.schema model)

end FileAccess

end ModelSchema
