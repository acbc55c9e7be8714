/-!
# Arguments

A command is a verb, the files it works on, and settings.  Settings may stand anywhere after the
verb; one with a value has it attached or as the next argument, and letters of settings without
values may be written together.  After two dashes every argument is a file.
-/

namespace ModelSchema

/-- What a command does. -/
inductive Verb where
  | compile | validate | list
deriving DecidableEq, Repr

/-- A named setting of a command. -/
inductive Setting where
  | model | output | compact
deriving DecidableEq, Repr

/-- A command with all it needs. -/
inductive Command where
  | compile (manifest model : String) (compact : Bool) (output : Option String)
  | validate (manifest model document : String)
  | list (manifest : String)
deriving DecidableEq, Repr

/-- What the arguments ask for. -/
inductive Request where
  | command (command : Command)
  | help
  | version
deriving DecidableEq, Repr

namespace Setting

/-- The name after two dashes. -/
def name : Setting → String
  | model => "model"
  | output => "output"
  | compact => "compact"

/-- The letter after one dash. -/
def letter? : Setting → Option Char
  | model => some 'm'
  | output => some 'o'
  | compact => none

/-- Whether the setting has a value. -/
def takesValue : Setting → Bool
  | compact => false
  | _ => true

end Setting

namespace Verb

/-- The verb as an argument. -/
def name : Verb → String
  | compile => "compile"
  | validate => "validate"
  | list => "list"

/-- The verb that an argument names. -/
def ofName? (name : String) : Option Verb := [compile, validate, list].find? (·.name == name)

/-- The settings of a verb. -/
def settings : Verb → List Setting
  | compile => [.model, .output, .compact]
  | validate => [.model]
  | list => []

/-- How many files a verb works on. -/
def fileCount : Verb → Nat
  | validate => 2
  | _ => 1

end Verb

/-! ## Arguments after a verb -/

/-- An argument by its form. -/
inductive ArgumentForm where
  /-- A file, or the value of a setting. -/
  | plain (text : String)
  /-- Two dashes alone. -/
  | ending
  /-- A name after two dashes, and what follows an equals sign. -/
  | named (name : String) (value : Option String)
  /-- Letters after one dash. -/
  | letters (letters : List Char)
deriving DecidableEq, Repr

/-- The form of an argument.  A dash alone is plain. -/
def ArgumentForm.ofText (text : String) : ArgumentForm :=
  match text.toList with
  | ['-', '-'] => .ending
  | '-' :: '-' :: rest =>
    let name := String.ofList (rest.takeWhile (· ≠ '='))
    match rest.dropWhile (· ≠ '=') with
    | _ :: value => .named name (some (String.ofList value))
    | [] => .named name none
  | '-' :: c :: rest => .letters (c :: rest)
  | _ => .plain text

/-- What was given after a verb. -/
structure Given where
  files : List String
  model : Option String
  output : Option String
  compact : Bool
deriving DecidableEq, Repr

/-- Why the arguments make no command: help is wanted, or they are wrong. -/
inductive Interruption where
  | help | misuse
deriving DecidableEq, Repr

namespace Given

/-- Nothing was given yet. -/
def nothing : Given := ⟨[], none, none, false⟩

/-- Gives a file.  There may not be too many, and none may be without a name. -/
def addFile (verb : Verb) (given : Given) (path : String) : Except Interruption Given :=
  if path.isEmpty ∨ verb.fileCount ≤ given.files.length then .error .misuse
  else .ok { given with files := given.files ++ [path] }

/-- Gives a setting, which was not given before. -/
def set (given : Given) (setting : Setting) (value : String) : Except Interruption Given :=
  match setting with
  | .model =>
    if given.model.isSome then .error .misuse else .ok { given with model := some value }
  | .output =>
    if given.output.isSome ∨ value.isEmpty then .error .misuse
    else .ok { given with output := some value }
  | .compact => if given.compact then .error .misuse else .ok { given with compact := true }

/-- Gives the settings of letters written together.  The first one with a value takes the letters
after it, of which an equals sign is left out, and waits for a value if there are none. -/
def addLetters (verb : Verb) (given : Given) :
    List Char → Except Interruption (Given × Option Setting)
  | [] => .ok (given, none)
  | c :: rest =>
    if c = 'h' then .error .help
    else
      match verb.settings.find? (·.letter? == some c) with
      | none => .error .misuse
      | some setting =>
        if setting.takesValue then
          match rest with
          | [] => .ok (given, some setting)
          | '=' :: value => (given.set setting (String.ofList value)).map (·, none)
          | value => (given.set setting (String.ofList value)).map (·, none)
        else (given.set setting "").bind fun given => given.addLetters verb rest

/-- Gives arguments in order; a setting may be waiting for its value. -/
def addAll (verb : Verb) (given : Given) (waiting : Option Setting) :
    List String → Except Interruption Given
  | [] => if waiting.isSome then .error .misuse else .ok given
  | argument :: rest =>
    match waiting, ArgumentForm.ofText argument with
    | some setting, .plain value => do addAll verb (← given.set setting value) none rest
    | some _, _ => .error .misuse
    | none, .plain path => do addAll verb (← given.addFile verb path) none rest
    | none, .ending => rest.foldlM (addFile verb) given
    | none, .letters letters => do
      let (given, waiting) ← given.addLetters verb letters
      addAll verb given waiting rest
    | none, .named name value =>
      match verb.settings.find? (·.name == name), value with
      | some setting, some value =>
        if setting.takesValue then do addAll verb (← given.set setting value) none rest
        else .error .misuse
      | some setting, none =>
        if setting.takesValue then addAll verb given (some setting) rest
        else do addAll verb (← given.set setting "") none rest
      | none, none => .error (if name = "help" then .help else .misuse)
      | none, some _ => .error .misuse

/-- The command of a verb, if all it needs was given. -/
def command? (given : Given) (verb : Verb) : Option Command :=
  match verb, given.files, given.model with
  | .compile, [manifest], some model =>
    some (.compile manifest model given.compact given.output)
  | .validate, [manifest, document], some model => some (.validate manifest model document)
  | .list, [manifest], _ => some (.list manifest)
  | _, _, _ => none

end Given

/-! ## All arguments -/

/-- The words that ask for help on something, or on nothing. -/
def isHelpTopic : List String → Bool
  | [] => true
  | [topic] => topic == "help" || (Verb.ofName? topic).isSome
  | _ => false

/-- What arguments ask for; none if they are wrong. -/
def Request.ofArguments? : List String → Option Request
  | [] => none
  | first :: rest =>
    match Verb.ofName? first with
    | some verb =>
      match Given.nothing.addAll verb none rest with
      | .ok given => (given.command? verb).map .command
      | .error .help => some .help
      | .error .misuse => none
    | none =>
      if first = "help" then if isHelpTopic rest then some .help else none
      else
        match ArgumentForm.ofText first with
        | .named "help" none => some .help
        | .named "version" none => some .version
        | .letters ('h' :: _) => some .help
        | .letters ('V' :: _) => some .version
        | _ => none

end ModelSchema
