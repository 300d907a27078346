import FieldRules.Value.Text
import FieldRules.Value.Compare
import FieldRules.Text.Case
import FieldRules.Text.Blank

/-! # Validator options

Two options fix how a validation runs: whether it honors serialization semantics (private
fields and skipped fields are left alone and an `omitempty` zero value is left out), on by
default, and whether passing results are reported too, off by default. Each has a snake case
and a camel case name.

Options are applied in order over the defaults, and each must be a truth value. From the
environment, the variables `TAGEVAL_HONOR_SERIALIZATION_SEMANTICS` and `TAGEVAL_SHOW_SUCCESSES`
are read when set, blank-trimmed and lower-cased, as `1`, `true`, `yes`, `on` or `0`,
`false`, `no`, `off`. -/

namespace FieldRules.Validation

/-- The options of a validator. -/
structure Options where
  honorSerialization : Bool
  showSuccesses : Bool
deriving Inhabited, BEq, Repr

/-- The two options. -/
inductive OptionName where
  | honorSerialization | showSuccesses
deriving Inhabited, BEq, DecidableEq

/-- The default options. -/
def Options.defaults : Options := ⟨true, false⟩

/-- Sets one option. -/
def Options.set (o : Options) (n : OptionName) (b : Bool) : Options :=
  match n with
  | .honorSerialization => ⟨b, o.showSuccesses⟩
  | .showSuccesses => ⟨o.honorSerialization, b⟩

/-- The accepted spellings of option names. -/
def optionSpellings : List (String × OptionName) :=
  [("honor_serialization_semantics", .honorSerialization),
   ("honorSerializationSemantics", .honorSerialization),
   ("show_successes", .showSuccesses),
   ("showSuccesses", .showSuccesses)]

/-- Why options cannot be read. -/
inductive ConfigError where
  | unknownOption (shown : String)
  | notBool (shown : String)
  | envNotBool (key raw : String)
  | notMapping (source : String)
  | sectionNotMapping (source : String)
  /-- A host failure let through. -/
  | host (kind message : String)
deriving Inhabited

/-- The kind of a configuration error. -/
def ConfigError.kind : ConfigError → String
  | .host kind _ => kind
  | _ => "ConfigurationError"

/-- The text of a configuration error. -/
def ConfigError.message : ConfigError → String
  | .unknownOption n => "unknown option: " ++ n
  | .notBool n => "bool value expected for option " ++ n
  | .envNotBool key raw => key ++ ": expected a boolean, got " ++ Text.quoteText raw
  | .notMapping source => source ++ ": expected a mapping of options"
  | .sectionNotMapping source => source ++ ": 'tageval' must be a mapping of options"
  | .host _ m => m

/-- The option a name spells, if it spells one: only a text can. -/
def optionNamed (s : Store) (n : Value) : Option OptionName :=
  match s.resolve n with
  | .str t => optionSpellings.lookup t
  | _ => none

/-- Applies one name and value pair. Names are host values: a name that is no text is
  unknown, and one that cannot be hashed is a type error. -/
def Options.apply (s : Store) (o : Options) : Value × Value → Except ConfigError Options
  | (n, v) => do
    if let some t := s.unhashable n then
      throw (.host "TypeError" t)
    let shown : Except ConfigError String := (s.display n).mapError fun f => .host f.kind f.message
    match optionNamed s n with
    | none => throw (.unknownOption (← shown))
    | some name =>
      match s.resolve v with
      | .bool b => return o.set name b
      | _ => throw (.notBool (← shown))

/-- Applies name and value pairs over the defaults, in order. -/
def Options.ofPairs (s : Store) (pairs : List (Value × Value)) : Except ConfigError Options :=
  pairs.foldlM (Options.apply s) Options.defaults

/-- The environment variables of the options, in the order they are read. -/
def envKeys : List (String × OptionName) :=
  [("TAGEVAL_HONOR_SERIALIZATION_SEMANTICS", .honorSerialization),
   ("TAGEVAL_SHOW_SUCCESSES", .showSuccesses)]

/-- The truth value an environment text spells, if any. -/
def envTruth (raw : String) : Option Bool :=
  let t := Text.lowerText (Text.trimBlank raw)
  if ["1", "true", "yes", "on"].contains t then some true
  else if ["0", "false", "no", "off"].contains t then some false
  else none

/-- Options from environment variables. -/
def Options.ofEnv (env : List (String × String)) : Except ConfigError Options :=
  envKeys.foldlM (fun o (key, name) =>
    match env.lookup key with
    | none => .ok o
    | some raw =>
      match envTruth raw with
      | some b => .ok (o.set name b)
      | none => .error (.envNotBool key raw)) Options.defaults

end FieldRules.Validation
