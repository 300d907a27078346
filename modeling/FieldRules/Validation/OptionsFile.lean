import FieldRules.Validation.Options
import FieldRules.Value.Access

/-! # Options from a YAML file

A YAML options file holds a mapping of options, either at its top or under the key
`tageval`. An empty document, and a top or section that is false (none, zero, empty), stands
for no options. Any other top or section that is no mapping is refused, naming the file; a
document that cannot be read is refused with the loader's fault.

Reading YAML is not this library's: the loader is a parameter (`YamlLoader`), which gives the
document's top value with the store of its shared values, or the kind and message of its
fault. -/

namespace FieldRules.Validation

/-- A YAML loader: the top value of the document in the text of a file named `source`, with the
  store of its shared values, or the kind and the message of why the text cannot be read. -/
abbrev YamlLoader := (source text : String) → Except (String × String) (Value × Store)

/-- The key of the section that holds the options when the file holds more. -/
def optionsSection : String := "tageval"

/-- Options from the text of a YAML file named `source`, read by `load`. -/
def Options.ofYaml (load : YamlLoader) (source text : String) : Except ConfigError Options :=
  match load source text with
  | .error (kind, message) => .error (.host kind message)
  | .ok (doc, s) =>
    let orEmpty (v : Value) : Value := if s.hostTruth v then s.resolve v else .dict []
    match orEmpty doc with
    | .dict entries =>
      match entries.find? (fun (k, _) => s.equal k (.str optionsSection)) with
      | none => Options.ofPairs s entries
      | some (_, inner) =>
        match orEmpty inner with
        | .dict options => Options.ofPairs s options
        | _ => .error (.sectionNotMapping source)
    | _ => .error (.notMapping source)

end FieldRules.Validation
