import FieldRules.Value.Basic
import FieldRules.Value.Fault
import FieldRules.Text.Blank

/-! # Field tags

A record field may carry tags: an expression rule (`expr`), a pattern rule (`regexp`) and a
serialization directive (`json`). Rule text that is not text, or is blank, counts as absent.
The directive reads `name[,option...]`: `-` alone skips the field, and the option
`omitempty` asks that a zero value be left out. A field that a validated model excludes from
serialization is skipped whatever its directive says.

The fields of a record class come in declaration order; a field whose name starts with an
underscore is private. The private attributes of a validated model follow its fields, with
no tags and the type `Any`.

An expression rule that starts with a comparison (`<`, `>`, `=` or `!=`) is shorthand for a
comparison of the field itself. -/

namespace FieldRules.Rule

/-- A serialization directive. -/
structure Directive where
  name : String
  skip : Bool
  omitEmpty : Bool
deriving Inhabited, BEq, Repr

namespace Directive

/-- The directive of a field without one. -/
def none : Directive := ⟨"", false, false⟩

/-- The directive that skips a field. -/
def skipped : Directive := ⟨"-", true, false⟩

/-- Reads directive text: empty text is no directive, `-` skips, and otherwise the text before
  the first comma names the field and the options follow, comma separated. -/
def parse (text : String) : Directive :=
  if text.isEmpty then none
  else if text == "-" then skipped
  else
    match text.splitOn "," with
    | name :: options => ⟨name, false, options.contains "omitempty"⟩
    | [] => ⟨text, false, false⟩

/-- The directive of a raw tag: text is read, a false value is no directive, and any other value
  cannot be read. -/
def ofTag : Option TagValue → Except Fault Directive
  | some (.text s) => .ok (parse s)
  | some (.other true typeName) =>
    .error (.attributeError ("'" ++ typeName ++ "' object has no attribute 'partition'"))
  | _ => .ok none

end Directive

/-- The rules and directive of a field. -/
structure Tags where
  expr : Option String
  regexp : Option String
  directive : Directive
deriving Inhabited, BEq, Repr

/-- Rule text of a raw tag: text that is not blank. -/
def ruleText : Option TagValue → Option String
  | some (.text s) => if (Text.trimBlank s).isEmpty then Option.none else some s
  | _ => Option.none

namespace Tags

/-- A field without tags. -/
def empty : Tags := ⟨Option.none, Option.none, Directive.none⟩

/-- Whether a field has a rule. -/
def hasRules (t : Tags) : Bool := t.expr.isSome || t.regexp.isSome

/-- The tags of a raw tag mapping; `skip` marks a field excluded from serialization. -/
def ofMapping (raw : List (String × TagValue)) (skip : Bool) : Except Fault Tags := do
  let directive ← Directive.ofTag (raw.lookup "json")
  let directive := if skip && !directive.skip then Directive.skipped else directive
  return ⟨ruleText (raw.lookup "expr"), ruleText (raw.lookup "regexp"), directive⟩

end Tags

/-- A declared field of a record class. -/
structure FieldSpec where
  name : String
  tags : Tags
  typeText : String
  isPrivate : Bool
deriving Inhabited, Repr

/-- Whether a field name is private: it starts with an underscore. -/
def isPrivateName (name : String) : Bool := name.startsWith "_"

/-- The field specs of a record class: its fields, then the private attributes of a model. -/
def fieldSpecs (c : RecordClass) : Except Fault (List FieldSpec) := do
  let model := c.kind == .model
  let fields ← c.fields.mapM fun f => do
    let tags ← Tags.ofMapping f.tags (model && f.excluded)
    return (⟨f.name, tags, f.typeText, isPrivateName f.name⟩ : FieldSpec)
  let privates := if model then c.privateAttrs.map fun n => (⟨n, Tags.empty, "Any", true⟩ : FieldSpec)
    else []
  return fields ++ privates

/-- A tag mapping from its three tags, in the order `expr`, `regexp`, `json`, leaving out
  absent ones. -/
def tagEntries (expr regexp json : Option α) : List (String × α) :=
  [("expr", expr), ("regexp", regexp), ("json", json)].filterMap fun (k, v) => v.map (k, ·)

/-- The comparisons that start a shorthand rule. -/
def shorthandMarks : List String := ["<", ">", "=", "!="]

/-- Expands a shorthand rule into a comparison of the field: `> 5` on `Total` is
  `Total > 5`; other rules stay as they are. -/
def rewriteShorthand (field expr : String) : String :=
  let t := Text.trimBlank expr
  if shorthandMarks.any (fun m => t.startsWith m) then field ++ " " ++ expr else expr

end FieldRules.Rule
