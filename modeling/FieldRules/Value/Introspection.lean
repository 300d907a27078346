import FieldRules.Value.Compare

/-! # How values describe themselves

Besides its data, a value answers a few attributes that describe it and its class:

* a record: its instance dictionary (`__dict__`, the fields by name), the names that positional
  patterns match (`__match_args__`), the documentation its class was given (the class name with
  the signature of its constructor, each field defaulting to none), its field objects and the
  annotations declared for the fields;
* a validated model: its instance dictionary (fields only), its private attributes, the fields
  that have been set, the slots of the model base, and whether its class is complete;
* a member of an enumeration: its place among the members, the member names, the table of
  names (aliases included) and of hashable values, the values that cannot be hashed, and its
  own instance dictionary;
* an addressable handle, a fraction and a decimal: their module, slots and documentation;
* an opaque object, a proxy and an integer with its own text: their instance dictionaries.

A declared type is written as the host writes an annotation: a type that the host knows by
the text is shown by its qualified name (builtin types bare, `typing` names without their
module), and any other text stays text, shown quoted. -/

namespace FieldRules

/-- The texts of declared types that name a type the host resolves; any other text is kept as
  text. -/
def knownTypeTexts : List String :=
  ["int", "str", "float", "bool", "bytes", "Decimal", "Fraction", "complex", "datetime", "date",
    "time", "timedelta", "list", "dict", "tuple", "set", "Any", "list[int]", "list[str]",
    "list[Any]", "dict[str, int]", "dict[str, Any]", "tuple[int, int]", "tuple[int, ...]",
    "Optional[int]", "Optional[str]", "int | None", "str | None", "List[int]"]

/-- The type name of the object a known declared type text stands for: a type, an abstract
  number type, the `Any` form, a parametrized builtin, an optional, a union, or a parametrized
  `typing` name. -/
def annotationKind (text : String) : String :=
  if text == "Fraction" then "ABCMeta"
  else if text == "Any" then "_AnyMeta"
  else if text.startsWith "Optional[" then "_UnionGenericAlias"
  else if text.startsWith "List[" then "_GenericAlias"
  else if (text.splitOn " | ").length > 1 then "UnionType"
  else if (text.splitOn "[").length > 1 then "GenericAlias"
  else "type"

/-- The annotation a declared field carries, as a value: the object a known type text stands
  for, or the text itself. -/
def annotationValue (owner text : String) : Value :=
  if knownTypeTexts.contains text then .attribute owner text (annotationKind text)
  else .str text

/-- How a signature writes a declared type: types of the standard modules by their qualified
  names, `Any` inside a builtin parametrization with its module, other known texts as they
  are, and any other text quoted. -/
def annotationText (text : String) : String :=
  match text with
  | "Decimal" => "decimal.Decimal"
  | "Fraction" => "fractions.Fraction"
  | "datetime" | "date" | "time" | "timedelta" => "datetime." ++ text
  | "list[Any]" => "list[typing.Any]"
  | "dict[str, Any]" => "dict[str, typing.Any]"
  | _ => if knownTypeTexts.contains text then text else Text.quoteText text

/-- The documentation a data class is given: its name and the signature of its constructor,
  where every field defaults to none. -/
def RecordClass.docText (c : RecordClass) : String :=
  c.name ++ "(" ++ ", ".intercalate (c.fields.map fun f =>
    f.name ++ ": " ++ annotationText f.typeText ++ " = None") ++ ")"

/-- Texts as a list of text values. -/
def textValues (xs : List String) : List Value := xs.map Value.str

/-- The attributes that describe a record of a class, from its slots. -/
def RecordClass.introspect? (c : RecordClass) (slots : List Value) (name : String) :
    Option Value :=
  let fields := c.fields.map (·.name)
  let fieldEntries := (textValues fields).zip slots
  let privates := (textValues c.privateAttrs).zip (slots.drop fields.length)
  let annotations := c.fields.map fun f => (Value.str f.name, annotationValue c.name f.typeText)
  match c.kind, name with
  | .plain, "__dict__" => some (.dict fieldEntries)
  | .plain, "__match_args__" => some (.tuple (textValues fields))
  | .plain, "__doc__" => some (.str c.docText)
  | .plain, "__dataclass_fields__" =>
    some (.dict (fields.map fun n => (.str n, .attribute c.name n "Field")))
  | _, "__annotations__" => some (.dict annotations)
  | .model, "__dict__" => some (.dict fieldEntries)
  | .model, "__pydantic_private__" =>
    some (if c.privateAttrs.isEmpty then .none else .dict privates)
  | .model, "__pydantic_fields_set__" | .model, "__fields_set__" => some (.set (textValues fields))
  | .model, "__private_attributes__" =>
    some (.dict (c.privateAttrs.map fun n => (.str n, .attribute c.name n "ModelPrivateAttr")))
  | .model, "__pydantic_post_init__" =>
    some (if c.privateAttrs.isEmpty then .none else .str "model_post_init")
  | .model, "__slots__" =>
    some (.tuple (textValues
      ["__dict__", "__pydantic_fields_set__", "__pydantic_extra__", "__pydantic_private__"]))
  | .model, "__pydantic_complete__" => some (.bool true)
  | .model, "__pydantic_custom_init__" | .model, "__pydantic_root_model__" => some (.bool false)
  | .model, "__pydantic_fields__" =>
    some (.dict (fields.map fun n => (.str n, .attribute c.name n "FieldInfo")))
  | _, _ => none

/-- The attributes that describe a member of an enumeration. Its table lists each name with
  the name and value of the member it stands for; the members themselves are the names that
  stand for themselves, in order. -/
def Store.enumIntrospect? (s : Store) (cls member : String) (value : Value)
    (table : List (String × String × Value)) (name : String) : Option Value :=
  let members := table.filter fun (n, m, _) => n == m
  let memberOf (m : String) (v : Value) : Value := .enumMember cls m v table
  let place := (members.map (·.1)).idxOf member
  match name with
  | "_sort_order_" => some (.int place)
  | "_member_names_" => some (.list (textValues (members.map (·.1))))
  | "_member_map_" => some (.dict (table.map fun (n, m, v) => (.str n, memberOf m v)))
  | "_value2member_map_" =>
    some (.dict ((members.filter fun (_, _, v) => (s.unhashable v).isNone).map
      fun (m, _, v) => (v, memberOf m v)))
  | "_unhashable_values_" =>
    some (.list ((members.filter fun (_, _, v) => (s.unhashable v).isSome).map (·.2.2)))
  | "__dict__" =>
    some (.dict [(.str "_value_", value), (.str "_name_", .str member),
      (.str "__objclass__", .attribute cls "__objclass__" "EnumType"),
      (.str "_sort_order_", .int place)])
  | "_use_args_" => some (.bool false)
  | "__objclass__" => some (.attribute cls "__objclass__" "EnumType")
  | _ => none

/-- The attributes through which a value describes itself, if it has the one named. -/
def Store.introspect? (s : Store) (v : Value) (name : String) : Option Value :=
  match v with
  | .record c slots => c.introspect? slots name
  | .enumMember c m x table => s.enumIntrospect? c m x table name
  | .handle _ =>
    match name with
    | "__doc__" => some (.str "A reference to a root value that grants private-field access.")
    | "__module__" => some (.str "tageval.access")
    | "__slots__" => some (.tuple [.str "_value"])
    | _ => none
  | .fraction _ =>
    match name with
    | "__module__" => some (.str "fractions")
    | "__slots__" => some (.tuple (textValues ["_numerator", "_denominator"]))
    | "__abstractmethods__" => some (.frozenSet [])
    | _ => none
  | .decimal _ => if name == "__module__" then some (.str "decimal") else none
  | .object t attrs =>
    if name == "__dict__" then some (.dict ((.str "_text", .str t) :: attrs.map fun (k, x) => (.str k, x)))
    else none
  | .proxy t => if name == "__dict__" then some (.dict [(.str "__wrapped__", t)]) else none
  | .textInt _ t => if name == "__dict__" then some (.dict [(.str "_text", .str t)]) else none
  | _ => none

end FieldRules
