/-! # The function library of the rule language

Rules may call thirty-one named functions, grouped in five categories: text, dates, math,
collections and logic. Each function is documented by a description, its parameters (name,
type, description, whether it is required, whether it takes any number of values), the type
of its result and examples of rules that use it; the library lists them in a fixed order.

A call must pass as many arguments as the function's signature admits. A signature is a list
of named parameters whose last few may be left out, any number of values, or none at all; a
call that passes too many or too few arguments fails with the text the signature gives for
the count. -/

namespace FieldRules.Lang

/-- The categories of library functions. -/
inductive Category where
  | string | date | math | collection | logic
deriving DecidableEq, Inhabited, Repr

/-- The name of a category. -/
def Category.name : Category → String
  | .string => "string" | .date => "date" | .math => "math"
  | .collection => "collection" | .logic => "logic"

/-- The categories, in the order the library lists their functions. -/
def Category.all : List Category := [.string, .date, .math, .collection, .logic]

/-- The category named by a text. -/
def Category.ofName? (s : String) : Option Category := Category.all.find? (·.name == s)

/-- The library functions. -/
inductive Builtin where
  | len | isEmpty | trim | upper | lower | startsWith | endsWith | matches
  | now | today | fromTimestamp | year | month | day | daysBetween
  | abs | round | floor | ceil | min | max | sum
  | size | contains | first | last | keys
  | coalesce | ifThen
deriving DecidableEq, Inhabited, Repr

namespace Builtin

/-- All library functions, in the order the library lists them. -/
def all : List Builtin :=
  [.len, .isEmpty, .trim, .upper, .lower, .startsWith, .endsWith, .matches,
   .now, .today, .fromTimestamp, .year, .month, .day, .daysBetween,
   .abs, .round, .floor, .ceil, .min, .max, .sum,
   .size, .contains, .first, .last, .keys,
   .coalesce, .ifThen]

/-- The name a rule calls a function by. -/
def name : Builtin → String
  | .len => "len" | .isEmpty => "isEmpty" | .trim => "trim" | .upper => "upper"
  | .lower => "lower" | .startsWith => "startsWith" | .endsWith => "endsWith"
  | .matches => "matches" | .now => "now" | .today => "today"
  | .fromTimestamp => "fromTimestamp" | .year => "year" | .month => "month" | .day => "day"
  | .daysBetween => "daysBetween" | .abs => "abs" | .round => "round" | .floor => "floor"
  | .ceil => "ceil" | .min => "min" | .max => "max" | .sum => "sum" | .size => "size"
  | .contains => "contains" | .first => "first" | .last => "last" | .keys => "keys"
  | .coalesce => "coalesce" | .ifThen => "if"

/-- The function a name calls, if any. -/
def ofName? (n : String) : Option Builtin := all.find? (·.name == n)

/-- The category of a function. -/
def category : Builtin → Category
  | .len | .isEmpty | .trim | .upper | .lower | .startsWith | .endsWith | .matches => .string
  | .now | .today | .fromTimestamp | .year | .month | .day | .daysBetween => .date
  | .abs | .round | .floor | .ceil | .min | .max | .sum => .math
  | .size | .contains | .first | .last | .keys => .collection
  | .coalesce | .ifThen => .logic

/-- What a function does, in one line. -/
def description : Builtin → String
  | .len => "Returns length of string, array or object"
  | .isEmpty => "Returns true if value is null, blank, or an empty collection"
  | .trim => "Removes whitespace from both ends of a string"
  | .upper => "Converts string to uppercase"
  | .lower => "Converts string to lowercase"
  | .startsWith => "Tests if string starts with prefix"
  | .endsWith => "Tests if string ends with suffix"
  | .matches => "Tests if a regex pattern occurs anywhere in the string"
  | .now => "Returns current datetime in UTC"
  | .today => "Returns the current date"
  | .fromTimestamp => "Returns the UTC datetime for epoch milliseconds"
  | .year => "Extracts the year"
  | .month => "Extracts the month (1-12)"
  | .day => "Extracts the day of month (1-31)"
  | .daysBetween => "Returns number of days between two dates"
  | .abs => "Returns absolute value"
  | .round => "Rounds to the given number of decimals"
  | .floor => "Rounds down to an integer"
  | .ceil => "Rounds up to an integer"
  | .min => "Returns the smallest value"
  | .max => "Returns the largest value"
  | .sum => "Returns the sum of the values"
  | .size => "Returns number of items in a collection"
  | .contains => "Tests if a collection or string contains an item"
  | .first => "Returns the first item"
  | .last => "Returns the last item"
  | .keys => "Returns the keys of an object"
  | .coalesce => "Returns the first non-null argument"
  | .ifThen => "Returns one of two values depending on a condition"

end Builtin

/-- A documented parameter of a library function. -/
structure Param where
  name : String
  type : String
  description : String
  required : Bool
  variadic : Bool
deriving Inhabited, Repr

namespace Param

/-- A required parameter. -/
def one (name type description : String) : Param := ⟨name, type, description, true, false⟩

/-- A parameter that may be left out. -/
def optional (name type description : String) : Param := ⟨name, type, description, false, false⟩

/-- A parameter that takes any number of values. -/
def many (name type description : String) : Param := ⟨name, type, description, true, true⟩

/-- The text parameter of the text functions. -/
def text : Param := one "value" "string" "The string to use"

/-- The number parameter of the math functions. -/
def number : Param := one "value" "number" "The number"

/-- The values parameter of `min`, `max` and `sum`. -/
def numbers : Param := many "values" "number" "Numbers or one array"

/-- The date parameter of the date part functions. -/
def date : Param := one "date" "date" "The date"

/-- The collection parameter of the collection functions. -/
def collection : Param := one "collection" "array" "The collection"

end Param

namespace Builtin

/-- The documented parameters of a function. -/
def params : Builtin → List Param
  | .len => [.one "value" "string|array|object" "The value to measure"]
  | .isEmpty => [.one "value" "any" "The value to check"]
  | .trim | .upper | .lower => [.text]
  | .startsWith => [.text, .one "prefix" "string" "Prefix to check for"]
  | .endsWith => [.text, .one "suffix" "string" "Suffix to check for"]
  | .matches => [.text, .one "pattern" "string" "Regex pattern"]
  | .now | .today => []
  | .fromTimestamp => [.one "milliseconds" "number" "Milliseconds since the epoch"]
  | .year | .month | .day => [.date]
  | .daysBetween => [.one "start" "date" "Start date", .one "end" "date" "End date"]
  | .abs | .floor | .ceil => [.number]
  | .round => [.number, .optional "decimals" "number" "Decimal places"]
  | .min | .max | .sum => [.numbers]
  | .size | .first | .last => [.collection]
  | .contains => [.collection, .one "item" "any" "The item to look for"]
  | .keys => [.one "object" "object" "The object"]
  | .coalesce => [.many "values" "any" "Candidate values"]
  | .ifThen =>
    [.one "condition" "boolean" "The condition", .one "then" "any" "Value when true",
     .optional "else" "any" "Value when false"]

/-- The type of a function's result. -/
def returnType : Builtin → String
  | .len | .year | .month | .day | .daysBetween | .abs | .round | .floor | .ceil | .min
  | .max | .sum | .size => "number"
  | .isEmpty | .startsWith | .endsWith | .matches | .contains => "boolean"
  | .trim | .upper | .lower => "string"
  | .now | .fromTimestamp => "datetime"
  | .today => "date"
  | .first | .last | .coalesce | .ifThen => "any"
  | .keys => "array"

/-- Rules that show a function in use. -/
def examples : Builtin → List String
  | .len => ["len(LastName) < 10", "len(Tags) >= 1"]
  | .isEmpty => ["!isEmpty(Name)"]
  | .trim => ["trim(Name) != \"\""]
  | .upper => ["upper(State) == State"]
  | .lower => ["lower(Email) == Email"]
  | .startsWith => ["startsWith(Sku, \"PRD-\")"]
  | .endsWith => ["endsWith(Email, \"@example.com\")"]
  | .matches => ["matches(Sku, \"^[A-Z]\x7b3\x7d-[0-9]\x7b4\x7d$\")"]
  | .now => ["Expires > now()"]
  | .today => ["Start <= today()"]
  | .fromTimestamp => ["Created >= fromTimestamp(0)"]
  | .year => ["year(Born) >= 1900"]
  | .month => ["month(Due) == month(now())"]
  | .day => ["day(Due) <= 28"]
  | .daysBetween => ["daysBetween(Start, today()) < 30"]
  | .abs => ["abs(Delta) < 0.01"]
  | .round => ["round(Price, 2) == Price"]
  | .floor => ["floor(Ratio) == 0"]
  | .ceil => ["ceil(Ratio) == 1"]
  | .min => ["min(Scores) >= 0"]
  | .max => ["max(Scores) <= 100"]
  | .sum => ["sum(Points) == 10"]
  | .size => ["size(Items) > 0"]
  | .contains => ["contains(Location, \"TX\")"]
  | .first => ["first(Items) > 0"]
  | .last => ["last(Items) > 0"]
  | .keys => ["\"green\" in keys(Counts)"]
  | .coalesce => ["coalesce(Nickname, Name) != null"]
  | .ifThen => ["if(Kind == \"box\", Volume, 0) < 10"]

/-- The functions of a category, in library order. -/
def ofCategory (c : Category) : List Builtin := all.filter (·.category == c)

end Builtin

/-- How a function takes its arguments, with the name a wrong count of them reports it by. -/
inductive Signature where
  /-- Named parameters, of which the last `optional` may be left out. -/
  | positional (callable : String) (names : List String) (optional : Nat)
  /-- Any number of values. -/
  | variadic
  /-- No arguments at all. -/
  | none (callable : String)
deriving Inhabited, Repr

/-- `s` when a count is not one, for plurals. -/
def pluralS (n : Nat) : String := if n == 1 then "" else "s"

/-- Parameter names quoted and joined as a list in prose: `'a'`, `'a' and 'b'`,
  `'a', 'b', and 'c'`. -/
def proseList (names : List String) : String :=
  match names.map fun n => "'" ++ n ++ "'" with
  | [] => ""
  | [a] => a
  | [a, b] => a ++ " and " ++ b
  | quoted => ", ".intercalate quoted.dropLast ++ ", and " ++ quoted.getLast?.getD ""

/-- Why a count of arguments does not fit a signature, if it does not. -/
def Signature.countError? (sig : Signature) (given : Nat) : Option String :=
  match sig with
  | .variadic => Option.none
  | .none callable =>
    if given == 0 then Option.none
    else some (callable ++ "() takes no arguments (" ++ toString given ++ " given)")
  | .positional callable names optional =>
    let most := names.length
    let least := most - optional
    if given > most then
      let takes := if optional > 0 then
          "from " ++ toString least ++ " to " ++ toString most ++ " positional arguments"
        else toString most ++ " positional argument" ++ pluralS most
      some (callable ++ "() takes " ++ takes ++ " but " ++ toString given ++
        (if given == 1 then " was" else " were") ++ " given")
    else if given < least then
      let missing := (names.drop given).take (least - given)
      some (callable ++ "() missing " ++ toString missing.length ++
        " required positional argument" ++ pluralS missing.length ++ ": " ++ proseList missing)
    else Option.none

namespace Builtin

/-- The signature of a function. -/
def signature : Builtin → Signature
  | .len | .size => .positional "_len" ["value"] 0
  | .isEmpty => .positional "_is_empty" ["value"] 0
  | .trim | .upper | .lower =>
    .positional "_register_string_functions.<locals>.<lambda>" ["value"] 0
  | .startsWith => .positional "_starts_with" ["value", "prefix"] 0
  | .endsWith => .positional "_ends_with" ["value", "suffix"] 0
  | .matches => .positional "_matches" ["value", "pattern"] 0
  | .now => .positional "_now" [] 0
  | .today => .none "date.today"
  | .fromTimestamp => .positional "_from_timestamp" ["milliseconds"] 0
  | .year | .month | .day => .positional "_part.<locals>.extract" ["d"] 0
  | .daysBetween => .positional "_days_between" ["start", "end"] 0
  | .abs | .floor | .ceil => .positional "_nullable.<locals>.<lambda>" ["value"] 0
  | .round => .positional "_round" ["value", "decimals"] 1
  | .min | .max | .sum | .coalesce => .variadic
  | .contains => .positional "_contains" ["collection", "item"] 0
  | .first => .positional "_first" ["collection"] 0
  | .last => .positional "_last" ["collection"] 0
  | .keys => .positional "_keys" ["mapping"] 0
  | .ifThen => .positional "_if_then" ["condition", "true_value", "false_value"] 1

end Builtin

end FieldRules.Lang
