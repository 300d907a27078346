/-! # Patterns

The syntax tree of a regular expression: characters, sets, anchors, groups, repetition, back
references, look-around, conditionals and alternation, with the flags that a group may turn on
or off. Each piece has a width, the least and greatest number of characters it can match; a
look-behind must have one width. -/

namespace FieldRules.Pattern

/-- The flags of a pattern or of a group within it. -/
structure FlagSet where
  ignoreCase : Bool := false
  locale : Bool := false
  multiline : Bool := false
  dotAll : Bool := false
  unicode : Bool := false
  verbose : Bool := false
  template : Bool := false
  ascii : Bool := false
deriving Inhabited, BEq, DecidableEq

namespace FlagSet

/-- The flags set in either. -/
def union (a b : FlagSet) : FlagSet :=
  ⟨a.ignoreCase || b.ignoreCase, a.locale || b.locale, a.multiline || b.multiline,
    a.dotAll || b.dotAll, a.unicode || b.unicode, a.verbose || b.verbose,
    a.template || b.template, a.ascii || b.ascii⟩

/-- The flags of `a` not set in `b`. -/
def diff (a b : FlagSet) : FlagSet :=
  ⟨a.ignoreCase && !b.ignoreCase, a.locale && !b.locale, a.multiline && !b.multiline,
    a.dotAll && !b.dotAll, a.unicode && !b.unicode, a.verbose && !b.verbose,
    a.template && !b.template, a.ascii && !b.ascii⟩

/-- The flags set in both. -/
def inter (a b : FlagSet) : FlagSet :=
  ⟨a.ignoreCase && b.ignoreCase, a.locale && b.locale, a.multiline && b.multiline,
    a.dotAll && b.dotAll, a.unicode && b.unicode, a.verbose && b.verbose,
    a.template && b.template, a.ascii && b.ascii⟩

/-- Whether no flag is set. -/
def isEmpty (a : FlagSet) : Bool := a == {}

/-- Whether one of the flags that choose the character classes is set. -/
def hasTypeFlag (a : FlagSet) : Bool := a.ascii || a.locale || a.unicode

/-- The flags in force inside a group that turns `add` on and `del` off: a group that sets a
  class flag replaces the class flag of its surroundings. -/
def within (flags add del : FlagSet) : FlagSet :=
  let base := if add.hasTypeFlag then { flags with ascii := false, locale := false, unicode := false }
    else flags
  (base.union add).diff del

/-- The flag named by a letter of an inline flag group. -/
def ofLetter? : Char → Option FlagSet
  | 'i' => some { ignoreCase := true }
  | 'L' => some { locale := true }
  | 'm' => some { multiline := true }
  | 's' => some { dotAll := true }
  | 'x' => some { verbose := true }
  | 'a' => some { ascii := true }
  | 't' => some { template := true }
  | 'u' => some { unicode := true }
  | _ => none

end FlagSet

/-- The class escapes. -/
inductive Category where
  | digit | notDigit | space | notSpace | word | notWord
deriving Inhabited, BEq, DecidableEq

/-- A member of a character set. -/
inductive SetItem where
  | char (c : Nat)
  | range (lo hi : Nat)
  | category (k : Category)
deriving Inhabited, BEq, DecidableEq

/-- Zero-width assertions about the position. -/
inductive Anchor where
  /-- `^`: the start of the text, or of a line under the multiline flag. -/
  | lineStart
  /-- `$`: the end of the text or before a final line feed, or of a line under multiline. -/
  | lineEnd
  /-- `\A` -/
  | textStart
  /-- `\Z` -/
  | textEnd
  /-- `\b` -/
  | boundary
  /-- `\B` -/
  | notBoundary
deriving Inhabited, BEq, DecidableEq

/-- How a repetition chooses its count: most first, fewest first, or most without giving back. -/
inductive Greed where
  | greedy | lazy | possessive
deriving Inhabited, BEq, DecidableEq

/-- A piece of a pattern; a sequence of pieces matches one after another. -/
inductive Node where
  | char (c : Nat)
  | notChar (c : Nat)
  | any
  | set (negated : Bool) (items : List SetItem)
  | anchor (a : Anchor)
  /-- A group: capturing when it has an index, else a scope for the flags `add` and `del`. -/
  | group (index : Option Nat) (add del : FlagSet) (body : List Node)
  /-- A repetition between `min` and `max` times (`none`: no bound). -/
  | rep (min : Nat) (max : Option Nat) (greed : Greed) (body : List Node)
  | backref (index : Nat)
  /-- A look-ahead, or a look-behind, positive or negative. -/
  | look (behind negated : Bool) (body : List Node)
  | conditional (index : Nat) (yes : List Node) (no : Option (List Node))
  | atomic (body : List Node)
  | branch (alternatives : List (List Node))
deriving Inhabited, BEq

/-- The greatest repetition count that a pattern may write; a repetition without an upper
  bound counts as this many. -/
def repeatBound : Nat := Nat.pow 2 32 - 1

/-- A width: the least and greatest number of characters. -/
abbrev Width := Nat × Nat

/-- A width as far as it is tracked: the least number of characters is capped one below
  the repetition bound, the greatest at that bound. -/
def capWidth (w : Width) : Width := (Nat.min w.1 (repeatBound - 1), Nat.min w.2 repeatBound)

mutual

/-- The width of a piece; `groupWidth` gives the width of the group a back reference names. -/
def Node.width (groupWidth : Nat → Width) : Node → Width
  | .char _ | .notChar _ | .any | .set .. => (1, 1)
  | .anchor _ | .look .. => (0, 0)
  | .group _ _ _ body | .atomic body => widthOf groupWidth body
  | .rep min max _ body =>
    let (i, j) := widthOf groupWidth body
    (i * min, match max with
      | none => j * repeatBound
      | some m => j * m)
  | .backref g => groupWidth g
  | .conditional _ yes no =>
    let (i, j) := widthOf groupWidth yes
    match no with
    | none => (0, j)
    | some n =>
      let (l, h) := widthOf groupWidth n
      (Nat.min i l, Nat.max j h)
  | .branch alts => branchWidth groupWidth alts

/-- The width of a sequence, capped. -/
def widthOf (groupWidth : Nat → Width) : List Node → Width
  | [] => (0, 0)
  | n :: rest =>
    let (a, b) := n.width groupWidth
    let (c, d) := widthOf groupWidth rest
    capWidth (a + c, b + d)

/-- The width of an alternation. -/
def branchWidth (groupWidth : Nat → Width) : List (List Node) → Width
  | [] => (repeatBound - 1, 0)
  | alt :: rest =>
    let (a, b) := widthOf groupWidth alt
    let (c, d) := branchWidth groupWidth rest
    (Nat.min a c, Nat.max b d)

end

end FieldRules.Pattern
