import FieldRules.Pattern.Parse
import FieldRules.Text.Case

/-! # Matching patterns

A pattern is searched for in a text: it is tried at each position from the start, and the
first position where it matches wins. At one position, the pieces are tried by backtracking in
the order the pattern gives: a greedy repetition tries more items first, a lazy one fewer, and a
possessive repetition or an atomic group keeps the first way it finds and never gives it back.
A repetition stops trying further items once an item has matched the empty text. Look-arounds
keep the first way their body matches; a positive one keeps the groups it set.

Groups remember the span of their last match; a back reference matches the same text again,
and fails when its group has not matched. Under the case-insensitive flag two characters match
when their simple lower cases agree, or are one of the pairs that share an upper case.

The search is bounded by a budget of nested steps computed from the pattern and the text. -/

namespace FieldRules.Pattern

/-- Lower-case characters that share their upper case with other lower-case characters. -/
def foldPartnerTable : List (Nat × List Nat) :=
  [(0x69, [0x131]), (0x73, [0x17F]), (0xB5, [0x3BC]), (0x131, [0x69]), (0x17F, [0x73]),
    (0x345, [0x3B9, 0x1FBE]), (0x390, [0x1FD3]), (0x3B0, [0x1FE3]), (0x3B2, [0x3D0]),
    (0x3B5, [0x3F5]), (0x3B8, [0x3D1]), (0x3B9, [0x345, 0x1FBE]), (0x3BA, [0x3F0]),
    (0x3BC, [0xB5]), (0x3C0, [0x3D6]), (0x3C1, [0x3F1]), (0x3C2, [0x3C3]), (0x3C3, [0x3C2]),
    (0x3C6, [0x3D5]), (0x3D0, [0x3B2]), (0x3D1, [0x3B8]), (0x3D5, [0x3C6]), (0x3D6, [0x3C0]),
    (0x3F0, [0x3BA]), (0x3F1, [0x3C1]), (0x3F5, [0x3B5]), (0x432, [0x1C80]), (0x434, [0x1C81]),
    (0x43E, [0x1C82]), (0x441, [0x1C83]), (0x442, [0x1C84, 0x1C85]), (0x44A, [0x1C86]),
    (0x463, [0x1C87]), (0x1C80, [0x432]), (0x1C81, [0x434]), (0x1C82, [0x43E]),
    (0x1C83, [0x441]), (0x1C84, [0x442, 0x1C85]), (0x1C85, [0x442, 0x1C84]), (0x1C86, [0x44A]),
    (0x1C87, [0x463]), (0x1C88, [0xA64B]), (0x1E61, [0x1E9B]), (0x1E9B, [0x1E61]),
    (0x1FBE, [0x345, 0x3B9]), (0x1FD3, [0x390]), (0x1FE3, [0x3B0]), (0xA64B, [0x1C88]),
    (0xFB05, [0xFB06]), (0xFB06, [0xFB05])]

/-- The other lower-case characters that share an upper case with `c`. -/
def foldPartners (c : Nat) : List Nat := (foldPartnerTable.lookup c).getD []

/-- The simple lower case of a code point. -/
def lowerOf (c : Nat) : Nat := Text.lowerMap.apply c

/-- Whether a code point is moved by one of the simple case maps. -/
def isCased (c : Nat) : Bool := Text.lowerMap.apply c != c || Text.upperMap.apply c != c

/-- The ASCII lower case of a code point. -/
def asciiLowerOf (c : Nat) : Nat := if 65 ≤ c && c ≤ 90 then c + 32 else c

/-- Whether some code point in `[lo, hi]` has `l` as its simple lower case. -/
def lowersInto (l lo hi : Nat) : Bool :=
  (lo ≤ l && l ≤ hi && lowerOf l == l) ||
    Text.lowerMap.runs.any fun (a, b, step, image) =>
      let y := a + (l - image)
      image ≤ l && y ≤ b && (y - a) % step == 0 && lo ≤ y && y ≤ hi

/-- The first code point beyond the basic multilingual plane. Under the case-insensitive flag a
  set compares the lower case of a text character with its items; items beyond this plane are
  compared as written, and a range reaching beyond it also takes the upper case of that lower
  case. -/
def planeOneStart : Nat := 0x10000

/-- Whether a character belongs to a class escape. -/
def Category.holds (ascii : Bool) (k : Category) (c : Char) : Bool :=
  let n := c.toNat
  let digit := if ascii then c.isDigit else Text.isDecimalDigit c
  let space := if ascii then n == 32 || (9 ≤ n && n ≤ 13) else Text.isBlank c
  let word := if ascii then c.isAlphanum || c == '_' else Text.isWordChar c
  match k with
  | .digit => digit | .notDigit => !digit
  | .space => space | .notSpace => !space
  | .word => word | .notWord => !word

/-- Whether a character is a word character for the boundary anchors. -/
def isBoundaryWord (ascii : Bool) (c : Char) : Bool :=
  if ascii then c.isAlphanum || c == '_' else Text.isWordChar c

/-- Whether a text character matches a pattern character under the flags. -/
def charMatches (flags : FlagSet) (c : Nat) (ch : Char) : Bool :=
  let n := ch.toNat
  if !flags.ignoreCase then n == c
  else if flags.ascii then
    if c < 128 && (Char.ofNat c).isAlpha then asciiLowerOf n == asciiLowerOf c else n == c
  else if !isCased c then n == c
  else
    let l := lowerOf c
    let m := lowerOf n
    m == l || (foldPartners l).contains m

/-- Whether a text character matches one item of a set under the flags. -/
def SetItem.matches (flags : FlagSet) (ch : Char) : SetItem → Bool
  | .char c =>
    if flags.ignoreCase && !flags.ascii && planeOneStart ≤ c then lowerOf ch.toNat == c
    else charMatches flags c ch
  | .range lo hi =>
    let n := ch.toNat
    if !flags.ignoreCase then lo ≤ n && n ≤ hi
    else
      let top := Nat.min hi (planeOneStart - 1)
      let l := if flags.ascii then asciiLowerOf n else lowerOf n
      let low :=
        if flags.ascii then (lo ≤ l && l ≤ top) || (97 ≤ l && l ≤ 122 && lo ≤ l - 32 && l - 32 ≤ top)
        else lowersInto l lo top || (foldPartners l).any (lowersInto · lo top)
      let u := Text.upperMap.apply l
      low || (planeOneStart ≤ hi && ((lo ≤ l && l ≤ hi) || (lo ≤ u && u ≤ hi)))
  | .category k =>
    let c := if flags.ignoreCase && !flags.ascii then Char.ofNat (lowerOf ch.toNat) else ch
    k.holds flags.ascii c

/-- Whether a text character matches a set. -/
def setMatches (flags : FlagSet) (negated : Bool) (items : List SetItem) (ch : Char) : Bool :=
  (items.any (·.matches flags ch)) != negated

/-- Whether an anchor holds at a position of the text. -/
def Anchor.holds (flags : FlagSet) (text : Array Char) (pos : Nat) : Anchor → Bool
  | .lineStart => pos == 0 || (flags.multiline && text[pos - 1]? == some '\n')
  | .lineEnd =>
    if flags.multiline then pos == text.size || text[pos]? == some '\n'
    else pos == text.size || (pos + 1 == text.size && text[pos]? == some '\n')
  | .textStart => pos == 0
  | .textEnd => pos == text.size
  | .boundary =>
    text.size != 0 &&
      ((pos > 0 && (text[pos - 1]?.map (isBoundaryWord flags.ascii)).getD false) !=
        (pos < text.size && (text[pos]?.map (isBoundaryWord flags.ascii)).getD false))
  | .notBoundary =>
    text.size != 0 &&
      ((pos > 0 && (text[pos - 1]?.map (isBoundaryWord flags.ascii)).getD false) ==
        (pos < text.size && (text[pos]?.map (isBoundaryWord flags.ascii)).getD false))

/-- The spans of the groups matched so far. -/
abbrev Spans := Array (Option (Nat × Nat))

/-- What the rest of a match does with the position and spans reached. -/
abbrev Rest := Nat → Spans → Option (Nat × Spans)

/-- The text being searched and the widths of the pattern's groups. -/
structure Subject where
  text : Array Char
  widths : Array (Option Width)

/-- The width of a group of the pattern. -/
def Subject.groupWidth (s : Subject) (g : Nat) : Width :=
  match s.widths[g]? with
  | some (some w) => w
  | _ => (0, 0)

/-- Whether the text at `pos` repeats the span `[a, b)` under the flags. -/
def Subject.repeats (s : Subject) (flags : FlagSet) (a b pos : Nat) : Bool :=
  pos + (b - a) ≤ s.text.size &&
    (List.range (b - a)).all fun i =>
      match s.text[a + i]?, s.text[pos + i]? with
      | some x, some y =>
        if flags.ignoreCase then
          if flags.ascii then asciiLowerOf x.toNat == asciiLowerOf y.toNat
          else lowerOf x.toNat == lowerOf y.toNat
        else x == y
      | _, _ => false

/-- The first way a match can end, as a rest. -/
def stop : Rest := fun p s => some (p, s)

mutual

/-- Matches a sequence of pieces at `pos`, then the rest `k`. -/
def matchSeq (fuel : Nat) (s : Subject) (flags : FlagSet) (nodes : List Node) (pos : Nat)
    (spans : Spans) (k : Rest) : Option (Nat × Spans) :=
  match fuel with
  | 0 => none
  | fuel + 1 =>
    match nodes with
    | [] => k pos spans
    | n :: rest => matchNode fuel s flags n pos spans (fun p sp => matchSeq fuel s flags rest p sp k)

/-- Matches one piece at `pos`, then the rest `k`. -/
def matchNode (fuel : Nat) (s : Subject) (flags : FlagSet) (node : Node) (pos : Nat)
    (spans : Spans) (k : Rest) : Option (Nat × Spans) :=
  match fuel with
  | 0 => none
  | fuel + 1 =>
    let step (ok : Char → Bool) : Option (Nat × Spans) :=
      match s.text[pos]? with
      | some ch => if ok ch then k (pos + 1) spans else none
      | none => none
    match node with
    | .char c => step (charMatches flags c)
    | .notChar c => step (fun ch => !charMatches flags c ch)
    | .any => step (fun ch => flags.dotAll || ch != '\n')
    | .set negated items => step (setMatches flags negated items)
    | .anchor a => if a.holds flags s.text pos then k pos spans else none
    | .group index add del body =>
      matchSeq fuel s (flags.within add del) body pos spans fun p sp =>
        k p (match index with
          | some g => sp.set! g (some (pos, p))
          | none => sp)
    | .rep min max greed body =>
      match greed with
      | .possessive => matchPossessive fuel s flags min max body 0 none pos spans k
      | _ => matchRep fuel s flags min max (greed == .lazy) body 0 none pos spans k
    | .backref g =>
      match spans[g]? with
      | some (some (a, b)) =>
        if s.repeats flags a b pos then k (pos + (b - a)) spans else none
      | _ => none
    | .look behind negated body =>
      let width := (widthOf s.groupWidth body).1
      if behind && pos < width then (if negated then k pos spans else none)
      else
        let start := if behind then pos - width else pos
        match matchSeq fuel s flags body start spans stop with
        | some (_, sp) => if negated then none else k pos sp
        | none => if negated then k pos spans else none
    | .conditional g yes no =>
      match spans[g]? with
      | some (some _) => matchSeq fuel s flags yes pos spans k
      | _ => matchSeq fuel s flags (no.getD []) pos spans k
    | .atomic body =>
      match matchSeq fuel s flags body pos spans stop with
      | some (p, sp) => k p sp
      | none => none
    | .branch alts => matchAlternatives fuel s flags alts pos spans k

/-- Tries the alternatives in order. -/
def matchAlternatives (fuel : Nat) (s : Subject) (flags : FlagSet) (alts : List (List Node))
    (pos : Nat) (spans : Spans) (k : Rest) : Option (Nat × Spans) :=
  match fuel with
  | 0 => none
  | fuel + 1 =>
    match alts with
    | [] => none
    | alt :: rest =>
      match matchSeq fuel s flags alt pos spans k with
      | some r => some r
      | none => matchAlternatives fuel s flags rest pos spans k

/-- A greedy or lazy repetition after `count` items; `last` is where the last optional item
  started, so that an item that matched nothing is not tried again. -/
def matchRep (fuel : Nat) (s : Subject) (flags : FlagSet) (min : Nat) (max : Option Nat)
    (lazy : Bool) (body : List Node) (count : Nat) (last : Option Nat) (pos : Nat)
    (spans : Spans) (k : Rest) : Option (Nat × Spans) :=
  match fuel with
  | 0 => none
  | fuel + 1 =>
    if count < min then
      matchSeq fuel s flags body pos spans fun p sp =>
        matchRep fuel s flags min max lazy body (count + 1) last p sp k
    else
      let canMore := (match max with | some m => count < m | none => true) && last != some pos
      let more : Unit → Option (Nat × Spans) := fun _ =>
        if canMore then
          matchSeq fuel s flags body pos spans fun p sp =>
            matchRep fuel s flags min max lazy body (count + 1) (some pos) p sp k
        else none
      if lazy then
        match k pos spans with
        | some r => some r
        | none => more ()
      else
        match more () with
        | some r => some r
        | none => k pos spans

/-- A possessive repetition: each item keeps its first match, items are taken while they
  match and move on, and the count is never given back. -/
def matchPossessive (fuel : Nat) (s : Subject) (flags : FlagSet) (min : Nat) (max : Option Nat)
    (body : List Node) (count : Nat) (last : Option Nat) (pos : Nat) (spans : Spans)
    (k : Rest) : Option (Nat × Spans) :=
  match fuel with
  | 0 => none
  | fuel + 1 =>
    if count < min then
      match matchSeq fuel s flags body pos spans stop with
      | some (p, sp) => matchPossessive fuel s flags min max body (count + 1) last p sp k
      | none => none
    else if (match max with | some m => count < m | none => true) && last != some pos then
      match matchSeq fuel s flags body pos spans stop with
      | some (p, sp) => matchPossessive fuel s flags min max body (count + 1) (some pos) p sp k
      | none => k pos spans
    else k pos spans

end

/-- Whether the pattern matches somewhere in the text. -/
def Compiled.search (c : Compiled) (text : String) : Bool :=
  let chars := text.toList.toArray
  let subject : Subject := ⟨chars, c.widths⟩
  let fuel := 64 * (chars.size + 2) * (c.size + 2)
  let spans : Spans := Array.replicate c.groups none
  (List.range (chars.size + 1)).any fun start =>
    (matchSeq fuel subject c.flags c.nodes start spans stop).isSome

end FieldRules.Pattern
