import FieldRules.Proofs.Tokenize
import FieldRules.Lang.Parser

/-! # Writing programs back as rule text

The printer that the reader inverts. A program is written as its tokens (`Program.toks`), each
as its own text and separated by single spaces (`Program.print`): statements joined by `;`, a
binding as `let NAME = e`, a subexpression in parentheses only where the precedence levels and
the left grouping of every binary level require it (`wrapAt`), `!` for logical not, a string
in double quotes with only the backslash and the double quote escaped, booleans as
`true`/`false`, `null` as `null`, object keys as string literals.

The programs the printer writes faithfully are the `Printable` ones: names are ASCII names that
are no keyword in any letter case, integers are nonnegative and short enough to be read back,
floats are written as plain decimals that read back as themselves, and object keys are
distinct.

Main statement: the printed text of a printable program lexes to exactly its tokens, then the
end of input (`tokenize_print`). Every token is written as one lexeme, or as `not` and `in`
for `not in`, and the blank between two tokens ends the lexeme before it. -/

namespace FieldRules.Lang
open Text

/-! ## Tokens and their text -/

/-- The kind of token a binary operator is read from. -/
def BinOp.kind : BinOp → TokenKind
  | .or => .or | .and => .and
  | .eq => .eq | .neq => .neq | .lt => .lt | .lte => .lte | .gt => .gt | .gte => .gte
  | .mem => .inKw | .notMem => .notIn
  | .add => .plus | .sub => .minus
  | .mul => .multiply | .div => .divide | .mod => .modulo

/-- The kind of token a unary operator is read from. -/
def UnOp.kind : UnOp → TokenKind
  | .not => .not | .neg => .minus

/-- The kind of token a literal is read from. -/
def Atom.kind : Atom → TokenKind
  | .null => .null | .bool _ => .boolean | .int _ | .float _ => .number | .str _ => .string

/-- Escapes the backslashes and double quotes of a string body. -/
def escapeQuoted : List Char → List Char
  | [] => []
  | c :: cs => if c = '\\' ∨ c = '"' then '\\' :: c :: escapeQuoted cs else c :: escapeQuoted cs

/-- The text of a literal. -/
def Atom.text : Atom → String
  | .null => "null"
  | .bool b => if b then "true" else "false"
  | .int n => toString n
  | .float x => Number.floatText x
  | .str s => String.ofList ('"' :: escapeQuoted s.toList ++ ['"'])

/-- The text a token is written as: a literal's own text, else the text the token carries. -/
def tokenText : TokenKind × Atom → String
  | (.number, a) | (.string, a) | (.boolean, a) | (.null, a) => a.text
  | (_, .str s) => s
  | (_, _) => ""

/-! ## Printing -/

/-- How tightly an expression binds as printed: its binary level, 5 for a unary expression and
  6 for postfix and primary expressions. -/
def Expr.prec : Expr → Nat
  | .binary op _ _ => op.level
  | .unary _ _ => 5
  | _ => 6

/-- The tokens `ts` of an expression `e` in a place that needs level `k`: in parentheses when
  `e` binds less tightly. -/
def wrapAt (k : Nat) (e : Expr) (ts : List (TokenKind × Atom)) : List (TokenKind × Atom) :=
  if k ≤ e.prec then ts else (.lparen, .str "(") :: ts ++ [(.rparen, .str ")")]

mutual

/-- The tokens of an expression. A binary operator's left operand needs its level and its
  right operand one more, so that each level groups to the left. -/
def Expr.toks : Expr → List (TokenKind × Atom)
  | .lit a => [(a.kind, a)]
  | .var n => [(.identifier, .str n)]
  | .member o n => wrapAt 6 o o.toks ++ [(.dot, .str "."), (.identifier, .str n)]
  | .index o k => wrapAt 6 o o.toks ++ (.lbracket, .str "[") :: k.toks ++ [(.rbracket, .str "]")]
  | .binary op l r =>
    wrapAt op.level l l.toks ++ (op.kind, .str op.text) :: wrapAt (op.level + 1) r r.toks
  | .unary op a => (op.kind, .str op.text) :: wrapAt 5 a a.toks
  | .call fn args =>
    (.identifier, .str fn) :: (.lparen, .str "(") :: Expr.listToks args ++ [(.rparen, .str ")")]
  | .array items => (.lbracket, .str "[") :: Expr.listToks items ++ [(.rbracket, .str "]")]
  | .object entries =>
    (.lbrace, .str "\x7b") :: Expr.entryToks entries ++ [(.rbrace, .str "\x7d")]

/-- The tokens of expressions separated by commas. -/
def Expr.listToks : List Expr → List (TokenKind × Atom)
  | [] => []
  | e :: es => e.toks ++ Expr.moreToks es

/-- The tokens of expressions, each after a comma. -/
def Expr.moreToks : List Expr → List (TokenKind × Atom)
  | [] => []
  | e :: es => (.comma, .str ",") :: e.toks ++ Expr.moreToks es

/-- The tokens of object entries separated by commas, each key a string literal. -/
def Expr.entryToks : List (String × Expr) → List (TokenKind × Atom)
  | [] => []
  | (k, v) :: es => (.string, .str k) :: (.colon, .str ":") :: v.toks ++ Expr.moreEntryToks es

/-- The tokens of object entries, each after a comma. -/
def Expr.moreEntryToks : List (String × Expr) → List (TokenKind × Atom)
  | [] => []
  | (k, v) :: es =>
    (.comma, .str ",") :: (.string, .str k) :: (.colon, .str ":") :: v.toks ++ Expr.moreEntryToks es

end

/-- The tokens of an expression in a place that needs level `k`. -/
def Expr.toksAt (k : Nat) (e : Expr) : List (TokenKind × Atom) := wrapAt k e e.toks

/-- The tokens of a statement. -/
def Statement.toks : Statement → List (TokenKind × Atom)
  | .bind n e => (.letKw, .str "let") :: (.identifier, .str n) :: (.assign, .str "=") :: e.toks
  | .eval e => e.toks

/-- The tokens of a program: its statements separated by semicolons. -/
def Program.toks (p : Program) : List (TokenKind × Atom) :=
  [(.semicolon, .str ";")].intercalate (p.statements.map Statement.toks)

/-- A program as rule text: its tokens' texts separated by single spaces. -/
def Program.print (p : Program) : String := " ".intercalate (p.toks.map tokenText)

/-! ## Printable programs -/

/-- An ASCII name, `[A-Za-z_][A-Za-z0-9_]*`, that in lower case is no keyword. -/
def IsPlainName (n : String) : Prop :=
  (∃ c cs, n.toList = c :: cs ∧ isNameStart c ∧ ∀ d ∈ cs, isNameChar d) ∧
    ∀ kw ∈ keywordTable, kw.1 ≠ String.ofList (n.toList.map Char.toLower)

instance (n : String) : Decidable (IsPlainName n) :=
  decidable_of_iff
    ((match n.toList with
      | [] => false
      | c :: cs => isNameStart c && cs.all isNameChar) = true ∧
      ∀ kw ∈ keywordTable, kw.1 ≠ String.ofList (n.toList.map Char.toLower))
    (by cases h : n.toList <;> simp [IsPlainName, h])

/-- A float whose text is digits around a point, with no sign or exponent, that the reader
  converts back to the float itself. -/
def FloatReadsBack (x : Float) : Prop :=
  ∃ ds fs, (Number.floatText x).toList = ds ++ '.' :: fs ∧ ds ≠ [] ∧ fs ≠ [] ∧
    (∀ d ∈ ds, isDecimalDigit d) ∧ (∀ d ∈ fs, isDecimalDigit d) ∧
    decimalToFloat (digitValues ds) (digitValues fs) = x

/-- A literal the printer writes faithfully: an integer must be nonnegative and have no more
  digits than the reader converts, a float must be written as a plain decimal that reads back. -/
def Atom.Printable : Atom → Prop
  | .int n => 0 ≤ n ∧ (toString n).length ≤ integerDigitLimit
  | .float x => FloatReadsBack x
  | _ => True

/-- Expressions the printer writes faithfully. -/
inductive Expr.Printable : Expr → Prop
  | lit {a : Atom} : a.Printable → (Expr.lit a).Printable
  | var {n : String} : IsPlainName n → (Expr.var n).Printable
  | member {o : Expr} {n : String} : o.Printable → IsPlainName n → (Expr.member o n).Printable
  | index {o k : Expr} : o.Printable → k.Printable → (Expr.index o k).Printable
  | binary {op : BinOp} {l r : Expr} : l.Printable → r.Printable → (Expr.binary op l r).Printable
  | unary {op : UnOp} {a : Expr} : a.Printable → (Expr.unary op a).Printable
  | call {fn : String} {args : List Expr} : IsPlainName fn → (∀ a ∈ args, a.Printable) →
      (Expr.call fn args).Printable
  | array {items : List Expr} : (∀ a ∈ items, a.Printable) → (Expr.array items).Printable
  | object {entries : List (String × Expr)} : (entries.map Prod.fst).Nodup →
      (∀ p ∈ entries, p.2.Printable) → (Expr.object entries).Printable

/-- Statements the printer writes faithfully. -/
def Statement.Printable : Statement → Prop
  | .bind n e => IsPlainName n ∧ e.Printable
  | .eval e => e.Printable

/-- Programs the printer writes faithfully: at least one statement, each printable. -/
def Program.Printable (p : Program) : Prop :=
  p.statements ≠ [] ∧ ∀ s ∈ p.statements, s.Printable

/-! ## Lexemes that a blank ends -/

theorem isBlank_of_isNameChar {c : Char} (h : isNameChar c = true) : isBlank c = false := by
  simp only [isNameChar, Char.isAlphanum, Char.isAlpha, Char.isDigit, Char.isUpper, Char.isLower,
    Bool.or_eq_true, Bool.and_eq_true, decide_eq_true_eq, beq_iff_eq] at h
  rcases h with ((h | h) | h) | rfl
  · exact isBlank_eq_false_of_visible (Nat.le_trans (by decide) h.1) (Nat.lt_of_le_of_lt h.2 (by decide))
  · exact isBlank_eq_false_of_visible (Nat.le_trans (by decide) h.1) (Nat.lt_of_le_of_lt h.2 (by decide))
  · exact isBlank_eq_false_of_visible (Nat.le_trans (by decide) h.1) (Nat.lt_of_le_of_lt h.2 (by decide))
  · decide

/-- The operators hold no blank. -/
theorem operatorTable_no_blank : ∀ e ∈ operatorTable, ∀ c ∈ e.1, isBlank c = false := by
  simp only [operatorTable, List.forall_mem_cons, List.not_mem_nil, IsEmpty.forall_iff,
    implies_true, and_true]
  decide

/-- A lexeme that is no string holds no blank. -/
theorem Lexeme.not_blank {l : List Char} (h : Lexeme l) (hq : ∀ c ∈ l.head?, c ≠ '"' ∧ c ≠ '\'') :
    ∀ d ∈ l, isBlank d = false := by
  cases h with
  | integer _ hd => exact fun d hm => not_isBlank_of_isDecimalDigit (hd d hm)
  | @decimal ds fs _ _ hds hfs =>
    intro d hm
    rcases List.mem_append.1 hm with hm | hm
    · exact not_isBlank_of_isDecimalDigit (hds d hm)
    · rcases List.mem_cons.1 hm with rfl | hm
      · decide
      · exact not_isBlank_of_isDecimalDigit (hfs d hm)
  | string hq' _ =>
    rcases hq' with rfl | rfl
    · exact absurd rfl (hq _ rfl).1
    · exact absurd rfl (hq _ rfl).2
  | name hc hcs =>
    intro d hm
    rcases List.mem_cons.1 hm with rfl | hm
    · exact isBlank_of_isNameStart hc
    · exact isBlank_of_isNameChar (hcs d hm)
  | operator hk => exact operatorTable_no_blank _ hk

/-- A lexeme followed by a blank, or by nothing, is the longest lexeme there. -/
theorem longestLexeme_of_blank {w : List Char} (h : Lexeme w) (rest : List Char)
    (hrest : ∀ b r, rest = b :: r → isBlank b) : LongestLexeme w (w ++ rest) := by
  refine ⟨List.prefix_append _ _, h, fun l' hp hl' => ?_⟩
  obtain ⟨c, r, rfl⟩ := List.exists_cons_of_ne_nil h.ne_nil
  obtain ⟨c', r', rfl⟩ := List.exists_cons_of_ne_nil hl'.ne_nil
  have hc : c' = c := (List.cons_prefix_cons.1 hp).1
  subst hc
  by_cases hq : c' = '"' ∨ c' = '\''
  · -- both are strings in the same quotes, so their bodies agree
    have hqb : c' ≠ '\\' := by rcases hq with rfl | rfl <;> decide
    obtain ⟨body, hb, rfl⟩ := h.of_quote hq
    obtain ⟨body', hb', rfl⟩ := hl'.of_quote hq
    obtain ⟨t, ht⟩ := hp
    have he : body' ++ c' :: t = body ++ c' :: rest := by simpa using ht
    simp [(hb'.eq_of_append hqb hb he).1]
  · -- a lexeme that is no string stops before the blank
    have hnb := hl'.not_blank (by simpa using hq)
    by_contra hlong
    rcases rest with _ | ⟨b, r2⟩
    · exact hlong (by simpa using hp.length_le)
    · have hb := hrest b r2 rfl
      have htake := List.prefix_iff_eq_take.1 hp
      have hmem : b ∈ c' :: r' := by
        rw [htake, List.take_append, List.take_of_length_le (by omega)]
        simp only [List.mem_append]
        right
        rw [show (c' :: r').length - (c' :: r).length = (c' :: r').length - (c' :: r).length - 1 + 1
          by omega, List.take_succ_cons]
        exact List.mem_cons_self
      simp [hnb b hmem] at hb


/-! ## Names, numerals and quoted strings -/

theorem IsPlainName.lexeme {n : String} (h : IsPlainName n) : Lexeme n.toList := by
  obtain ⟨⟨c, cs, hn, hc, hcs⟩, -⟩ := h
  rw [hn]
  exact .name hc hcs

theorem IsPlainName.within {n : String} (h : IsPlainName n) : IntegerWithin n.toList := by
  obtain ⟨⟨c, cs, hn, hc, -⟩, -⟩ := h
  intro hall
  rw [hn] at hall
  simp [isDecimalDigit_of_isNameStart hc] at hall

theorem IsPlainName.reads {n : String} (h : IsPlainName n) :
    lexemeToken n.toList = (.identifier, .str n) := by
  obtain ⟨⟨c, cs, hn, hc, -⟩, hkw⟩ := h
  have hfind : keywordTable.find? (·.1 == String.ofList (n.toList.map Char.toLower)) = none :=
    List.find?_eq_none.2 fun kw hkw' => by simpa using hkw kw hkw'
  rw [lexemeToken, hn, Piece.ofLexeme_name hc, ← hn, String.ofList_toList]
  simp only [nameToken, hfind]

/-- The value of a digit. -/
theorem digitValue?_digitChar : ∀ d < 10, digitValue? (Nat.digitChar d) = some d := by
  decide

/-- The decimal numeral of a number is a run of digits that denotes it. -/
theorem digits_toDigits (m : Nat) :
    (∀ d ∈ Nat.toDigits 10 m, isDecimalDigit d) ∧ digitsToNat (digitValues (Nat.toDigits 10 m)) = m := by
  induction m using Nat.strong_induction_on with
  | _ m ih =>
  rw [Nat.toDigits_eq_if (by decide)]
  have hlast : ∀ d < 10, isDecimalDigit (Nat.digitChar d) ∧ (digitValue? (Nat.digitChar d)).getD 0 = d :=
    fun d hd => by simp [isDecimalDigit, digitValue?_digitChar d hd]
  split
  · rename_i hm
    simp [digitValues, digitsToNat, hlast m hm]
  · rename_i hm
    obtain ⟨ihd, ihv⟩ := ih (m / 10) (by omega)
    obtain ⟨hd, hv⟩ := hlast (m % 10) (Nat.mod_lt _ (by decide))
    refine ⟨fun d hmem => ?_, ?_⟩
    · rcases List.mem_append.1 hmem with hmem | hmem
      · exact ihd d hmem
      · rw [List.mem_singleton.1 hmem]; exact hd
    · simp only [digitValues, List.map_append, List.map_cons, List.map_nil, digitsToNat,
        List.foldl_append, List.foldl_cons, List.foldl_nil] at ihv ⊢
      rw [ihv, hv]
      omega

theorem escapeQuoted_body (cs : List Char) : StringBody '"' (escapeQuoted cs) := by
  induction cs with
  | nil => exact .nil
  | cons c cs ih =>
    by_cases hc : c = '\\' ∨ c = '"'
    · rw [escapeQuoted, if_pos hc]
      exact .escape (by rcases hc with rfl | rfl <;> decide) ih
    · rw [escapeQuoted, if_neg hc]
      exact .plain (fun h => hc (.inr h)) (fun h => hc (.inl h)) ih

theorem unescape_cons {c : Char} (hc : c ≠ '\\') (r : List Char) : unescape (c :: r) = c :: unescape r := by
  rcases r with _ | ⟨d, r⟩ <;> simp [unescape, hc]

theorem unescape_escapeQuoted (cs : List Char) : unescape (escapeQuoted cs) = cs := by
  induction cs with
  | nil => rfl
  | cons c cs ih =>
    by_cases hc : c = '\\' ∨ c = '"'
    · rw [escapeQuoted, if_pos hc]
      rcases hc with rfl | rfl <;> simp [unescape, escapeChar, ih]
    · rw [escapeQuoted, if_neg hc, unescape_cons (fun h => hc (.inl h)), ih]


/-! ## The lexemes of a printed token -/

/-- The lexemes a token is written as: `not in` as two, any other token as one. -/
def tokenWords (kv : TokenKind × Atom) : List (List Char) :=
  if kv.1 = .notIn then [['n', 'o', 't'], ['i', 'n']] else [(tokenText kv).toList]

/-- The tokens that the lexemes of a token are read as, before `not` and `in` are merged. -/
def splitNotIn (kv : TokenKind × Atom) : List (TokenKind × Atom) :=
  if kv.1 = .notIn then [(.not, .str "not"), (.inKw, .str "in")] else [kv]

/-- The tokens a printed program is made of. -/
inductive PrintedToken : TokenKind × Atom → Prop
  | name {n : String} : IsPlainName n → PrintedToken (.identifier, .str n)
  | literal {a : Atom} : a.Printable → PrintedToken (a.kind, a)
  | mark {op : List Char} {k : TokenKind} : (op, k) ∈ operatorTable →
      PrintedToken (k, .str (String.ofList op))
  | letKw : PrintedToken (.letKw, .str "let")
  | inKw : PrintedToken (.inKw, .str "in")
  | notIn : PrintedToken (.notIn, .str "not in")

/-- How a token's text lexes: into lexemes, none an integer too long to read, that are read as
  the token. -/
structure WordsOf (kv : TokenKind × Atom) : Prop where
  text : (tokenText kv).toList = [' '].intercalate (tokenWords kv)
  ne_nil : tokenWords kv ≠ []
  lexeme : ∀ w ∈ tokenWords kv, Lexeme w
  within : ∀ w ∈ tokenWords kv, IntegerWithin w
  reads : (tokenWords kv).map lexemeToken = splitNotIn kv

/-- A token written as one lexeme. -/
theorem WordsOf.single {kv : TokenKind × Atom} (hk : kv.1 ≠ .notIn) (hl : Lexeme (tokenText kv).toList)
    (hw : IntegerWithin (tokenText kv).toList) (hr : lexemeToken (tokenText kv).toList = kv) :
    WordsOf kv := by
  have hws : tokenWords kv = [(tokenText kv).toList] := if_neg hk
  refine ⟨by simp [hws], by simp [hws], ?_, ?_, ?_⟩
  · simpa [hws] using hl
  · simpa [hws] using hw
  · simp [hws, hr, splitNotIn, hk]

/-- The operators are no literals, and the only `not` among them is `!`. -/
theorem operatorTable_kinds : ∀ e ∈ operatorTable, e.2 ≠ .number ∧ e.2 ≠ .string ∧
    e.2 ≠ .boolean ∧ e.2 ≠ .null ∧ e.2 ≠ .notIn ∧ (e.2 = .not → e.1 = ['!']) := by
  decide

theorem tokenText_str {k : TokenKind} (hk : k ≠ .number ∧ k ≠ .string ∧ k ≠ .boolean ∧ k ≠ .null)
    (s : String) : tokenText (k, .str s) = s := by
  cases k <;> simp_all [tokenText]

theorem IntegerWithin.of_not_digit {w : List Char} {c : Char} (hc : c ∈ w)
    (hd : isDecimalDigit c = false) : IntegerWithin w :=
  fun h => absurd (h c hc) (by simp [hd])

theorem Atom.Printable.wordsOf {a : Atom} (h : a.Printable) : WordsOf (a.kind, a) := by
  cases a with
  | null => exact .single (by decide) (.name (by decide) (List.all_eq_true.1 rfl)) (.of_not_digit (c := 'n') (by decide) (by decide)) rfl
  | bool b =>
    cases b
    · exact .single (by decide) (.name (by decide) (List.all_eq_true.1 rfl)) (.of_not_digit (c := 'f') (by decide) (by decide)) rfl
    · exact .single (by decide) (.name (by decide) (List.all_eq_true.1 rfl)) (.of_not_digit (c := 't') (by decide) (by decide)) rfl
  | int n =>
    obtain ⟨hn, hlen⟩ := h
    obtain ⟨m, rfl⟩ := Int.eq_ofNat_of_zero_le hn
    have hrepr : toString (m : Int) = Nat.repr m := rfl
    have htext : (tokenText (Atom.kind (.int m), .int m)).toList = Nat.toDigits 10 m := by
      simp [tokenText, Atom.kind, Atom.text, hrepr]
    have hlen' : (Nat.toDigits 10 m).length ≤ integerDigitLimit := by
      rw [← Nat.toList_repr, String.length_toList, ← hrepr]; exact hlen
    obtain ⟨hd, hv⟩ := digits_toDigits m
    obtain ⟨c, r, hcr⟩ := List.exists_cons_of_ne_nil (Nat.toDigits_ne_nil (b := 10) (n := m))
    refine .single (by simp [Atom.kind]) ?_ ?_ ?_ <;> rw [htext]
    · exact .integer Nat.toDigits_ne_nil hd
    · exact fun _ => hlen'
    · rw [lexemeToken, hcr, Piece.ofLexeme_number (hd c (by simp [hcr])) (hcr ▸ hd), ← hcr]
      simp only [hv]
      rfl
  | float x =>
    obtain ⟨ds, fs, htext, hds, hfs, hd, hf, hx⟩ := h
    have htext' : (tokenText (Atom.kind (.float x), .float x)).toList = ds ++ '.' :: fs := by
      simpa [tokenText, Atom.kind, Atom.text] using htext
    refine .single (by simp [Atom.kind]) ?_ ?_ ?_ <;> rw [htext']
    · exact .decimal hds hfs hd hf
    · exact .of_not_digit (c := '.') (by simp) (by decide)
    · rw [lexemeToken, Piece.ofLexeme_decimal hds hd]
      simp only [hx]
      rfl
  | str s =>
    have htext : (tokenText (Atom.kind (.str s), .str s)).toList = '"' :: (escapeQuoted s.toList ++ ['"']) := by
      simp [tokenText, Atom.kind, Atom.text]
    refine .single (by simp [Atom.kind]) ?_ ?_ ?_ <;> rw [htext]
    · exact .string (.inl rfl) (escapeQuoted_body _)
    · exact .of_not_digit List.mem_cons_self (by decide)
    · rw [lexemeToken, Piece.ofLexeme_string (.inl rfl)]
      simp [unescape_escapeQuoted, Atom.kind]

theorem PrintedToken.wordsOf {kv : TokenKind × Atom} (h : PrintedToken kv) : WordsOf kv := by
  cases h with
  | name hn =>
    exact .single (by simp) hn.lexeme hn.within (by rw [show tokenText _ = _ from rfl]; exact hn.reads)
  | literal ha => exact ha.wordsOf
  | @mark op k hk =>
    obtain ⟨h1, h2, h3, h4, h5, -⟩ := operatorTable_kinds _ hk
    obtain ⟨hne, hhead⟩ := operatorTable_heads _ hk
    obtain ⟨c, r, rfl⟩ := List.exists_cons_of_ne_nil hne
    have htext : (tokenText (k, .str (String.ofList (c :: r)))).toList = c :: r := by
      rw [tokenText_str ⟨h1, h2, h3, h4⟩, String.toList_ofList]
    refine .single h5 ?_ ?_ ?_ <;> rw [htext]
    · exact .operator hk
    · exact .of_not_digit List.mem_cons_self (hhead c rfl).2.1
    · rw [lexemeToken, Piece.ofLexeme_operator hk]
  | letKw => exact .single (by decide) (.name (by decide) (List.all_eq_true.1 rfl)) (.of_not_digit (c := 'l') (by decide) (by decide)) rfl
  | inKw => exact .single (by decide) (.name (by decide) (List.all_eq_true.1 rfl)) (.of_not_digit (c := 'i') (by decide) (by decide)) rfl
  | notIn =>
    refine ⟨by decide, by decide, ?_, ?_, rfl⟩
    · intro w hw
      simp only [tokenWords, if_pos, List.mem_cons, List.not_mem_nil, or_false] at hw
      rcases hw with rfl | rfl <;> exact .name (by decide) (List.all_eq_true.1 rfl)
    · intro w hw
      simp only [tokenWords, if_pos, List.mem_cons, List.not_mem_nil, or_false] at hw
      rcases hw with rfl | rfl
      · exact .of_not_digit (c := 'n') (by decide) (by decide)
      · exact .of_not_digit (c := 'i') (by decide) (by decide)

/-- The keyword `not` is never printed: `!` is, and `not in` is one token. -/
theorem PrintedToken.isNotWord {kv : TokenKind × Atom} (h : PrintedToken kv) : isNotWord kv = false := by
  cases h with
  | name => rfl
  | @literal a _ => cases a <;> rfl
  | @mark op k hk =>
    obtain ⟨-, -, -, -, -, hnot⟩ := operatorTable_kinds _ hk
    by_cases hk' : k = .not
    · subst hk'
      have hop : op = ['!'] := hnot rfl
      subst hop
      rfl
    · cases k <;> first | rfl | exact absurd rfl hk'
  | letKw | inKw | notIn => rfl

/-- The only printed token of kind `not in` is `not in` itself. -/
theorem PrintedToken.eq_notIn {kv : TokenKind × Atom} (h : PrintedToken kv) (hk : kv.1 = .notIn) :
    kv = (.notIn, .str "not in") := by
  cases h with
  | name | letKw | inKw => cases hk
  | @literal a _ => cases a <;> cases hk
  | mark hk' => exact absurd hk (operatorTable_kinds _ hk').2.2.2.2.1
  | notIn => rfl


theorem PrintedToken.of_operator {s : String} {k : TokenKind} (hk : (s.toList, k) ∈ operatorTable) :
    PrintedToken (k, .str s) := by
  simpa using PrintedToken.mark hk

theorem BinOp.printed (op : BinOp) : PrintedToken (op.kind, .str op.text) := by
  cases op with
  | mem => exact .inKw
  | notMem => exact .notIn
  | _ => exact .of_operator (by decide)

theorem UnOp.printed (op : UnOp) : PrintedToken (op.kind, .str op.text) := by
  cases op <;> exact .of_operator (by decide)

/-! ## The tokens of a printable program -/

section Printed

variable {ts : List (TokenKind × Atom)}

theorem wrapAt_printed (k : Nat) (e : Expr) (h : ∀ kv ∈ ts, PrintedToken kv) :
    ∀ kv ∈ wrapAt k e ts, PrintedToken kv := by
  unfold wrapAt
  split
  · exact h
  · intro kv hkv
    simp only [List.cons_append, List.mem_cons, List.mem_append, List.not_mem_nil, or_false] at hkv
    rcases hkv with rfl | hkv | rfl
    · exact .of_operator (by decide)
    · exact h kv hkv
    · exact .of_operator (by decide)

theorem moreToks_printed : ∀ (es : List Expr), (∀ e ∈ es, ∀ kv ∈ e.toks, PrintedToken kv) →
    ∀ kv ∈ Expr.moreToks es, PrintedToken kv
  | [], _ => by simp [Expr.moreToks]
  | e :: es, h => by
    intro kv hkv
    simp only [Expr.moreToks, List.cons_append, List.mem_cons, List.mem_append] at hkv
    rcases hkv with rfl | hkv | hkv
    · exact .of_operator (by decide)
    · exact h e List.mem_cons_self kv hkv
    · exact moreToks_printed es (fun e' he' => h e' (List.mem_cons_of_mem _ he')) kv hkv

theorem listToks_printed {es : List Expr} (h : ∀ e ∈ es, ∀ kv ∈ e.toks, PrintedToken kv) :
    ∀ kv ∈ Expr.listToks es, PrintedToken kv := by
  cases es with
  | nil => simp [Expr.listToks]
  | cons e es =>
    intro kv hkv
    rcases List.mem_append.1 hkv with hkv | hkv
    · exact h e List.mem_cons_self kv hkv
    · exact moreToks_printed es (fun e' he' => h e' (List.mem_cons_of_mem _ he')) kv hkv

theorem moreEntryToks_printed : ∀ (es : List (String × Expr)), (∀ p ∈ es, ∀ kv ∈ p.2.toks, PrintedToken kv) →
    ∀ kv ∈ Expr.moreEntryToks es, PrintedToken kv
  | [], _ => by simp [Expr.moreEntryToks]
  | (k, v) :: es, h => by
    intro kv hkv
    simp only [Expr.moreEntryToks, List.cons_append, List.mem_cons, List.mem_append] at hkv
    rcases hkv with rfl | rfl | rfl | hkv | hkv
    · exact .of_operator (by decide)
    · exact .literal (a := .str k) trivial
    · exact .of_operator (by decide)
    · exact h (k, v) List.mem_cons_self kv hkv
    · exact moreEntryToks_printed es (fun p hp => h p (List.mem_cons_of_mem _ hp)) kv hkv

theorem entryToks_printed {es : List (String × Expr)} (h : ∀ p ∈ es, ∀ kv ∈ p.2.toks, PrintedToken kv) :
    ∀ kv ∈ Expr.entryToks es, PrintedToken kv := by
  cases es with
  | nil => simp [Expr.entryToks]
  | cons p es =>
    obtain ⟨k, v⟩ := p
    intro kv hkv
    simp only [Expr.entryToks, List.cons_append, List.mem_cons, List.mem_append] at hkv
    rcases hkv with rfl | rfl | hkv | hkv
    · exact .literal (a := .str k) trivial
    · exact .of_operator (by decide)
    · exact h (k, v) List.mem_cons_self kv hkv
    · exact moreEntryToks_printed es (fun p hp => h p (List.mem_cons_of_mem _ hp)) kv hkv

end Printed

/-- Every token of a printable expression is one of the printed tokens. -/
theorem Expr.Printable.printed {e : Expr} (h : e.Printable) : ∀ kv ∈ e.toks, PrintedToken kv := by
  induction h with
  | lit ha => simpa [Expr.toks] using PrintedToken.literal ha
  | var hn => simpa [Expr.toks] using PrintedToken.name hn
  | @member o n _ hn ih =>
    intro kv hkv
    simp only [Expr.toks, List.mem_append, List.mem_cons, List.not_mem_nil, or_false] at hkv
    rcases hkv with hkv | rfl | rfl
    · exact wrapAt_printed 6 o ih kv hkv
    · exact .of_operator (by decide)
    · exact .name hn
  | @index o k _ _ ih1 ih2 =>
    intro kv hkv
    simp only [Expr.toks, List.mem_append, List.mem_cons, List.not_mem_nil, or_false] at hkv
    rcases hkv with (hkv | rfl | hkv) | rfl
    · exact wrapAt_printed 6 o ih1 kv hkv
    · exact .of_operator (by decide)
    · exact ih2 kv hkv
    · exact .of_operator (by decide)
  | @binary op l r _ _ ih1 ih2 =>
    intro kv hkv
    simp only [Expr.toks, List.mem_append, List.mem_cons] at hkv
    rcases hkv with hkv | rfl | hkv
    · exact wrapAt_printed _ l ih1 kv hkv
    · exact op.printed
    · exact wrapAt_printed _ r ih2 kv hkv
  | @unary op a _ ih =>
    intro kv hkv
    simp only [Expr.toks, List.mem_cons] at hkv
    rcases hkv with rfl | hkv
    · exact op.printed
    · exact wrapAt_printed 5 a ih kv hkv
  | @call fn args hfn _ ih =>
    intro kv hkv
    simp only [Expr.toks, List.cons_append, List.mem_cons, List.mem_append, List.not_mem_nil,
      or_false] at hkv
    rcases hkv with rfl | rfl | hkv | rfl
    · exact .name hfn
    · exact .of_operator (by decide)
    · exact listToks_printed ih kv hkv
    · exact .of_operator (by decide)
  | array _ ih =>
    intro kv hkv
    simp only [Expr.toks, List.cons_append, List.mem_cons, List.mem_append, List.not_mem_nil,
      or_false] at hkv
    rcases hkv with rfl | hkv | rfl
    · exact .of_operator (by decide)
    · exact listToks_printed ih kv hkv
    · exact .of_operator (by decide)
  | object _ _ ih =>
    intro kv hkv
    simp only [Expr.toks, List.cons_append, List.mem_cons, List.mem_append, List.not_mem_nil,
      or_false] at hkv
    rcases hkv with rfl | hkv | rfl
    · exact .of_operator (by decide)
    · exact entryToks_printed ih kv hkv
    · exact .of_operator (by decide)


theorem Expr.toks_ne_nil (e : Expr) : e.toks ≠ [] := by
  cases e <;> simp [Expr.toks]

theorem mem_intercalate {α : Type} {sep : List α} {x : α} :
    ∀ {xss : List (List α)}, x ∈ sep.intercalate xss → x ∈ sep ∨ ∃ xs ∈ xss, x ∈ xs
  | [], h => by simp at h
  | [xs], h => .inr ⟨xs, by simp, by simpa using h⟩
  | xs :: ys :: xss, h => by
    rw [List.intercalate_cons_cons] at h
    rcases List.mem_append.1 h with h | h
    · rcases List.mem_append.1 h with h | h
      · exact .inr ⟨xs, List.mem_cons_self, h⟩
      · exact .inl h
    · rcases mem_intercalate h with h | ⟨zs, hz, h⟩
      · exact .inl h
      · exact .inr ⟨zs, List.mem_cons_of_mem _ hz, h⟩

theorem Program.Printable.printed {p : Program} (hp : p.Printable) :
    ∀ kv ∈ p.toks, PrintedToken kv := by
  intro kv hkv
  rcases mem_intercalate hkv with h | ⟨ts, hts, h⟩
  · rw [List.mem_singleton.1 h]; exact .of_operator (by decide)
  · obtain ⟨s, hs, rfl⟩ := List.mem_map.1 hts
    have hsp := hp.2 s hs
    cases s with
    | bind n e =>
      simp only [Statement.toks, List.mem_cons] at h
      rcases h with rfl | rfl | rfl | h
      · exact .letKw
      · exact .name hsp.1
      · exact .of_operator (by decide)
      · exact hsp.2.printed kv h
    | eval e => exact Expr.Printable.printed hsp kv h

theorem Program.toks_ne_nil {p : Program} (hp : p.Printable) : p.toks ≠ [] := by
  obtain ⟨s, ss, hss⟩ := List.exists_cons_of_ne_nil hp.1
  have hs : s.toks ≠ [] := by cases s <;> simp [Statement.toks, Expr.toks_ne_nil]
  obtain ⟨t, ts, ht⟩ := List.exists_cons_of_ne_nil hs
  simp [Program.toks, hss, ht]

/-! ## Lexing the printed text -/

theorem intercalate_append_of_ne_nil {α : Type} {sep : List α} :
    ∀ {xss yss : List (List α)}, xss ≠ [] → yss ≠ [] →
      sep.intercalate (xss ++ yss) = sep.intercalate xss ++ sep ++ sep.intercalate yss
  | [], _, h, _ => absurd rfl h
  | [xs], yss, _, hy => by
    obtain ⟨ys, yss', rfl⟩ := List.exists_cons_of_ne_nil hy
    simp
  | xs :: xs' :: xss, yss, _, hy => by
    rw [List.cons_append, List.cons_append, List.intercalate_cons_cons, ← List.cons_append,
      intercalate_append_of_ne_nil (List.cons_ne_nil _ _) hy, List.intercalate_cons_cons]
    simp

/-- Joining groups each joined by a separator is joining all their members. -/
theorem intercalate_map_intercalate {α β : Type} (sep : List α) (f : β → List (List α)) :
    ∀ (xs : List β), (∀ x ∈ xs, f x ≠ []) →
      sep.intercalate (xs.map fun x => sep.intercalate (f x)) = sep.intercalate (xs.flatMap f)
  | [], _ => rfl
  | [x], _ => by simp
  | x :: y :: xs, h => by
    have hrest := intercalate_map_intercalate sep f (y :: xs) fun z hz => h z (List.mem_cons_of_mem _ hz)
    have hy : (y :: xs).flatMap f ≠ [] := fun hfy =>
      h y (by simp) (List.append_eq_nil_iff.1 (by rwa [List.flatMap_cons] at hfy)).1
    rw [List.map_cons, List.intercalate_cons_of_ne_nil (by simp), hrest, List.flatMap_cons (x := x),
      intercalate_append_of_ne_nil (h x List.mem_cons_self) hy]

/-- The printed text is the lexemes of its tokens separated by single blanks. -/
theorem Program.print_toList {p : Program} (hp : p.Printable) :
    p.print.toList = [' '].intercalate (p.toks.flatMap tokenWords) := by
  have hks := hp.printed
  rw [Program.print, String.toList_intercalate, List.map_map]
  rw [← intercalate_map_intercalate [' '] tokenWords _ fun kv hkv => (hks kv hkv).wordsOf.ne_nil]
  congr 1
  exact List.map_congr_left fun kv hkv => (hks kv hkv).wordsOf.text

/-- Lexemes separated by single blanks split into themselves. -/
theorem splits_intercalate : ∀ (ws : List (List Char)) (w pre : List Char), (∀ c ∈ pre, isBlank c) →
    Lexeme w → (∀ v ∈ ws, Lexeme v) →
    Splits (pre ++ [' '].intercalate (w :: ws)) ((pre, w) :: ws.map fun v => ([' '], v)) []
  | [], w, pre, hpre, hw, _ => by
    simpa using Splits.next hpre (longestLexeme_of_blank hw [] (by simp)) (.last (by simp))
  | v :: ws, w, pre, hpre, hw, hws => by
    have ih := splits_intercalate ws v [' '] (List.all_eq_true.1 rfl) (hws v List.mem_cons_self)
      (fun u hu => hws u (List.mem_cons_of_mem _ hu))
    have hl := longestLexeme_of_blank hw ([' '] ++ [' '].intercalate (v :: ws))
      (fun b r hbr => by simp only [List.singleton_append, List.cons.injEq] at hbr; rw [← hbr.1]; decide)
    simpa [List.intercalate_cons_cons, List.append_assoc] using Splits.next hpre hl ih

theorem splitTokens_kv : ∀ (cur : Cursor) (segs : List (List Char × List Char)),
    (splitTokens cur segs []).map Token.kv = segs.map (fun s => lexemeToken s.2) ++ [(.eof, .null)]
  | _, [] => rfl
  | cur, (w, l) :: segs => by
    rw [splitTokens, List.map_cons, splitTokens_kv]
    rfl

/-- Merging `not in` turns the lexed tokens of printed tokens back into the printed tokens. -/
theorem pairNotIn_kv : ∀ (ks : List (TokenKind × Atom)) (ts : List Token), (∀ kv ∈ ks, PrintedToken kv) →
    ts.map Token.kv = ks.flatMap splitNotIn ++ [(.eof, .null)] →
    (pairNotIn ts).map Token.kv = ks ++ [(.eof, .null)]
  | [], ts, _, h => by
    obtain ⟨t, ts', rfl, ht, hnil⟩ := List.map_eq_cons_iff.1 h
    rw [List.map_eq_nil_iff.1 hnil]
    simpa [pairNotIn] using ht
  | kv :: ks, ts, hp, h => by
    have hks : ∀ kv ∈ ks, PrintedToken kv := fun kv' hkv' => hp kv' (List.mem_cons_of_mem _ hkv')
    by_cases hk : kv.1 = .notIn
    · -- `not` and `in` stand in the text for `not in`
      obtain rfl := (hp kv List.mem_cons_self).eq_notIn hk
      simp only [List.flatMap_cons, splitNotIn, if_pos, List.cons_append, List.nil_append] at h
      obtain ⟨a, ts1, rfl, ha, h1⟩ := List.map_eq_cons_iff.1 h
      obtain ⟨b, ts2, rfl, hb, h2⟩ := List.map_eq_cons_iff.1 h1
      have hm : (isNotWord a.kv && b.kind == .inKw) = true := by
        simp only [Token.kv, Prod.mk.injEq] at hb
        simp [ha, hb.1, isNotWord]
      rw [pairNotIn, if_pos hm, List.map_cons, pairNotIn_kv ks ts2 hks h2]
      simp only [Token.kv, Prod.mk.injEq] at ha
      simp [Token.kv]
    · simp only [List.flatMap_cons, splitNotIn, if_neg hk, List.cons_append, List.nil_append] at h
      obtain ⟨a, ts1, rfl, ha, h1⟩ := List.map_eq_cons_iff.1 h
      rw [pairNotIn_cons_of_not (by rw [ha]; exact (hp kv List.mem_cons_self).isNotWord), List.map_cons,
        ha, pairNotIn_kv ks ts1 hks h1, List.cons_append]

/-- The printed text of a printable program lexes to its tokens, then the end of input. -/
theorem tokenize_print {p : Program} (hp : p.Printable) :
    ∃ ts, tokenize p.print = .ok ts ∧ ts.map Token.kv = p.toks ++ [(.eof, .null)] := by
  have hks := hp.printed
  have hwords : ∀ v ∈ p.toks.flatMap tokenWords, Lexeme v ∧ IntegerWithin v := by
    intro v hv
    obtain ⟨kv, hkv, hv⟩ := List.mem_flatMap.1 hv
    exact ⟨(hks kv hkv).wordsOf.lexeme v hv, (hks kv hkv).wordsOf.within v hv⟩
  obtain ⟨kv, ks, hks'⟩ := List.exists_cons_of_ne_nil (Program.toks_ne_nil hp)
  obtain ⟨w, ws, hws⟩ := List.exists_cons_of_ne_nil (show p.toks.flatMap tokenWords ≠ [] from
    fun h => (hks kv (by simp [hks'])).wordsOf.ne_nil
      (List.append_eq_nil_iff.1 (by rwa [hks', List.flatMap_cons] at h)).1)
  rw [hws] at hwords
  have hsplit := splits_intercalate ws w [] (by simp) (hwords w List.mem_cons_self).1
    (fun v hv => (hwords v (List.mem_cons_of_mem _ hv)).1)
  rw [List.nil_append, ← hws, ← Program.print_toList hp] at hsplit
  refine ⟨_, (tokenize_eq_ok_iff _ _).2 ⟨_, _, hsplit, fun sg hsg => ?_, rfl⟩, ?_⟩
  · rcases List.mem_cons.1 hsg with rfl | hsg
    · exact (hwords w List.mem_cons_self).2
    · obtain ⟨v, hv, rfl⟩ := List.mem_map.1 hsg
      exact (hwords v (List.mem_cons_of_mem _ hv)).2
  · apply pairNotIn_kv _ _ hks
    have hread : (w :: ws).map lexemeToken = p.toks.flatMap splitNotIn := by
      rw [← hws, List.map_flatMap]
      exact List.flatMap_congr fun kv hkv => (hks kv hkv).wordsOf.reads
    have hcomp : ((fun s : List Char × List Char => lexemeToken s.2) ∘ fun v => ([' '], v)) = lexemeToken :=
      rfl
    rw [splitTokens_kv, List.map_cons, List.map_map, hcomp, ← List.map_cons, hread]

end FieldRules.Lang
