import Mathlib
import FieldRules.Proofs.Positions
import FieldRules.Proofs.Scoping
import FieldRules.Proofs.HostEquality
import FieldRules.Proofs.History

/-! # A shorthand rule sees its own field

A rule that starts with `<`, `>`, `=` or `!=` is a shorthand: the checker puts the field's name
and a blank in front of it. When the name is plain (an ASCII identifier that spells no keyword in
any case), the rewritten rule reads the field's value on the left
(`shorthand_sees_field_value`): checking it comes to what evaluating the same rule after any
other plain name comes to, with that name bound to the very value the field holds, as long as
the rule reads no such name itself. Verdicts agree, and so do failures, but for where in the text
they stand.

The proof follows the text through the reader. The scan after the name does not depend on it
(`scanFrom_same`), and the mark is an operator that continues no postfix expression
(`scanFrom_blank_mark`), so the two texts lex to the two names' tokens followed by tokens of the
same kinds and values (`tokenize_shorthand`). Each precedence level then reads expressions that
differ only in the name at their far left (`LeftRenamed`, `parseLevel_lead`), and whole programs
differ only there (`parse_shorthand`). Such expressions take the same value in scopes that give
the two names one value (`eval_leftRenamed`). Binding the field's value again changes no store
(`Store.withIdentity_idem`), and with no mapper a check is an evaluation (`check_outcome`).

A field named like a keyword does not see itself: on a field `null` the shorthand `> 5` reads
`null > 5` (`shorthand_keyword_field_misreads`). -/

/-! ## Binding a bound value again -/

namespace FieldRules.Store

/-- A value that has been given identity is given it again at no cost: every store keeps it as
  it is. -/
theorem withIdentity_idem (s : Store) (v : Value) :
    ∀ t : Store, t.withIdentity (s.withIdentity v).2 = (t, (s.withIdentity v).2) := by
  -- one induction over the three functions that give identity: values, entries and lists
  refine Store.withIdentity.induct
    (fun s v => ∀ t : Store, t.withIdentity (s.withIdentity v).2 = (t, (s.withIdentity v).2))
    (fun s es => ∀ t : Store,
      t.withIdentityEntries (s.withIdentityEntries es).2 = (t, (s.withIdentityEntries es).2))
    (fun s xs => ∀ t : Store,
      t.withIdentityAll (s.withIdentityAll xs).2 = (t, (s.withIdentityAll xs).2))
    ?list ?tuple ?set ?frozenSet ?deque ?record ?dict ?selfUnequal ?plain ?nil ?cons ?entriesNil
    ?entriesCons s v
  case list | tuple | set | frozenSet | deque =>
    intro s xs s' ys h ih t
    have ht := ih t
    simp only [h] at ht
    simp [withIdentity, h, ht]
  case record =>
    intro s c xs s' ys h ih t
    have ht := ih t
    simp only [h] at ht
    simp [withIdentity, h, ht]
  case dict =>
    intro s es s' fs h ih t
    have ht := ih t
    simp only [h] at ht
    simp [withIdentity, h, ht]
  case selfUnequal =>
    intro s v h1 h2 h3 h4 h5 h6 h7 hv _ _ _ t
    rw [withIdentity_of_leaf h1 h2 h3 h4 h5 h6 h7, if_pos hv]
    rfl
  case plain =>
    intro s v h1 h2 h3 h4 h5 h6 h7 hv t
    rw [withIdentity_of_leaf h1 h2 h3 h4 h5 h6 h7, if_neg hv, withIdentity_of_leaf h1 h2 h3 h4 h5 h6 h7,
      if_neg hv]
  case nil | entriesNil => exact fun s t => rfl
  case cons =>
    intro s x xs s₁ y h s₂ ys h' ih ih' t
    have ht := ih t
    have ht' := ih' t
    simp only [h] at ht
    simp only [h'] at ht'
    simp [withIdentityAll, h, h', ht, ht']
  case entriesCons =>
    intro s k v es s₁ y h s₂ y' h' s₃ fs h'' ih ih' ih'' t
    have ht := ih t
    have ht' := ih' t
    have ht'' := ih'' t
    simp only [h] at ht
    simp only [h'] at ht'
    simp only [h''] at ht''
    simp [withIdentityEntries, h, h', h'', ht, ht', ht'']

end FieldRules.Store

namespace FieldRules.Lang
open Text

/-! ## Lexing the rewritten rule -/

/-- The characters a shorthand rule starts with, after blanks. -/
def IsMarkChar (c : Char) : Prop := c = '<' ∨ c = '>' ∨ c = '=' ∨ c = '!'

/-- Trimming keeps the front of the text after its leading blanks. -/
theorem trimBlank_front (s : String) : (trimBlank s).toList <+: s.toList.dropWhile isBlank := by
  refine ⟨((s.toList.dropWhile isBlank).reverse.takeWhile isBlank).reverse, ?_⟩
  rw [trimBlank, String.toList_ofList, ← List.reverse_append, List.takeWhile_append_dropWhile,
    List.reverse_reverse]

/-- A rule text that passes the shorthand test starts, after blanks, with `<`, `>`, `=` or `!`. -/
theorem shorthand_head {e : String}
    (h : Rule.shorthandMarks.any (fun m => (trimBlank e).startsWith m) = true) :
    ∃ c r, e.toList.dropWhile isBlank = c :: r ∧ IsMarkChar c := by
  obtain ⟨m, hm, hs⟩ := List.any_eq_true.1 h
  rw [String.startsWith_string_iff] at hs
  have hp := hs.trans (trimBlank_front e)
  simp only [Rule.shorthandMarks, List.mem_cons, List.not_mem_nil, or_false] at hm
  obtain ⟨t, ht⟩ := hp
  rcases hm with rfl | rfl | rfl | rfl
  · exact ⟨'<', t, by simpa using ht.symm, by simp [IsMarkChar]⟩
  · exact ⟨'>', t, by simpa using ht.symm, by simp [IsMarkChar]⟩
  · exact ⟨'=', t, by simpa using ht.symm, by simp [IsMarkChar]⟩
  · exact ⟨'!', '=' :: t, by simpa using ht.symm, by simp [IsMarkChar]⟩

/-- The operators that start with a shorthand mark are comparisons, `=` and `!`: none continues
  an expression after a name. -/
theorem operatorTable_marks : ∀ e ∈ operatorTable, (e.1.head? = some '<' ∨ e.1.head? = some '>' ∨
    e.1.head? = some '=' ∨ e.1.head? = some '!') → e.2 ≠ .dot ∧ e.2 ≠ .lbracket ∧ e.2 ≠ .lparen := by
  decide

/-- Each mark alone is an operator. -/
theorem operatorTable_mark_alone {c : Char} (hc : IsMarkChar c) : ∃ k, ([c], k) ∈ operatorTable := by
  rcases hc with rfl | rfl | rfl | rfl
  · exact ⟨.lt, by decide⟩
  · exact ⟨.gt, by decide⟩
  · exact ⟨.assign, by decide⟩
  · exact ⟨.not, by decide⟩

/-- A text that starts with a mark is scanned as an operator that does not continue an
  expression after a name, wherever the text stands. -/
theorem scanFrom_mark {c : Char} (hc : IsMarkChar c) (r : List Char) :
    ∃ (kv : TokenKind × Atom) (rest : List Char), kv.1 ≠ .dot ∧ kv.1 ≠ .lbracket ∧ kv.1 ≠ .lparen ∧
      ∀ cur acc, ∃ cur', scanFrom (c :: r) cur acc = scanFrom rest cur' (acc.push (cur.tokenAt kv)) := by
  have hb : isBlank c = false := by rcases hc with rfl | rfl | rfl | rfl <;> decide
  have hd : isDecimalDigit c = false := by rcases hc with rfl | rfl | rfl | rfl <;> decide
  have hq : ¬ (c = '"' ∨ c = '\'') := by rcases hc with rfl | rfl | rfl | rfl <;> decide
  have hn : isNameStart c = false := by rcases hc with rfl | rfl | rfl | rfl <;> decide
  have hspec := scanFront_operator hb hd hq hn (r := r)
  cases hsf : scanFront (c :: r) with
  | none =>
    -- the mark alone is a lexeme, so the scan finds one
    rw [hsf] at hspec
    obtain ⟨k, hk⟩ := operatorTable_mark_alone hc
    exact absurd (Lexeme.operator hk) (hspec [c] (List.prefix_cons_iff.2 (.inr ⟨[], rfl, List.nil_prefix⟩)))
  | some x =>
    obtain ⟨p, l, rest⟩ := x
    rw [hsf] at hspec
    obtain ⟨hl, heq, -⟩ := hspec
    obtain ⟨l', rfl, -⟩ := prefix_cons_of_ne_nil hl.isPrefix hl.lexeme.ne_nil
    obtain ⟨k, hk⟩ := hl.lexeme.of_other hd hq hn
    obtain ⟨hk₁, hk₂, hk₃⟩ := operatorTable_marks _ hk (by rcases hc with rfl | rfl | rfl | rfl <;> simp)
    have htok : (lexemeToken (c :: l')).1 = k := by simp [lexemeToken, Piece.ofLexeme_operator hk]
    refine ⟨lexemeToken (c :: l'), rest, htok ▸ hk₁, htok ▸ hk₂, htok ▸ hk₃,
      fun cur acc => ⟨{ cur with position := cur.position + (c :: l').length }, ?_⟩⟩
    · have hw : IntegerWithin (c :: l') := fun hall => by simp [hd] at hall
      rw [heq] at hl ⊢
      rw [scanFrom_lexeme hl, if_pos hw]

/-- After a blank, a text whose first character that is not blank is a mark is scanned as that
  mark's operator, wherever the text stands. -/
theorem scanFrom_blank_mark {e : List Char} {c : Char} {r : List Char}
    (he : e.dropWhile isBlank = c :: r) (hc : IsMarkChar c) :
    ∃ (kv : TokenKind × Atom) (rest : List Char), kv.1 ≠ .dot ∧ kv.1 ≠ .lbracket ∧ kv.1 ≠ .lparen ∧
      ∀ cur acc, ∃ cur' t, t.kv = kv ∧ scanFrom (' ' :: e) cur acc = scanFrom rest cur' (acc.push t) := by
  obtain ⟨kv, rest, hk₁, hk₂, hk₃, hscan⟩ := scanFrom_mark hc r
  refine ⟨kv, rest, hk₁, hk₂, hk₃, fun cur acc => ?_⟩
  have hsplit : ' ' :: e = (' ' :: e.takeWhile isBlank) ++ c :: r := by
    rw [List.cons_append, ← he, List.takeWhile_append_dropWhile]
  have hw : ∀ d ∈ ' ' :: e.takeWhile isBlank, isBlank d := by
    intro d hd
    rcases List.mem_cons.1 hd with rfl | hd
    · decide
    · exact List.mem_takeWhile_imp hd
  have hstop : ∀ d r', c :: r = d :: r' → isBlank d = false := by
    rintro d r' h
    obtain ⟨rfl, -⟩ := List.cons.inj h
    exact dropWhile_head_false he
  obtain ⟨cur', hcur'⟩ := hscan ((' ' :: e.takeWhile isBlank).foldl Cursor.passBlank cur) acc
  refine ⟨cur', ((' ' :: e.takeWhile isBlank).foldl Cursor.passBlank cur).tokenAt kv, rfl, ?_⟩
  rw [hsplit, scanFrom_blank hw (List.cons_ne_nil _ _) hstop, hcur']


/-- Tokens that continue no postfix expression: the next is no `.`, `[` or `(`. -/
def StopsPostfix (ts : Tokens) : Prop :=
  peekKind ts ≠ .dot ∧ peekKind ts ≠ .lbracket ∧ peekKind ts ≠ .lparen

/-- The token lists of two rule texts that differ only in the name they start with: each name's
  identifier token, then tokens of the same kinds and values that continue no postfix
  expression. -/
def LeadAlike (n₁ n₂ : String) (ts₁ ts₂ : Tokens) : Prop :=
  ∃ t₁ t₂ u₁ u₂, ts₁ = t₁ :: u₁ ∧ ts₂ = t₂ :: u₂ ∧ t₁.kv = (.identifier, .str n₁) ∧
    t₂.kv = (.identifier, .str n₂) ∧ u₁.map Token.kv = u₂.map Token.kv ∧ StopsPostfix u₁

/-- Merging `not in` keeps the kind of the first token or makes it `not in`. -/
theorem peekKind_pairNotIn (t : Token) (ts : List Token) :
    peekKind (pairNotIn (t :: ts)) = t.kind ∨ peekKind (pairNotIn (t :: ts)) = .notIn := by
  cases ts with
  | nil => exact .inl rfl
  | cons b r =>
    simp only [pairNotIn]
    split
    · exact .inr rfl
    · exact .inl rfl

/-- Tokenizing is the scan from the start, with `not in` merged. -/
theorem tokenize_eq_map (s : String) :
    tokenize s = (scanFrom s.toList ⟨0, 1, 0⟩ #[]).map fun ts => mergeNotIn ts.toList := by
  unfold tokenize
  cases scanFrom s.toList ⟨0, 1, 0⟩ #[] <;> rfl

/-- A plain name, a blank and the rest of a text: the name's token comes first, then the scan of
  the rest from some cursor. -/
theorem tokenize_name_blank {n : String} (hn : IsPlainName n) (e : String) :
    ∃ cur, tokenize (n ++ " " ++ e) =
      (scanFrom (' ' :: e.toList) cur (#[].push ((⟨0, 1, 0⟩ : Cursor).tokenAt (.identifier, .str n)))).map
        fun ts => mergeNotIn ts.toList := by
  have hl : (n ++ " " ++ e).toList = n.toList ++ ' ' :: e.toList := by simp
  have hblank : ∀ b r, ' ' :: e.toList = b :: r → isBlank b := by
    rintro b r ⟨⟩
    decide
  -- the cursor after the name is whatever the scan of the name leaves
  exact ⟨_, by
    rw [tokenize_eq_map, hl, scanFrom_lexeme (longestLexeme_of_blank hn.lexeme _ hblank), if_pos hn.within,
      hn.reads]⟩

/-- Two shorthand rule texts after two plain names lex alike: each name's token, then tokens of
  the same kinds and values that continue no postfix expression; or both fail for one reason. -/
theorem tokenize_shorthand {n₁ n₂ : String} (h₁ : IsPlainName n₁) (h₂ : IsPlainName n₂) {e : String}
    {c : Char} {r : List Char} (he : e.toList.dropWhile isBlank = c :: r) (hc : IsMarkChar c) :
    (∃ ts₁ ts₂, tokenize (n₁ ++ " " ++ e) = .ok ts₁ ∧ tokenize (n₂ ++ " " ++ e) = .ok ts₂ ∧
      LeadAlike n₁ n₂ ts₁ ts₂) ∨
    (∃ e₁ e₂, tokenize (n₁ ++ " " ++ e) = .error e₁ ∧ tokenize (n₂ ++ " " ++ e) = .error e₂ ∧
      e₁.SameIssue e₂) := by
  obtain ⟨kv, rest, hk₁, hk₂, hk₃, hscan⟩ := scanFrom_blank_mark he hc
  -- each text scans its name, then the mark, then the same characters `rest`
  have hstart : ∀ n, IsPlainName n → ∃ cur t, t.kv = kv ∧ tokenize (n ++ " " ++ e) =
      (scanFrom rest cur ((#[].push ((⟨0, 1, 0⟩ : Cursor).tokenAt (.identifier, .str n))).push t)).map
        fun ts => mergeNotIn ts.toList := by
    intro n hn
    obtain ⟨cur₀, hz⟩ := tokenize_name_blank hn e
    obtain ⟨cur, t, ht, hsc⟩ := hscan cur₀ _
    exact ⟨cur, t, ht, by rw [hz, hsc]⟩
  obtain ⟨cur₁, t₁, ht₁, hz₁⟩ := hstart n₁ h₁
  obtain ⟨cur₂, t₂, ht₂, hz₂⟩ := hstart n₂ h₂
  rw [hz₁, hz₂]
  rcases scanFrom_same rest cur₁ cur₂ _ _ with ⟨ts₁, ts₂, hs₁, hs₂, hts⟩ | ⟨e₁, e₂, hs₁, hs₂, hi⟩
  · left
    rw [hs₁, hs₂]
    refine ⟨_, _, rfl, rfl, ?_⟩
    simp only [mergeNotIn_eq_pairNotIn, Array.toList_append, List.push_toArray, List.nil_append,
      List.cons_append]
    rw [pairNotIn_cons_of_not (a := (⟨0, 1, 0⟩ : Cursor).tokenAt (.identifier, .str n₁)) rfl,
      pairNotIn_cons_of_not (a := (⟨0, 1, 0⟩ : Cursor).tokenAt (.identifier, .str n₂)) rfl]
    have hk : t₁.kind = kv.1 := congrArg Prod.fst ht₁
    refine ⟨_, _, _, _, rfl, rfl, rfl, rfl, pairNotIn_map_kv (by simp [ht₁, ht₂, hts]), ?_⟩
    unfold StopsPostfix
    rcases peekKind_pairNotIn t₁ ts₁.toList with h | h <;> rw [h]
    · rw [hk]
      exact ⟨hk₁, hk₂, hk₃⟩
    · exact ⟨nofun, nofun, nofun⟩
  · right
    rw [hs₁, hs₂]
    exact ⟨e₁, e₂, rfl, rfl, hi⟩


/-! ## Reading the rewritten rule -/

/-- Two expressions alike but for the name at their far left, `f` in the first and `x` in the
  second: the name itself, or the same operator with such left operands and the same right
  operand. -/
inductive LeftRenamed (f x : String) : Expr → Expr → Prop
  | var : LeftRenamed f x (.var f) (.var x)
  | binary {op : BinOp} {l₁ l₂ r : Expr} :
      LeftRenamed f x l₁ l₂ → LeftRenamed f x (.binary op l₁ r) (.binary op l₂ r)

/-- Two statements that evaluate expressions alike but for the name at their far left. -/
def StatementRenamed (f x : String) (s₁ s₂ : Statement) : Prop :=
  ∃ e₁ e₂, LeftRenamed f x e₁ e₂ ∧ s₁ = .eval e₁ ∧ s₂ = .eval e₂

section Reading

variable (p₁ p₂ : Nat) {n₁ n₂ : String}

/-- A name that continues no postfix expression is read as its variable. -/
theorem parseLevel_five_name {p : Nat} {n : String} {t : Token} {u : Tokens}
    (ht : t.kv = (.identifier, .str n)) (hu : StopsPostfix u) :
    parseLevel p 5 (t :: u) = .ok (.var n, u) := by
  have hk : t.kind = .identifier := congrArg Prod.fst ht
  have hv : t.value = .str n := congrArg Prod.snd ht
  rw [parseLevel_five, parseUnary_of_primary (by rw [hk]; decide) (by rw [hk]; decide),
    parsePostfix_of (parsePrimary_identifier hk u) (by simp), hv]
  cases u with
  | nil => exact parsePostfixRest_nil _
  | cons t' u' => exact parsePostfixRest_stop hu.1 hu.2.1 hu.2.2 _ _

/-- Each precedence level reads two token lists that differ only in the name they start with as
  expressions alike but for the name at their far left. The induction climbs from the unary
  level 5, where the name is read, down to the level asked for; each level's operators come from
  `parseLevelRest_same`. -/
theorem parseLevel_lead (j : Nat) (hj : j ≤ 5) {ts₁ ts₂ : Tokens} (hL : LeadAlike n₁ n₂ ts₁ ts₂) :
    SameReading (LeftRenamed n₁ n₂) (parseLevel p₁ j ts₁) (parseLevel p₂ j ts₂) := by
  by_cases h5 : j = 5
  · subst h5
    obtain ⟨t₁, t₂, u₁, u₂, rfl, rfl, ht₁, ht₂, hu, hs⟩ := hL
    have hs₂ : StopsPostfix u₂ := by rwa [StopsPostfix, ← peekKind_of_kv hu]
    rw [parseLevel_five_name ht₁ hs, parseLevel_five_name ht₂ hs₂]
    exact .ok .var hu
  · have hlt : j < 5 := by omega
    rw [parseLevel.eq_def p₁ j ts₁, parseLevel.eq_def p₂ j ts₂, dif_pos hlt, dif_pos hlt]
    have hts : ts₁.length = ts₂.length := by
      obtain ⟨t₁, t₂, u₁, u₂, rfl, rfl, -, -, hu, -⟩ := hL
      simp [length_eq_of_kv hu]
    rcases parseLevel_lead (j + 1) (by omega) hL with
      ⟨a₁, a₂, s₁, s₂, h₁, h₂, ha, hs⟩ | ⟨e₁, e₂, h₁, h₂, hi⟩
    · simp only [h₁, h₂]
      have hlen := length_eq_of_kv hs
      by_cases hlt' : s₁.length < ts₁.length
      · rw [dif_pos hlt', dif_pos (by omega)]
        exact parseLevelRest_same p₁ p₂ (fun _ _ _ _ h => .binary h) j a₁ a₂ ha s₁ s₂ hs
      · rw [dif_neg hlt', dif_neg (by omega)]
        exact .error (unexpectedAt_issue hs p₁ p₂)
    · simp only [h₁, h₂]
      exact .error hi
termination_by 5 - j

/-- The first statement of two such token lists is an expression statement, read alike but for
  the name at its far left. -/
theorem parseStatement_lead {ts₁ ts₂ : Tokens} (hL : LeadAlike n₁ n₂ ts₁ ts₂) :
    SameReading (StatementRenamed n₁ n₂) (parseStatement p₁ ts₁) (parseStatement p₂ ts₂) := by
  have hread := parseLevel_lead p₁ p₂ 0 (by omega) hL
  obtain ⟨t₁, t₂, u₁, u₂, rfl, rfl, ht₁, ht₂, -, -⟩ := hL
  have hk₁ : t₁.kind = .identifier := congrArg Prod.fst ht₁
  have hk₂ : t₂.kind = .identifier := congrArg Prod.fst ht₂
  rw [parseStatement.eq_def p₁, parseStatement.eq_def p₂]
  simp only [hk₁, hk₂, reduceCtorEq, beq_iff_eq, if_false]
  rcases hread with ⟨a₁, a₂, s₁, s₂, h₁, h₂, ha, hs⟩ | ⟨e₁, e₂, h₁, h₂, hi⟩
  · simp only [h₁, h₂]
    exact .ok ⟨a₁, a₂, ha, rfl, rfl⟩ hs
  · simp only [h₁, h₂]
    exact .error hi

end Reading

/-- A shorthand rule after two plain names reads alike: programs whose first statements evaluate
  expressions alike but for the name at their far left and whose other statements are the same,
  or failures for one reason. -/
theorem parse_shorthand {n₁ n₂ : String} (h₁ : IsPlainName n₁) (h₂ : IsPlainName n₂) {e : String}
    {c : Char} {r : List Char} (he : e.toList.dropWhile isBlank = c :: r) (hc : IsMarkChar c) :
    ProgramsAlike SyntaxError.SameIssue (StatementRenamed n₁ n₂)
      (parse (n₁ ++ " " ++ e)) (parse (n₂ ++ " " ++ e)) := by
  unfold parse
  rcases tokenize_shorthand h₁ h₂ he hc with ⟨ts₁, ts₂, hz₁, hz₂, hL⟩ | ⟨e₁, e₂, hz₁, hz₂, hi⟩
  · rw [hz₁, hz₂]
    have hk : peekKind ts₁ = peekKind ts₂ := by
      obtain ⟨t₁, t₂, u₁, u₂, rfl, rfl, ht₁, ht₂, -, -⟩ := hL
      exact (congrArg Prod.fst ht₁).trans (congrArg Prod.fst ht₂).symm
    rcases parseTokens_of_first (n₁ ++ " " ++ e).length (n₂ ++ " " ++ e).length hk
      (parseStatement_lead _ _ hL) with
      ⟨s₁, s₂, more, hR, hp₁, hp₂⟩ | ⟨e₁, e₂, hp₁, hp₂, hi⟩
    · simp only [hp₁, hp₂]
      exact .inl ⟨s₁, s₂, more, hR, rfl, rfl⟩
    · simp only [hp₁, hp₂]
      exact .inr ⟨.parse e₁, .parse e₂, rfl, rfl, hi⟩
  · rw [hz₁, hz₂]
    exact .inr ⟨.lex e₁, .lex e₂, rfl, rfl, hi⟩


/-! ## Running the rewritten rule -/

section Running

variable {f x : String} {store : Store} {sc₁ sc₂ : Scope} {clock : Int}

/-- Expressions alike but for the name at their far left take the same value, or fail alike,
  in scopes that give the second name the first one's value and agree on every name the first
  expression reads. -/
theorem eval_leftRenamed {e₁ e₂ : Expr} (h : LeftRenamed f x e₁ e₂) (hx : sc₂.get x = sc₁.get f)
    (hn : ∀ n ∈ e₁.names, sc₁.get n = sc₂.get n) :
    Env.eval ⟨store, sc₁, clock⟩ e₁ = Env.eval ⟨store, sc₂, clock⟩ e₂ := by
  induction h with
  | var => simp [Env.eval, hx]
  | @binary op l₁ l₂ r hl ih =>
    have hl' := ih (fun n h => hn n (by simp [Expr.names, h]))
    have hr : Env.eval ⟨store, sc₁, clock⟩ r = Env.eval ⟨store, sc₂, clock⟩ r :=
      Env.eval_congr r (fun n h => hn n (by simp [Expr.names, h])) (fun _ => rfl)
    cases op <;> simp only [Env.eval, Env.truth, hl', hr]

/-- Programs whose first statements evaluate expressions alike but for the name at their far
  left, and whose other statements are the same, end with the same store and the same value or
  error, in such scopes. -/
theorem runStatements_renamed {s₁ s₂ : Statement} (h : StatementRenamed f x s₁ s₂)
    (hx : sc₂.get x = sc₁.get f) (more : List Statement)
    (hn : ∀ n ∈ freeNamesOf (s₁ :: more), sc₁.get n = sc₂.get n) (last : Value) :
    (runStatements clock store sc₁ (s₁ :: more) last).1 =
        (runStatements clock store sc₂ (s₂ :: more) last).1 ∧
      (runStatements clock store sc₁ (s₁ :: more) last).2.2 =
        (runStatements clock store sc₂ (s₂ :: more) last).2.2 := by
  obtain ⟨e₁, e₂, he, rfl, rfl⟩ := h
  have heval : Env.eval ⟨store, sc₁, clock⟩ e₁ = Env.eval ⟨store, sc₂, clock⟩ e₂ :=
    eval_leftRenamed he hx (fun n h => hn n (by simp [freeNamesOf, h]))
  simp only [runStatements, heval]
  split
  · exact ⟨rfl, rfl⟩
  · exact runStatements_congr clock clock more _ _ _ _
      (fun n h => hn n (by simp [freeNamesOf, h])) (fun _ => rfl)

end Running

/-- Binding a second name to the value a name holds keeps the store and sets only that name. -/
theorem Session.bind_lookup (ss : Session) (f x : String) (v : Value) :
    (ss.bind f v).bind x ((ss.bind f v).lookup f) =
      ⟨(ss.bind f v).store, (ss.bind f v).scope.set x ((ss.bind f v).scope.get f), ss.clock⟩ := by
  simp only [Session.bind, Session.lookup, Scope.get_set, if_true]
  rw [Store.withIdentity_idem]


/-! ## What a check comes to -/

/-- What checking or evaluating a rule comes to, leaving aside where in the rule text an error
  stands: a verdict, a rule text that does not read, a failure while the rule runs with the
  evaluator's message, a host failure let through, or another error of the checker. -/
inductive Outcome where
  | verdict (b : Bool)
  | unreadable
  | failed (message : String)
  | fault (f : Fault)
  | refused (e : Rule.CheckError)

/-- The outcome of an expression check. -/
def Outcome.ofCheck : Except Rule.CheckError Bool → Outcome
  | .ok b => .verdict b
  | .error (.script .compile _ _ _) => .unreadable
  | .error (.script .execute _ _ m) => .failed m
  | .error (.host f) => .fault f
  | .error e => .refused e

/-- The outcome of evaluating rule text in a session: the truth of its value in the store the
  run leaves, an integer too long to read failing as the host's conversion does. -/
def Outcome.ofEvaluation : Session × Except RunError Value → Outcome
  | (ss, .ok v) =>
    match ss.store.truth v with
    | .ok b => .verdict b
    | .error f => .fault f
  | (_, .error (.unreadable (.lex (.integerTooLong n)))) =>
    .fault (.valueError (LexError.integerTooLong n).message)
  | (_, .error (.unreadable _)) => .unreadable
  | (_, .error (.eval e)) => .failed e.message

/-- Checking a rule on a value with no mapper for its type comes to what evaluating the rule
  comes to in the session with the field bound to the value. -/
theorem check_outcome (c : Rule.ExprChecker) (name : String) (v : Value) (expr : String)
    (hmap : c.mappers.lookup (Rule.TypeKey.of (c.session.store.resolve v)) = none)
    (hcache : Rule.CacheCoherent parse c.scripts) :
    Outcome.ofCheck (c.check name v expr).2 = Outcome.ofEvaluation ((c.session.bind name v).evaluate expr) := by
  have hprep : c.prepare v = (c, .ok v) := by
    unfold Rule.ExprChecker.prepare
    simp only [hmap]
  obtain ⟨hcomp, -, hsess, -⟩ :=
    Rule.ExprChecker.compileRule_of_coherent (c := { c with session := c.session.bind name v }) hcache expr
  unfold Rule.ExprChecker.check
  rw [hprep]
  dsimp only
  rw [show Rule.ExprChecker.compileRule { c with session := c.session.bind name v } expr =
    ((Rule.ExprChecker.compileRule { c with session := c.session.bind name v } expr).1, parse expr)
    from Prod.ext rfl hcomp]
  unfold Session.evaluate
  generalize (Rule.ExprChecker.compileRule { c with session := c.session.bind name v } expr).1 = c' at hsess ⊢
  cases parse expr with
  | error err =>
    -- a text that does not read: an integer too long fails as the host does, the rest as unreadable
    rcases err with (_ | n) | _ <;> rfl
  | ok p =>
    dsimp only
    rw [hsess]
    obtain ⟨ss', r⟩ := (c.session.bind name v).run p
    rcases r with _ | w
    · rfl
    · dsimp only [Outcome.ofEvaluation, Except.mapError]
      cases ss'.store.truth w <;> rfl


/-- Two failures to read for one reason come to one outcome. -/
theorem Outcome.ofEvaluation_unreadable {e₁ e₂ : SyntaxError} (h : e₁.SameIssue e₂) (ss₁ ss₂ : Session) :
    Outcome.ofEvaluation (ss₁, .error (.unreadable e₁)) = Outcome.ofEvaluation (ss₂, .error (.unreadable e₂)) := by
  rcases e₁ with (_ | n₁) | _ <;> rcases e₂ with (_ | n₂) | _ <;>
    simp only [SyntaxError.SameIssue, LexError.SameIssue] at h
  all_goals first | rfl | (subst h; rfl)

/-- Two runs that end with the same store and the same value or error come to one outcome,
  whatever scopes they leave. -/
theorem Outcome.ofEvaluation_run {ss₁ ss₂ : Session} {p₁ p₂ : Program}
    (hs : (p₁.run ss₁.store ss₁.clock ss₁.scope).1 = (p₂.run ss₂.store ss₂.clock ss₂.scope).1)
    (hr : (p₁.run ss₁.store ss₁.clock ss₁.scope).2.2 = (p₂.run ss₂.store ss₂.clock ss₂.scope).2.2) :
    Outcome.ofEvaluation (let (ss', r) := ss₁.run p₁; (ss', r.mapError .eval)) =
      Outcome.ofEvaluation (let (ss', r) := ss₂.run p₂; (ss', r.mapError .eval)) := by
  simp only [Session.run]
  generalize p₁.run ss₁.store ss₁.clock ss₁.scope = R₁ at hs hr ⊢
  generalize p₂.run ss₂.store ss₂.clock ss₂.scope = R₂ at hs hr ⊢
  obtain ⟨st₁, sc₁, r₁⟩ := R₁
  obtain ⟨st₂, sc₂, r₂⟩ := R₂
  dsimp only at hs hr ⊢
  subst hs hr
  rcases r₁ with _ | w <;> rfl

/-- A shorthand rule after a plain name comes to what it comes to after another plain name that
  the rule does not read and that holds the first name's value. -/
theorem evaluate_shorthand (ss : Session) {f x : String} (hf : IsPlainName f) (hx : IsPlainName x)
    {e : String} (hmark : Rule.shorthandMarks.any (fun m => (trimBlank e).startsWith m) = true)
    (hfresh : ∀ p, parse (f ++ " " ++ e) = .ok p → x ∉ p.freeNames) :
    Outcome.ofEvaluation (ss.evaluate (f ++ " " ++ e)) =
      Outcome.ofEvaluation ((⟨ss.store, ss.scope.set x (ss.scope.get f), ss.clock⟩ : Session).evaluate
        (x ++ " " ++ e)) := by
  obtain ⟨ch, r, he, hc⟩ := shorthand_head hmark
  unfold Session.evaluate
  rcases parse_shorthand hf hx he hc with ⟨s₁, s₂, more, hR, hp₁, hp₂⟩ | ⟨e₁, e₂, hp₁, hp₂, hi⟩
  · rw [hp₁, hp₂]
    dsimp only
    -- the second scope gives `x` the value of `f` and agrees with the first on all the rule reads
    have hxv : (ss.scope.set x (ss.scope.get f)).get x = ss.scope.get f := by
      rw [Scope.get_set, if_pos rfl]
    have hn : ∀ n ∈ freeNamesOf (s₁ :: more), ss.scope.get n = (ss.scope.set x (ss.scope.get f)).get n := by
      intro n hn
      rw [Scope.get_set, if_neg]
      rintro rfl
      exact hfresh _ hp₁ hn
    obtain ⟨hst, hres⟩ :=
      @runStatements_renamed f x ss.store ss.scope _ ss.clock s₁ s₂ hR hxv more hn .none
    exact @Outcome.ofEvaluation_run ss ⟨ss.store, ss.scope.set x (ss.scope.get f), ss.clock⟩
      ⟨s₁ :: more⟩ ⟨s₂ :: more⟩ hst hres
  · rw [hp₁, hp₂]
    exact Outcome.ofEvaluation_unreadable hi _ _


/-- A shorthand rule is the field's name, a blank and the rule. -/
theorem rewriteShorthand_of_mark {f e : String}
    (hmark : Rule.shorthandMarks.any (fun m => (trimBlank e).startsWith m) = true) :
    Rule.rewriteShorthand f e = f ++ " " ++ e := by
  unfold Rule.rewriteShorthand
  dsimp only
  rw [if_pos hmark]

/-- A shorthand rule sees its own field: checking a rule that starts with `<`, `>`, `=` or `!=`
  on a field with a plain name, for a value with no mapper for its type, comes to what
  evaluating the rule after another plain name comes to, in the session with the field bound and
  that name bound to the very value the field holds, provided the rule reads no such name of
  its own. The verdicts agree, and so do the failures, but for where in the text they stand. -/
theorem shorthand_sees_field_value (c : Rule.ExprChecker) {f x : String} (hf : IsPlainName f)
    (hx : IsPlainName x) (v : Value) {e : String}
    (hmark : Rule.shorthandMarks.any (fun m => (trimBlank e).startsWith m) = true)
    (hfresh : ∀ p, parse (f ++ " " ++ e) = .ok p → x ∉ p.freeNames)
    (hmap : c.mappers.lookup (Rule.TypeKey.of (c.session.store.resolve v)) = none)
    (hcache : Rule.CacheCoherent parse c.scripts) :
    Outcome.ofCheck (c.check f v (Rule.rewriteShorthand f e)).2 =
      Outcome.ofEvaluation
        (((c.session.bind f v).bind x ((c.session.bind f v).lookup f)).evaluate (x ++ " " ++ e)) := by
  rw [rewriteShorthand_of_mark hmark, check_outcome c f v _ hmap hcache, Session.bind_lookup,
    evaluate_shorthand _ hf hx hmark hfresh]
  rfl

theorem shorthand_mark_sample : Rule.shorthandMarks.any (fun m => (trimBlank "> 5").startsWith m) = true := by
  have h : (trimBlank "> 5").toList = ['>', ' ', '5'] := by
    rw [trimBlank, String.toList_ofList]
    decide +kernel
  simp [Rule.shorthandMarks, String.startsWith_string_iff, h]

/-- The rule `> 5` on a field `A` holding 6, checked from the start, sees the field. -/
theorem shorthand_sees_field_value_sample :
    Outcome.ofCheck ((Rule.ExprChecker.start {} 0).check "A" (.int 6) (Rule.rewriteShorthand "A" "> 5")).2 =
      Outcome.ofEvaluation ((((Rule.ExprChecker.start {} 0).session.bind "A" (.int 6)).bind "x"
        (((Rule.ExprChecker.start {} 0).session.bind "A" (.int 6)).lookup "A")).evaluate ("x" ++ " " ++ "> 5")) :=
  shorthand_sees_field_value _ (by decide) (by decide) _ shorthand_mark_sample
    (by
      intro p hp
      have hpr : Program.Printable ⟨[.eval (.binary .gt (.var "A") (.lit (.int 5)))]⟩ :=
        ⟨by simp, by simpa using .binary (.var (by decide)) (.lit ⟨by decide, by decide⟩)⟩
      rw [show "A" ++ " " ++ "> 5" = Program.print ⟨[.eval (.binary .gt (.var "A") (.lit (.int 5)))]⟩
        by decide, parse_print hpr] at hp
      cases hp
      decide)
    rfl .nil

/-- A field named like a keyword does not see itself: on a field `null` holding 10, the rule
  `> 5` reads `null > 5` and fails, while `x > 5` with `x` holding the field's value holds. -/
theorem shorthand_keyword_field_misreads :
    Outcome.ofCheck ((Rule.ExprChecker.start {} 0).check "null" (.int 10)
        (Rule.rewriteShorthand "null" "> 5")).2 = .verdict false ∧
      Outcome.ofEvaluation ((((Rule.ExprChecker.start {} 0).session.bind "null" (.int 10)).bind "x"
        (((Rule.ExprChecker.start {} 0).session.bind "null" (.int 10)).lookup "null")).evaluate
          ("x" ++ " " ++ "> 5")) = .verdict true := by
  have hnull : Program.Printable ⟨[.eval (.binary .gt (.lit .null) (.lit (.int 5)))]⟩ :=
    ⟨by simp, by simpa using .binary (.lit trivial) (.lit ⟨by decide, by decide⟩)⟩
  have hx : Program.Printable ⟨[.eval (.binary .gt (.var "x") (.lit (.int 5)))]⟩ :=
    ⟨by simp, by simpa using .binary (.var (by decide)) (.lit ⟨by decide, by decide⟩)⟩
  rw [rewriteShorthand_of_mark shorthand_mark_sample, check_outcome _ _ _ _ rfl .nil]
  unfold Session.evaluate
  rw [show "null" ++ " " ++ "> 5" = Program.print ⟨[.eval (.binary .gt (.lit .null) (.lit (.int 5)))]⟩
      by decide, parse_print hnull,
    show "x" ++ " " ++ "> 5" = Program.print ⟨[.eval (.binary .gt (.var "x") (.lit (.int 5)))]⟩
      by decide, parse_print hx]
  exact ⟨rfl, rfl⟩

end FieldRules.Lang
