import FieldRules.Proofs.Print

/-! # The reader, one step at a time

One equation for each way a reader function of the recursive descent can go on a given next
token (`parseLevel_of_lt`, `parseLevelRest_op`, `parsePrimary_array`, ...), each with the reads
below it and the length side condition of the definition as hypotheses; then where the reader
of one precedence level stops (`Ends`, `parseLevel_lift`), and how a printed expression starts
(`Expr.toks_head`). The round trip of printing and reading is assembled from these. -/

namespace FieldRules.Lang

/-! ## One step of each reader -/

section Steps

variable {endPos : Nat}

theorem parseLevel_five (ts : Tokens) : parseLevel endPos 5 ts = parseUnary endPos ts := by
  rw [parseLevel.eq_def]; simp

theorem parseLevel_of_lt {j : Nat} (hj : j < 5) {ts rest : Tokens} {e : Expr}
    (h : parseLevel endPos (j + 1) ts = .ok (e, rest)) (hlen : rest.length < ts.length) :
    parseLevel endPos j ts = parseLevelRest endPos j e rest := by
  rw [parseLevel.eq_def]; simp [hj, h, hlen]

theorem parseLevelRest_nil (j : Nat) (e : Expr) : parseLevelRest endPos j e [] = .ok (e, []) := by
  rw [parseLevelRest.eq_def]

theorem parseLevelRest_stop {j : Nat} {t : Token} (ht : binOpAt j t.kind = none) (e : Expr)
    (rest : Tokens) : parseLevelRest endPos j e (t :: rest) = .ok (e, t :: rest) := by
  rw [parseLevelRest.eq_def]; simp [ht]

theorem parseLevelRest_op {j : Nat} {t : Token} {op : BinOp} (ht : binOpAt j t.kind = some op)
    {rest rest' : Tokens} {r : Expr} (hr : parseLevel endPos (j + 1) rest = .ok (r, rest'))
    (hlen : rest'.length ≤ rest.length) (l : Expr) :
    parseLevelRest endPos j l (t :: rest) = parseLevelRest endPos j (.binary op l r) rest' := by
  rw [parseLevelRest.eq_def]; simp [ht, hr, hlen]

theorem parseUnary_op {t : Token} {op : UnOp} (ht : t.kind = op.kind) {rest rest' : Tokens}
    {a : Expr} (ha : parseUnary endPos rest = .ok (a, rest')) :
    parseUnary endPos (t :: rest) = .ok (.unary op a, rest') := by
  rw [parseUnary.eq_def]
  cases op <;> simp [UnOp.kind] at ht <;> simp [ht, ha]

theorem parseUnary_of_primary {t : Token} (h1 : t.kind ≠ .not) (h2 : t.kind ≠ .minus) (rest : Tokens) :
    parseUnary endPos (t :: rest) = parsePostfix endPos (t :: rest) := by
  rw [parseUnary.eq_def]; simp [h1, h2]

theorem parsePostfix_of {ts rest : Tokens} {e : Expr} (h : parsePrimary endPos ts = .ok (e, rest))
    (hlen : rest.length < ts.length) : parsePostfix endPos ts = parsePostfixRest endPos e rest := by
  rw [parsePostfix.eq_def]; simp [h, hlen]

theorem parsePostfixRest_nil (e : Expr) : parsePostfixRest endPos e [] = .ok (e, []) := by
  rw [parsePostfixRest.eq_def]

theorem parsePostfixRest_stop {t : Token} (h1 : t.kind ≠ .dot) (h2 : t.kind ≠ .lbracket)
    (h3 : t.kind ≠ .lparen) (e : Expr) (rest : Tokens) :
    parsePostfixRest endPos e (t :: rest) = .ok (e, t :: rest) := by
  rw [parsePostfixRest.eq_def]
  simp only

theorem parsePostfixRest_member {d m : Token} (hd : d.kind = .dot) (hm : m.kind = .identifier)
    (e : Expr) (rest : Tokens) :
    parsePostfixRest endPos e (d :: m :: rest) =
      parsePostfixRest endPos (.member e (keyText m.value)) rest := by
  rw [parsePostfixRest.eq_def]; simp [hd, hm]

theorem parsePostfixRest_index {b c : Token} (hb : b.kind = .lbracket) (hc : c.kind = .rbracket)
    {rest rest' : Tokens} {k : Expr} (hk : parseLevel endPos 0 rest = .ok (k, c :: rest'))
    (hlen : rest'.length ≤ rest.length) (e : Expr) :
    parsePostfixRest endPos e (b :: rest) = parsePostfixRest endPos (.index e k) rest' := by
  rw [parsePostfixRest.eq_def]; simp [hb, hc, hk, hlen]

theorem parsePostfixRest_call {p : Token} (hp : p.kind = .lparen) {rest rest' : Tokens}
    {args : List Expr} (ha : parseItems endPos .rparen rest = .ok (args, rest'))
    (hlen : rest'.length ≤ rest.length) (fn : String) :
    parsePostfixRest endPos (.var fn) (p :: rest) = parsePostfixRest endPos (.call fn args) rest' := by
  rw [parsePostfixRest.eq_def]; simp [hp, ha, hlen]

theorem parsePrimary_literal {t : Token}
    (ht : t.kind = .number ∨ t.kind = .string ∨ t.kind = .boolean ∨ t.kind = .null) (rest : Tokens) :
    parsePrimary endPos (t :: rest) = .ok (.lit (literalOf t), rest) := by
  rw [parsePrimary.eq_def]
  rcases ht with h | h | h | h <;> simp [h]

theorem parsePrimary_identifier {t : Token} (ht : t.kind = .identifier) (rest : Tokens) :
    parsePrimary endPos (t :: rest) = .ok (.var (keyText t.value), rest) := by
  rw [parsePrimary.eq_def]; simp [ht]

theorem parsePrimary_paren {p c : Token} (hp : p.kind = .lparen) (hc : c.kind = .rparen)
    {rest rest' : Tokens} {e : Expr} (he : parseLevel endPos 0 rest = .ok (e, c :: rest')) :
    parsePrimary endPos (p :: rest) = .ok (e, rest') := by
  rw [parsePrimary.eq_def]; simp [hp, hc, he]

theorem parsePrimary_array {b : Token} (hb : b.kind = .lbracket) {rest rest' : Tokens}
    {items : List Expr} (hi : parseItems endPos .rbracket rest = .ok (items, rest')) :
    parsePrimary endPos (b :: rest) = .ok (.array items, rest') := by
  rw [parsePrimary.eq_def]; simp [hb, hi]

theorem parsePrimary_object {b : Token} (hb : b.kind = .lbrace) {rest rest' : Tokens}
    {entries : List (String × Expr)} (hi : parsePairs endPos rest = .ok (entries, rest')) :
    parsePrimary endPos (b :: rest) = .ok (.object entries, rest') := by
  rw [parsePrimary.eq_def]; simp [hb, hi]

theorem parseItems_close {t : Token} {closing : TokenKind} (ht : t.kind = closing) (rest : Tokens) :
    parseItems endPos closing (t :: rest) = .ok ([], rest) := by
  rw [parseItems.eq_def]; simp [ht]

theorem parseItems_first {t : Token} {closing : TokenKind} (ht : t.kind ≠ closing) {rest rest' : Tokens}
    {a : Expr} (ha : parseLevel endPos 0 (t :: rest) = .ok (a, rest'))
    (hlen : rest'.length ≤ rest.length) :
    parseItems endPos closing (t :: rest) = parseItemsRest endPos closing [a] rest' := by
  rw [parseItems.eq_def]; simp [ht, ha]; omega

theorem parseItemsRest_comma {t : Token} {closing : TokenKind} (ht : t.kind = .comma)
    {rest rest' : Tokens} {a : Expr} (ha : parseLevel endPos 0 rest = .ok (a, rest'))
    (hlen : rest'.length ≤ rest.length) (acc : List Expr) :
    parseItemsRest endPos closing acc (t :: rest) = parseItemsRest endPos closing (acc ++ [a]) rest' := by
  rw [parseItemsRest.eq_def]; simp [ht, ha, hlen]

theorem parseItemsRest_close {t : Token} {closing : TokenKind} (ht : t.kind = closing)
    (hc : closing ≠ .comma) (acc : List Expr) (rest : Tokens) :
    parseItemsRest endPos closing acc (t :: rest) = .ok (acc, rest) := by
  rw [parseItemsRest.eq_def]; simp [ht, hc]

theorem parsePair_of {t c : Token} (ht : t.kind = .string) (hc : c.kind = .colon)
    {rest rest' : Tokens} {v : Expr} (hv : parseLevel endPos 0 rest = .ok (v, rest')) :
    parsePair endPos (t :: c :: rest) = .ok ((keyText t.value, v), rest') := by
  rw [parsePair.eq_def]; simp [ht, hc, hv]

theorem parsePairs_close {t : Token} (ht : t.kind = .rbrace) (rest : Tokens) :
    parsePairs endPos (t :: rest) = .ok ([], rest) := by
  rw [parsePairs.eq_def]; simp [ht]

theorem parsePairs_first {t : Token} (ht : t.kind ≠ .rbrace) {rest rest' : Tokens} {k : String}
    {v : Expr} (hp : parsePair endPos (t :: rest) = .ok ((k, v), rest'))
    (hlen : rest'.length ≤ rest.length) :
    parsePairs endPos (t :: rest) = parsePairsRest endPos (putEntry [] k v) rest' := by
  rw [parsePairs.eq_def]; simp [ht, hp]; omega

theorem parsePairsRest_comma {t : Token} (ht : t.kind = .comma) {rest rest' : Tokens} {k : String}
    {v : Expr} (hp : parsePair endPos rest = .ok ((k, v), rest')) (hlen : rest'.length ≤ rest.length)
    (acc : List (String × Expr)) :
    parsePairsRest endPos acc (t :: rest) = parsePairsRest endPos (putEntry acc k v) rest' := by
  rw [parsePairsRest.eq_def]; simp [ht, hp, hlen]

theorem parsePairsRest_close {t : Token} (ht : t.kind = .rbrace) (acc : List (String × Expr))
    (rest : Tokens) : parsePairsRest endPos acc (t :: rest) = .ok (acc, rest) := by
  rw [parsePairsRest.eq_def]; simp [ht]

theorem parseStatement_bind {l n a : Token} (hl : l.kind = .letKw) (hn : n.kind = .identifier)
    (ha : a.kind = .assign) {rest rest' : Tokens} {v : Expr}
    (hv : parseLevel endPos 0 rest = .ok (v, rest')) :
    parseStatement endPos (l :: n :: a :: rest) = .ok (.bind (keyText n.value) v, rest') := by
  simp [parseStatement, hl, hn, ha, hv]

theorem parseStatement_eval {t : Token} (ht : t.kind ≠ .letKw) {rest rest' : Tokens} {e : Expr}
    (he : parseLevel endPos 0 (t :: rest) = .ok (e, rest')) :
    parseStatement endPos (t :: rest) = .ok (.eval e, rest') := by
  simp [parseStatement, ht, he]

theorem parseMoreStatements_next {t : Token} (ht : t.kind = .semicolon) {rest rest' : Tokens}
    (hne : peekKind rest ≠ .eof) {s : Statement} (hs : parseStatement endPos rest = .ok (s, rest'))
    (hlen : rest'.length ≤ rest.length) (acc : List Statement) :
    parseMoreStatements endPos acc (t :: rest) = parseMoreStatements endPos (acc ++ [s]) rest' := by
  rw [parseMoreStatements.eq_def]; simp [ht, hne, hs, hlen]

theorem parseMoreStatements_stop {t : Token} (ht : t.kind ≠ .semicolon) (acc : List Statement)
    (rest : Tokens) : parseMoreStatements endPos acc (t :: rest) = .ok (acc, t :: rest) := by
  rw [parseMoreStatements.eq_def]; simp [ht]

theorem parseTokens_of {ts rest rest' : Tokens} (hne : peekKind ts ≠ .eof) {s : Statement}
    (hs : parseStatement endPos ts = .ok (s, rest)) {stmts : List Statement}
    (hm : parseMoreStatements endPos [s] rest = .ok (stmts, rest')) (hend : peekKind rest' = .eof) :
    parseTokens endPos ts = .ok ⟨stmts⟩ := by
  simp [parseTokens, hne, hs, hm, hend]

end Steps


/-! ## Where a level stops -/

/-- The kinds that end any expression: closing brackets and separators. -/
def closerKind : TokenKind → Bool
  | .comma | .colon | .rparen | .rbracket | .rbrace | .semicolon | .eof => true
  | _ => false

/-- The kinds a printed expression can start with. -/
def startsExpr : TokenKind → Bool
  | .number | .string | .boolean | .null | .identifier | .lparen | .lbracket | .lbrace
  | .not | .minus => true
  | _ => false

/-- The kinds a printed postfix expression can start with: no unary operator. -/
def startsPrimary : TokenKind → Bool
  | .number | .string | .boolean | .null | .identifier | .lparen | .lbracket | .lbrace => true
  | _ => false

theorem binOpAt_of_closer {k : TokenKind} (hk : closerKind k) (j : Nat) : binOpAt j k = none := by
  cases k <;> simp_all [closerKind, binOpAt]

theorem binOpAt_of_five_le {j : Nat} (hj : 5 ≤ j) (k : TokenKind) : binOpAt j k = none := by
  unfold binOpAt
  split <;> first | rfl | omega

/-- Where the reader of level `j` stops after an operand: at the end, or at a token that starts
  no operator of a higher level and no postfix operator. -/
def Ends (j : Nat) : Tokens → Prop
  | [] => True
  | t :: _ => t.kind ≠ .dot ∧ t.kind ≠ .lbracket ∧ t.kind ≠ .lparen ∧
      ∀ k, j < k → binOpAt k t.kind = none

theorem Ends.mono {j j' : Nat} (h : j ≤ j') : ∀ {rest : Tokens}, Ends j rest → Ends j' rest
  | [], _ => trivial
  | _ :: _, ⟨h1, h2, h3, h4⟩ => ⟨h1, h2, h3, fun k hk => h4 k (by omega)⟩

theorem Ends.of_closer {t : Token} (ht : closerKind t.kind) (j : Nat) (rest : Tokens) :
    Ends j (t :: rest) := by
  refine ⟨?_, ?_, ?_, fun k _ => binOpAt_of_closer ht k⟩ <;> intro h <;> simp [h, closerKind] at ht

section Stops

variable {endPos : Nat}

theorem parseLevelRest_ends {j k : Nat} {rest : Tokens} (h : Ends j rest) (hk : j < k) (e : Expr) :
    parseLevelRest endPos k e rest = .ok (e, rest) := by
  cases rest with
  | nil => exact parseLevelRest_nil k e
  | cons t rest => exact parseLevelRest_stop (h.2.2.2 k hk) e rest

theorem parseLevelRest_closer {t : Token} (ht : closerKind t.kind) (j : Nat) (e : Expr) (rest : Tokens) :
    parseLevelRest endPos j e (t :: rest) = .ok (e, t :: rest) :=
  parseLevelRest_stop (binOpAt_of_closer ht j) e rest

theorem parseLevelRest_five (e : Expr) (rest : Tokens) :
    parseLevelRest endPos 5 e rest = .ok (e, rest) := by
  cases rest with
  | nil => exact parseLevelRest_nil 5 e
  | cons t rest => exact parseLevelRest_stop (binOpAt_of_five_le (Nat.le_refl 5) _) e rest

theorem parsePostfixRest_ends {j : Nat} {rest : Tokens} (h : Ends j rest) (e : Expr) :
    parsePostfixRest endPos e rest = .ok (e, rest) := by
  cases rest with
  | nil => exact parsePostfixRest_nil e
  | cons t rest => exact parsePostfixRest_stop h.1 h.2.1 h.2.2.1 e rest

/-- What the reader of a level `m` does on some tokens, every lower level does too: each level
  below hands the tokens up and finds no operator of its own after them. -/
theorem parseLevel_lift {X : Tokens} (hX : X ≠ []) {e : Expr} {m : Nat} (hm : m ≤ 5)
    (h : ∀ rest, Ends m rest → parseLevel endPos m (X ++ rest) = parseLevelRest endPos m e rest) :
    ∀ j ≤ m, ∀ rest, Ends j rest → parseLevel endPos j (X ++ rest) = parseLevelRest endPos j e rest := by
  intro j hj
  induction hd : m - j generalizing j with
  | zero => obtain rfl : j = m := by omega
            exact h
  | succ d ih =>
    intro rest hr
    have hup := ih (j + 1) (by omega) (by omega) rest (hr.mono (by omega))
    rw [parseLevelRest_ends hr (by omega)] at hup
    have hlen : rest.length < (X ++ rest).length := by
      have := List.length_pos_iff.2 hX
      simp only [List.length_append]; omega
    exact parseLevel_of_lt (by omega) hup hlen

/-- Tokens that read as a postfix expression, and start with no unary operator, read so at the
  unary level too. -/
theorem parseLevel_five_of_primary {t : Token} {X : Tokens} (ht : startsPrimary t.kind) {e : Expr}
    (h : ∀ rest, parsePostfix endPos (t :: X ++ rest) = parsePostfixRest endPos e rest) :
    ∀ rest, Ends 5 rest → parseLevel endPos 5 (t :: X ++ rest) = parseLevelRest endPos 5 e rest := by
  intro rest hr
  have h1 : t.kind ≠ .not := fun h => by simp [h, startsPrimary] at ht
  have h2 : t.kind ≠ .minus := fun h => by simp [h, startsPrimary] at ht
  rw [parseLevel_five, List.cons_append, parseUnary_of_primary h1 h2, ← List.cons_append, h,
    parsePostfixRest_ends hr, parseLevelRest_five]

end Stops


/-! ## How a printed expression starts -/

@[simp] theorem Token.kv_eq_iff {t : Token} {k : TokenKind} {a : Atom} :
    t.kv = (k, a) ↔ t.kind = k ∧ t.value = a := by
  simp [Token.kv]

theorem Expr.toksAt_of_le {k : Nat} {e : Expr} (h : k ≤ e.prec) : e.toksAt k = e.toks := if_pos h

theorem Expr.toksAt_of_lt {k : Nat} {e : Expr} (h : e.prec < k) :
    e.toksAt k = (.lparen, .str "(") :: e.toks ++ [(.rparen, .str ")")] := if_neg (by omega)

/-- A printed postfix expression starts with a literal, a name or an opening bracket. -/
theorem Expr.toksAt_six_head : ∀ e : Expr, ∃ kv rest, e.toksAt 6 = kv :: rest ∧ startsPrimary kv.1
  | .lit a => ⟨_, [], Expr.toksAt_of_le (by simp [Expr.prec]), by cases a <;> rfl⟩
  | .var _ => ⟨_, [], Expr.toksAt_of_le (by simp [Expr.prec]), rfl⟩
  | .member o _ => by
    obtain ⟨kv, r, h, hs⟩ := Expr.toksAt_six_head o
    exact ⟨kv, _, by rw [Expr.toksAt_of_le (by simp [Expr.prec]), Expr.toks, ← Expr.toksAt, h,
      List.cons_append], hs⟩
  | .index o _ => by
    obtain ⟨kv, r, h, hs⟩ := Expr.toksAt_six_head o
    exact ⟨kv, _, by rw [Expr.toksAt_of_le (by simp [Expr.prec]), Expr.toks, ← Expr.toksAt, h,
      List.cons_append, List.cons_append], hs⟩
  | .binary op _ _ => ⟨_, _, Expr.toksAt_of_lt (by simp only [Expr.prec]; cases op <;> decide), rfl⟩
  | .unary _ _ => ⟨_, _, Expr.toksAt_of_lt (by simp [Expr.prec]), rfl⟩
  | .call _ _ => ⟨_, _, Expr.toksAt_of_le (by simp [Expr.prec]), rfl⟩
  | .array _ => ⟨_, _, Expr.toksAt_of_le (by simp [Expr.prec]), rfl⟩
  | .object _ => ⟨_, _, Expr.toksAt_of_le (by simp [Expr.prec]), rfl⟩

theorem startsExpr_of_startsPrimary {k : TokenKind} (h : startsPrimary k) : startsExpr k := by
  cases k <;> simp_all [startsPrimary, startsExpr]

theorem Expr.toks_head_of_six (e : Expr) (h : e.prec = 6) :
    ∃ kv rest, e.toks = kv :: rest ∧ startsExpr kv.1 := by
  obtain ⟨kv, r, hkr, hs⟩ := e.toksAt_six_head
  exact ⟨kv, r, by rw [← Expr.toksAt_of_le (k := 6) (by omega), hkr], startsExpr_of_startsPrimary hs⟩

/-- A printed expression starts with a literal, a name, an opening bracket or a unary
  operator. -/
theorem Expr.toks_head : ∀ e : Expr, ∃ kv rest, e.toks = kv :: rest ∧ startsExpr kv.1
  | .binary op l _ => by
    by_cases hl : op.level ≤ l.prec
    · obtain ⟨kv, r, h, hs⟩ := Expr.toks_head l
      exact ⟨kv, _, by rw [Expr.toks, wrapAt, if_pos hl, h, List.cons_append], hs⟩
    · exact ⟨_, _, by rw [Expr.toks, wrapAt, if_neg hl]; rfl, rfl⟩
  | .unary op _ => ⟨_, _, rfl, by cases op <;> rfl⟩
  | .lit a => Expr.toks_head_of_six (.lit a) rfl
  | .var n => Expr.toks_head_of_six (.var n) rfl
  | .member o n => Expr.toks_head_of_six (.member o n) rfl
  | .index o k => Expr.toks_head_of_six (.index o k) rfl
  | .call fn args => Expr.toks_head_of_six (.call fn args) rfl
  | .array items => Expr.toks_head_of_six (.array items) rfl
  | .object entries => Expr.toks_head_of_six (.object entries) rfl

end FieldRules.Lang
