import FieldRules.Proofs.ParserSteps

/-! # Reading printed programs back

The reader inverts the printer on printable programs: `parse_print` states that the text of a
printable program parses to the program itself. The argument works at the level of tokens. By
`tokenize_print` the text lexes to the program's tokens; then each printable expression
`Reads` back from its tokens at every precedence level, whatever follows it that ends that level
(`Expr.Printable.reads`, by induction over printability), and statements and programs follow
from their expressions.

Printability is needed: an integer literal with more digits than the reader converts is printed
but its text fails to read (`parse_print_long_integer_fails`). -/

namespace FieldRules.Lang

/-! ## Reading a printed expression -/

/-- How the reader takes the tokens of an expression `e`: at every level `j ≤ 5`, its tokens in
  a place that needs `j` and then a rest where that level stops read as `e`, and the level goes on
  from there; as a postfix expression, its tokens read as `e` whatever follows. -/
structure Reads (endPos : Nat) (e : Expr) : Prop where
  level : ∀ j ≤ 5, ∀ ts : Tokens, ts.map Token.kv = e.toksAt j → ∀ rest, Ends j rest →
    parseLevel endPos j (ts ++ rest) = parseLevelRest endPos j e rest
  postfixChain : ∀ ts : Tokens, ts.map Token.kv = e.toksAt 6 → ∀ rest,
    parsePostfix endPos (ts ++ rest) = parsePostfixRest endPos e rest

section Reads

variable {endPos : Nat}

theorem ne_nil_of_map_toks {ts : Tokens} {e : Expr} (h : ts.map Token.kv = e.toks) : ts ≠ [] := by
  rintro rfl
  obtain ⟨kv, r, hkr, -⟩ := e.toks_head
  rw [hkr] at h
  cases h

/-- A postfix or primary expression is read at every level as it is read as a postfix one. -/
theorem Reads.of_primary {e : Expr} (hp : e.prec = 6)
    (h : ∀ ts : Tokens, ts.map Token.kv = e.toks → ∀ rest,
      parsePostfix endPos (ts ++ rest) = parsePostfixRest endPos e rest) :
    Reads endPos e := by
  refine ⟨fun j hj ts hts rest hr => ?_, fun ts hts => h ts (by rw [hts, Expr.toksAt_of_le (by omega)])⟩
  rw [Expr.toksAt_of_le (by omega)] at hts
  obtain ⟨kv, r, hkr, hs⟩ := e.toksAt_six_head
  rw [Expr.toksAt_of_le (by omega), ← hts] at hkr
  obtain ⟨t, X, rfl, ht, -⟩ := List.map_eq_cons_iff.1 hkr
  have hst : startsPrimary t.kind := by rw [← ht] at hs; exact hs
  exact parseLevel_lift (List.cons_ne_nil _ _) (Nat.le_refl 5)
    (parseLevel_five_of_primary hst (h (t :: X) hts)) j hj rest hr

/-- A binary or unary expression, read at its own level, is read at every level: in
  parentheses above its own. -/
theorem Reads.of_prec {e : Expr} (hp : e.prec ≤ 5)
    (h : ∀ ts : Tokens, ts.map Token.kv = e.toks → ∀ rest, Ends e.prec rest →
      parseLevel endPos e.prec (ts ++ rest) = parseLevelRest endPos e.prec e rest) :
    Reads endPos e := by
  have hlow : ∀ j ≤ e.prec, ∀ ts : Tokens, ts.map Token.kv = e.toks → ∀ rest, Ends j rest →
      parseLevel endPos j (ts ++ rest) = parseLevelRest endPos j e rest :=
    fun j hj ts hts => parseLevel_lift (ne_nil_of_map_toks hts) hp (h ts hts) j hj
  have hpost : ∀ ts : Tokens, ts.map Token.kv = e.toksAt 6 → ∀ rest,
      parsePostfix endPos (ts ++ rest) = parsePostfixRest endPos e rest := by
    intro ts hts rest
    rw [Expr.toksAt_of_lt (by omega)] at hts
    obtain ⟨p, ts1, rfl, hp1, hts1⟩ := List.map_eq_cons_iff.1 hts
    obtain ⟨ts2, ts3, rfl, h2, h3⟩ := List.map_eq_append_iff.1 hts1
    obtain ⟨c, ts4, rfl, hc, h4⟩ := List.map_eq_cons_iff.1 h3
    obtain rfl := List.map_eq_nil_iff.1 h4
    simp only [Token.kv_eq_iff] at hp1 hc
    have hin := hlow 0 (Nat.zero_le _) ts2 h2 (c :: rest) (.of_closer (by simp [hc.1, closerKind]) 0 rest)
    rw [parseLevelRest_closer (by simp [hc.1, closerKind])] at hin
    rw [show (p :: (ts2 ++ [c])) ++ rest = p :: (ts2 ++ c :: rest) by simp]
    exact parsePostfix_of (parsePrimary_paren hp1.1 hc.1 hin) (by simp; omega)
  refine ⟨fun j hj ts hts rest hr => ?_, hpost⟩
  by_cases hjp : j ≤ e.prec
  · rw [Expr.toksAt_of_le hjp] at hts
    exact hlow j hjp ts hts rest hr
  · have h6 : e.toksAt j = e.toksAt 6 := by
      rw [Expr.toksAt_of_lt (by omega), Expr.toksAt_of_lt (by omega)]
    rw [h6] at hts
    have hts' := hts
    rw [Expr.toksAt_of_lt (by omega)] at hts'
    obtain ⟨t, X, rfl, ht, -⟩ := List.map_eq_cons_iff.1 hts'
    simp only [Token.kv_eq_iff] at ht
    exact parseLevel_lift (List.cons_ne_nil _ _) (Nat.le_refl 5)
      (parseLevel_five_of_primary (by simp [ht.1, startsPrimary]) (hpost (t :: X) hts)) j hj rest hr


theorem literalOf_of_kv {t : Token} {a : Atom} (h : t.kv = (a.kind, a)) : literalOf t = a := by
  simp only [Token.kv_eq_iff] at h
  cases a <;> simp [literalOf, h.1, h.2, Atom.kind]

theorem Reads.lit (a : Atom) : Reads endPos (.lit a) :=
  .of_primary rfl fun ts hts rest => by
    obtain ⟨t, ts', rfl, ht, hnil⟩ := List.map_eq_cons_iff.1 hts
    obtain rfl := List.map_eq_nil_iff.1 hnil
    have hk : t.kind = .number ∨ t.kind = .string ∨ t.kind = .boolean ∨ t.kind = .null := by
      simp only [Token.kv_eq_iff] at ht
      cases a <;> simp [Atom.kind, ht.1]
    rw [List.singleton_append, parsePostfix_of (parsePrimary_literal hk rest) (by simp),
      literalOf_of_kv ht]

theorem Reads.var (n : String) : Reads endPos (.var n) :=
  .of_primary rfl fun ts hts rest => by
    obtain ⟨t, ts', rfl, ht, hnil⟩ := List.map_eq_cons_iff.1 hts
    obtain rfl := List.map_eq_nil_iff.1 hnil
    simp only [Token.kv_eq_iff] at ht
    rw [List.singleton_append, parsePostfix_of (parsePrimary_identifier ht.1 rest) (by simp), ht.2]
    rfl

theorem Reads.member {o : Expr} (ho : Reads endPos o) (n : String) : Reads endPos (.member o n) :=
  .of_primary rfl fun ts hts rest => by
    obtain ⟨ts1, ts2, rfl, h1, h2⟩ := List.map_eq_append_iff.1 hts
    obtain ⟨d, ts3, rfl, hd, h3⟩ := List.map_eq_cons_iff.1 h2
    obtain ⟨m, ts4, rfl, hm, h4⟩ := List.map_eq_cons_iff.1 h3
    obtain rfl := List.map_eq_nil_iff.1 h4
    simp only [Token.kv_eq_iff] at hd hm
    rw [List.append_assoc, List.cons_append, List.cons_append, List.nil_append,
      ho.postfixChain ts1 h1, parsePostfixRest_member hd.1 hm.1, hm.2]
    rfl

theorem Reads.index {o k : Expr} (ho : Reads endPos o) (hk : Reads endPos k) :
    Reads endPos (.index o k) :=
  .of_primary rfl fun ts hts rest => by
    obtain ⟨A, B, rfl, hA, hB⟩ := List.map_eq_append_iff.1 hts
    obtain ⟨c, ts', rfl, hc, hnil⟩ := List.map_eq_cons_iff.1 hB
    obtain rfl := List.map_eq_nil_iff.1 hnil
    obtain ⟨ts1, ts2, rfl, h1, h2⟩ := List.map_eq_append_iff.1 hA
    obtain ⟨b, ts3, rfl, hb, h3⟩ := List.map_eq_cons_iff.1 h2
    simp only [Token.kv_eq_iff] at hb hc
    have hcl : closerKind c.kind := by simp [hc.1, closerKind]
    have hkey := hk.level 0 (Nat.zero_le 5) ts3 (by rw [Expr.toksAt_of_le (Nat.zero_le _)]; exact h3)
      (c :: rest) (.of_closer hcl 0 rest)
    rw [parseLevelRest_closer hcl] at hkey
    simp only [List.append_assoc, List.cons_append, List.nil_append]
    rw [ho.postfixChain ts1 h1, parsePostfixRest_index hb.1 hc.1 hkey (by simp; omega)]


theorem BinOp.binOpAt_level (op : BinOp) : binOpAt op.level op.kind = some op := by
  cases op <;> rfl

theorem BinOp.binOpAt_ne {op : BinOp} {j : Nat} (hj : j ≠ op.level) : binOpAt j op.kind = none := by
  cases op <;> rcases j with _ | _ | _ | _ | _ | j <;> simp_all [binOpAt, BinOp.kind, BinOp.level]

theorem BinOp.level_le (op : BinOp) : op.level ≤ 4 := by
  cases op <;> decide

theorem BinOp.kind_not_trailing (op : BinOp) :
    op.kind ≠ .dot ∧ op.kind ≠ .lbracket ∧ op.kind ≠ .lparen := by
  cases op <;> decide

/-- A binary expression is read at its own level: the left operand at that level stops at the
  operator, the right operand one level up stops where the whole does, and the level's loop
  then groups the two. -/
theorem Reads.binary (op : BinOp) {l r : Expr} (hl : Reads endPos l) (hr : Reads endPos r) :
    Reads endPos (.binary op l r) :=
  .of_prec (op.level_le.trans (by decide)) fun ts hts rest hrest => by
    obtain ⟨A, B, rfl, hA, hB⟩ := List.map_eq_append_iff.1 hts
    obtain ⟨t, C, rfl, ht, hC⟩ := List.map_eq_cons_iff.1 hB
    simp only [Token.kv_eq_iff] at ht
    simp only [Expr.prec] at hrest ⊢
    obtain ⟨h1, h2, h3⟩ := op.kind_not_trailing
    have hends : Ends op.level (t :: (C ++ rest)) :=
      ⟨ht.1 ▸ h1, ht.1 ▸ h2, ht.1 ▸ h3, fun k hk => ht.1 ▸ BinOp.binOpAt_ne (by omega)⟩
    have hright := hr.level (op.level + 1) (by have := op.level_le; omega) C hC rest
      (hrest.mono (Nat.le_succ _))
    rw [parseLevelRest_ends hrest (Nat.lt_succ_self _)] at hright
    rw [List.append_assoc, List.cons_append, hl.level op.level (by have := op.level_le; omega) A hA _ hends,
      parseLevelRest_op (ht.1 ▸ op.binOpAt_level) hright (by simp)]

theorem Reads.unary (op : UnOp) {a : Expr} (ha : Reads endPos a) : Reads endPos (.unary op a) :=
  .of_prec (by simp [Expr.prec]) fun ts hts rest hrest => by
    obtain ⟨t, A, rfl, ht, hA⟩ := List.map_eq_cons_iff.1 hts
    simp only [Token.kv_eq_iff] at ht
    simp only [Expr.prec] at hrest ⊢
    have hin := ha.level 5 (Nat.le_refl 5) A hA rest hrest
    rw [parseLevel_five, parseLevelRest_five] at hin
    rw [parseLevel_five, List.cons_append, parseUnary_op ht.1 hin, parseLevelRest_five]


/-! ### Lists and objects -/

theorem closerKind_of_startsExpr {k : TokenKind} (h : startsExpr k) : closerKind k = false := by
  cases k <;> simp_all [startsExpr, closerKind]

/-- Tokens that are empty or start with a separator, then a closing token: the first of them
  closes an expression. -/
theorem closer_head {B : Tokens} {ks : List (TokenKind × Atom)} (hB : B.map Token.kv = ks)
    (hks : ∀ kv ∈ ks.head?, closerKind kv.1) {c : Token} (hc : closerKind c.kind) (rest : Tokens) :
    ∃ t r, B ++ c :: rest = t :: r ∧ closerKind t.kind := by
  cases B with
  | nil => exact ⟨c, rest, rfl, hc⟩
  | cons b B =>
    refine ⟨b, B ++ c :: rest, rfl, ?_⟩
    subst hB
    exact hks b.kv rfl

theorem moreToks_head (es : List Expr) : ∀ kv ∈ (Expr.moreToks es).head?, closerKind kv.1 := by
  cases es <;> simp [Expr.moreToks, closerKind]

theorem moreEntryToks_head (es : List (String × Expr)) :
    ∀ kv ∈ (Expr.moreEntryToks es).head?, closerKind kv.1 := by
  rcases es with _ | ⟨⟨k, v⟩, es⟩ <;> simp [Expr.moreEntryToks, closerKind]

/-- An item followed by more items or the closing token reads as itself. -/
theorem parseLevel_item {a : Expr} (ha : Reads endPos a) {A B : Tokens}
    (hA : A.map Token.kv = a.toks) {ks : List (TokenKind × Atom)} (hB : B.map Token.kv = ks)
    (hks : ∀ kv ∈ ks.head?, closerKind kv.1) {c : Token} (hc : closerKind c.kind) (rest : Tokens) :
    parseLevel endPos 0 (A ++ (B ++ c :: rest)) = .ok (a, B ++ c :: rest) := by
  obtain ⟨t, r, htr, htc⟩ := closer_head hB hks hc rest
  rw [ha.level 0 (Nat.zero_le 5) A (by rw [Expr.toksAt_of_le (Nat.zero_le _)]; exact hA) _
    (htr ▸ .of_closer htc 0 r), htr, parseLevelRest_closer htc]

variable {closing : TokenKind}

theorem parseItemsRest_moreToks (hc : closerKind closing) (hcc : closing ≠ .comma) :
    ∀ (items : List Expr), (∀ a ∈ items, Reads endPos a) → ∀ (acc : List Expr) (ts : Tokens)
      (c : Token) (rest : Tokens), ts.map Token.kv = Expr.moreToks items → c.kind = closing →
      parseItemsRest endPos closing acc (ts ++ c :: rest) = .ok (acc ++ items, rest)
  | [], _, acc, ts, c, rest, hts, hck => by
    obtain rfl := List.map_eq_nil_iff.1 hts
    simp [parseItemsRest_close hck hcc]
  | a :: as, h, acc, ts, c, rest, hts, hck => by
    obtain ⟨m, ts1, rfl, hm, h1⟩ := List.map_eq_cons_iff.1 hts
    obtain ⟨A, B, rfl, hA, hB⟩ := List.map_eq_append_iff.1 h1
    simp only [Token.kv_eq_iff] at hm
    have ha := parseLevel_item (h a List.mem_cons_self) hA hB (moreToks_head as) (hck ▸ hc) rest
    rw [List.cons_append, List.append_assoc, parseItemsRest_comma hm.1 ha (by simp),
      parseItemsRest_moreToks hc hcc as (fun b hb => h b (List.mem_cons_of_mem _ hb)) _ B c rest hB hck]
    simp

theorem parseItems_listToks (hc : closerKind closing) (hcc : closing ≠ .comma) {items : List Expr}
    (h : ∀ a ∈ items, Reads endPos a) {ts : Tokens} (hts : ts.map Token.kv = Expr.listToks items)
    {c : Token} (hck : c.kind = closing) (rest : Tokens) :
    parseItems endPos closing (ts ++ c :: rest) = .ok (items, rest) := by
  cases items with
  | nil =>
    obtain rfl := List.map_eq_nil_iff.1 hts
    exact parseItems_close hck rest
  | cons a as =>
    obtain ⟨A, B, rfl, hA, hB⟩ := List.map_eq_append_iff.1 hts
    have ha := parseLevel_item (h a List.mem_cons_self) hA hB (moreToks_head as) (hck ▸ hc) rest
    obtain ⟨kv, r, hkr, hs⟩ := a.toks_head
    rw [hkr] at hA
    obtain ⟨t, A', rfl, ht, -⟩ := List.map_eq_cons_iff.1 hA
    have htc : t.kind ≠ closing := fun h' => by
      have hcl := closerKind_of_startsExpr hs
      rw [← ht] at hcl
      simp only [Token.kv] at hcl
      rw [h', hc] at hcl
      cases hcl
    rw [List.cons_append] at ha
    rw [List.append_assoc, List.cons_append, parseItems_first htc ha (by simp),
      parseItemsRest_moreToks hc hcc as (fun b hb => h b (List.mem_cons_of_mem _ hb)) _ B c rest hB hck]
    rfl

theorem Reads.call (fn : String) {args : List Expr} (h : ∀ a ∈ args, Reads endPos a) :
    Reads endPos (.call fn args) :=
  .of_primary rfl fun ts hts rest => by
    obtain ⟨f, ts1, rfl, hf, h1⟩ := List.map_eq_cons_iff.1 hts
    obtain ⟨p, ts2, rfl, hp, h2⟩ := List.map_eq_cons_iff.1 h1
    obtain ⟨A, B, rfl, hA, hB⟩ := List.map_eq_append_iff.1 h2
    obtain ⟨c, ts3, rfl, hc, hnil⟩ := List.map_eq_cons_iff.1 hB
    obtain rfl := List.map_eq_nil_iff.1 hnil
    simp only [Token.kv_eq_iff] at hf hp hc
    have hargs := parseItems_listToks (by decide) (by decide) h hA hc.1 rest
    simp only [List.cons_append, List.append_assoc]
    rw [parsePostfix_of (parsePrimary_identifier hf.1 _) (by simp), hf.2]
    exact parsePostfixRest_call hp.1 hargs (by simp; omega) fn

theorem Reads.array {items : List Expr} (h : ∀ a ∈ items, Reads endPos a) :
    Reads endPos (.array items) :=
  .of_primary rfl fun ts hts rest => by
    obtain ⟨b, ts1, rfl, hb, h1⟩ := List.map_eq_cons_iff.1 hts
    obtain ⟨A, B, rfl, hA, hB⟩ := List.map_eq_append_iff.1 h1
    obtain ⟨c, ts3, rfl, hc, hnil⟩ := List.map_eq_cons_iff.1 hB
    obtain rfl := List.map_eq_nil_iff.1 hnil
    simp only [Token.kv_eq_iff] at hb hc
    have hitems := parseItems_listToks (by decide) (by decide) h hA hc.1 rest
    simp only [List.cons_append, List.append_assoc]
    exact parsePostfix_of (parsePrimary_array hb.1 hitems) (by simp; omega)


theorem putEntry_of_not_mem {entries : List (String × Expr)} {k : String}
    (h : k ∉ entries.map Prod.fst) (v : Expr) : putEntry entries k v = entries ++ [(k, v)] := by
  unfold putEntry
  rw [if_neg]
  simpa using fun x hx => h (List.mem_map.2 ⟨(k, x), hx, rfl⟩)

/-- An entry, its key a string literal, followed by more entries or the closing brace. -/
theorem parsePair_entry {k : String} {v : Expr} (hv : Reads endPos v) {s c : Token}
    (hs : s.kv = (.string, .str k)) (hc : c.kind = .colon) {A B : Tokens} (hA : A.map Token.kv = v.toks)
    {ks : List (TokenKind × Atom)} (hB : B.map Token.kv = ks) (hks : ∀ kv ∈ ks.head?, closerKind kv.1)
    {d : Token} (hd : closerKind d.kind) (rest : Tokens) :
    parsePair endPos (s :: c :: (A ++ (B ++ d :: rest))) = .ok ((k, v), B ++ d :: rest) := by
  simp only [Token.kv_eq_iff] at hs
  rw [parsePair_of hs.1 hc (parseLevel_item hv hA hB hks hd rest), hs.2]
  rfl

theorem parsePairsRest_moreEntryToks :
    ∀ (es : List (String × Expr)), (∀ p ∈ es, Reads endPos p.2) → ∀ (acc : List (String × Expr)),
      ((acc ++ es).map Prod.fst).Nodup → ∀ (ts : Tokens) (c : Token) (rest : Tokens),
      ts.map Token.kv = Expr.moreEntryToks es → c.kind = .rbrace →
      parsePairsRest endPos acc (ts ++ c :: rest) = .ok (acc ++ es, rest)
  | [], _, acc, _, ts, c, rest, hts, hck => by
    obtain rfl := List.map_eq_nil_iff.1 hts
    simp [parsePairsRest_close hck]
  | (k, v) :: es, h, acc, hnd, ts, c, rest, hts, hck => by
    obtain ⟨m, ts1, rfl, hm, h1⟩ := List.map_eq_cons_iff.1 hts
    obtain ⟨s, ts2, rfl, hs, h2⟩ := List.map_eq_cons_iff.1 h1
    obtain ⟨col, ts3, rfl, hcol, h3⟩ := List.map_eq_cons_iff.1 h2
    obtain ⟨A, B, rfl, hA, hB⟩ := List.map_eq_append_iff.1 h3
    simp only [Token.kv_eq_iff] at hm hcol
    have hpair := parsePair_entry (h (k, v) List.mem_cons_self) (by simpa using hs) hcol.1 hA hB
      (moreEntryToks_head es) (d := c) (by simp [hck, closerKind]) rest
    have hk : k ∉ acc.map Prod.fst := by
      simp only [List.map_append, List.map_cons] at hnd
      exact fun hk => (List.nodup_append.1 hnd).2.2 _ hk _ List.mem_cons_self rfl
    rw [List.cons_append, List.cons_append, List.cons_append, List.append_assoc,
      parsePairsRest_comma hm.1 hpair (by simp; omega), putEntry_of_not_mem hk,
      parsePairsRest_moreEntryToks es (fun p hp => h p (List.mem_cons_of_mem _ hp)) _
        (by simpa using hnd) B c rest hB hck]
    simp

theorem parsePairs_entryToks {es : List (String × Expr)} (h : ∀ p ∈ es, Reads endPos p.2)
    (hnd : (es.map Prod.fst).Nodup) {ts : Tokens} (hts : ts.map Token.kv = Expr.entryToks es)
    {c : Token} (hck : c.kind = .rbrace) (rest : Tokens) :
    parsePairs endPos (ts ++ c :: rest) = .ok (es, rest) := by
  rcases es with _ | ⟨⟨k, v⟩, es⟩
  · obtain rfl := List.map_eq_nil_iff.1 hts
    exact parsePairs_close hck rest
  · obtain ⟨s, ts2, rfl, hs, h2⟩ := List.map_eq_cons_iff.1 hts
    obtain ⟨col, ts3, rfl, hcol, h3⟩ := List.map_eq_cons_iff.1 h2
    obtain ⟨A, B, rfl, hA, hB⟩ := List.map_eq_append_iff.1 h3
    simp only [Token.kv_eq_iff] at hcol
    have hpair := parsePair_entry (h (k, v) List.mem_cons_self) (by simpa using hs) hcol.1 hA hB
      (moreEntryToks_head es) (d := c) (by simp [hck, closerKind]) rest
    have hsk : s.kind ≠ .rbrace := by simp only [Token.kv_eq_iff] at hs; simp [hs.1]
    rw [List.cons_append, List.cons_append, List.append_assoc, parsePairs_first hsk hpair (by simp; omega),
      putEntry_of_not_mem (by simp) v,
      parsePairsRest_moreEntryToks es (fun p hp => h p (List.mem_cons_of_mem _ hp)) _
        (by simpa using hnd) B c rest hB hck]
    rfl

theorem Reads.object {entries : List (String × Expr)} (hnd : (entries.map Prod.fst).Nodup)
    (h : ∀ p ∈ entries, Reads endPos p.2) : Reads endPos (.object entries) :=
  .of_primary rfl fun ts hts rest => by
    obtain ⟨b, ts1, rfl, hb, h1⟩ := List.map_eq_cons_iff.1 hts
    obtain ⟨A, B, rfl, hA, hB⟩ := List.map_eq_append_iff.1 h1
    obtain ⟨c, ts3, rfl, hc, hnil⟩ := List.map_eq_cons_iff.1 hB
    obtain rfl := List.map_eq_nil_iff.1 hnil
    simp only [Token.kv_eq_iff] at hb hc
    have hentries := parsePairs_entryToks h hnd hA hc.1 rest
    simp only [List.cons_append, List.append_assoc]
    exact parsePostfix_of (parsePrimary_object hb.1 hentries) (by simp; omega)

/-- Every printable expression is read back as itself. -/
theorem Expr.Printable.reads {e : Expr} (h : e.Printable) : Reads endPos e := by
  induction h with
  | lit _ => exact .lit _
  | var _ => exact .var _
  | member _ _ ih => exact ih.member _
  | index _ _ ih1 ih2 => exact ih1.index ih2
  | binary _ _ ih1 ih2 => exact .binary _ ih1 ih2
  | unary _ ih => exact .unary _ ih
  | call _ _ ih => exact .call _ ih
  | array _ ih => exact .array ih
  | object hnd _ ih => exact .object hnd ih

end Reads

/-! ## Statements and programs -/

section Program

variable {endPos : Nat}

theorem intercalate_cons_flatMap {α : Type} (sep a : List α) (rest : List (List α)) :
    sep.intercalate (a :: rest) = a ++ rest.flatMap (sep ++ ·) := by
  induction rest generalizing a with
  | nil => simp
  | cons b bs ih => rw [List.intercalate_cons_cons, ih b, List.flatMap_cons]; simp

/-- The tokens of the statements after the first, each behind its semicolon. -/
def moreStatementToks (ss : List Statement) : List (TokenKind × Atom) :=
  (ss.map Statement.toks).flatMap ([(.semicolon, .str ";")] ++ ·)

theorem moreStatementToks_head (ss : List Statement) :
    ∀ kv ∈ (moreStatementToks ss).head?, closerKind kv.1 := by
  cases ss <;> simp [moreStatementToks, closerKind]

theorem Statement.toks_head (s : Statement) :
    ∃ kv rest, s.toks = kv :: rest ∧ closerKind kv.1 = false := by
  cases s with
  | bind n e => exact ⟨_, _, rfl, rfl⟩
  | eval e =>
    obtain ⟨kv, r, hkr, hk⟩ := e.toks_head
    exact ⟨kv, r, hkr, closerKind_of_startsExpr hk⟩

/-- A printed statement does not start with a separator or the end. -/
theorem peekKind_of_toks {s : Statement} {ts : Tokens} (hts : ts.map Token.kv = s.toks)
    (rest : Tokens) : closerKind (peekKind (ts ++ rest)) = false := by
  obtain ⟨kv, r, hkr, hk⟩ := s.toks_head
  obtain ⟨t, A, rfl, ht, _⟩ := List.map_eq_cons_iff.1 (hts.trans hkr)
  rw [← ht] at hk
  exact hk

theorem peekKind_ne_eof {s : Statement} {ts : Tokens} (hts : ts.map Token.kv = s.toks)
    (rest : Tokens) : peekKind (ts ++ rest) ≠ .eof := fun h => by
  simpa [h, closerKind] using peekKind_of_toks hts rest

/-- A printed statement followed by a separator or the end reads as itself. -/
theorem parseStatement_toks {s : Statement} (hs : s.Printable) {ts : Tokens}
    (hts : ts.map Token.kv = s.toks) {t : Token} (ht : closerKind t.kind) (rest : Tokens) :
    parseStatement endPos (ts ++ t :: rest) = .ok (s, t :: rest) := by
  cases s with
  | bind n e =>
    obtain ⟨_, he⟩ := hs
    obtain ⟨l, ts1, rfl, hl, h1⟩ := List.map_eq_cons_iff.1 hts
    obtain ⟨m, ts2, rfl, hm, h2⟩ := List.map_eq_cons_iff.1 h1
    obtain ⟨a, A, rfl, ha, hA⟩ := List.map_eq_cons_iff.1 h2
    simp only [Token.kv_eq_iff] at hl hm ha
    have hv : parseLevel endPos 0 _ = _ := parseLevel_item he.reads hA (B := []) rfl (by simp) ht rest
    rw [List.nil_append] at hv
    rw [List.cons_append, List.cons_append, List.cons_append, parseStatement_bind hl.1 hm.1 ha.1 hv,
      hm.2]
    rfl
  | eval e =>
    have he : e.Printable := hs
    have hv : parseLevel endPos 0 _ = _ := parseLevel_item he.reads hts (B := []) rfl (by simp) ht rest
    obtain ⟨kv, r, hkr, hk⟩ := e.toks_head
    obtain ⟨t0, A, rfl, h0, -⟩ := List.map_eq_cons_iff.1 (hts.trans hkr)
    have hlet : t0.kind ≠ .letKw := fun h => by
      rw [← h0] at hk
      simp [Token.kv, h, startsExpr] at hk
    rw [List.nil_append] at hv
    exact parseStatement_eval hlet hv

/-- The statements after the first, each behind its semicolon, then the end. -/
theorem parseMoreStatements_toks : ∀ (ss : List Statement), (∀ s ∈ ss, s.Printable) →
    ∀ (acc : List Statement) (ts : Tokens) (t : Token), ts.map Token.kv = moreStatementToks ss →
      t.kind = .eof → parseMoreStatements endPos acc (ts ++ [t]) = .ok (acc ++ ss, [t])
  | [], _, acc, ts, t, hts, ht => by
    obtain rfl := List.map_eq_nil_iff.1 hts
    simp [parseMoreStatements_stop (by simp [ht] : t.kind ≠ .semicolon)]
  | s :: ss, h, acc, ts, t, hts, ht => by
    simp only [moreStatementToks, List.map_cons, List.flatMap_cons, List.cons_append] at hts
    obtain ⟨m, ts1, rfl, hm, h1⟩ := List.map_eq_cons_iff.1 hts
    obtain ⟨A, B, rfl, hA, hB⟩ := List.map_eq_append_iff.1 h1
    simp only [Token.kv_eq_iff] at hm
    obtain ⟨t', r, htr, htc⟩ := closer_head hB (moreStatementToks_head ss) (c := t)
      (by simp [ht, closerKind]) []
    have hst : parseStatement endPos _ = _ := parseStatement_toks (h s List.mem_cons_self) hA htc r
    rw [← htr] at hst
    rw [List.cons_append, List.append_assoc,
      parseMoreStatements_next hm.1 (peekKind_ne_eof hA _) hst (by simp),
      parseMoreStatements_toks ss (fun x hx => h x (List.mem_cons_of_mem _ hx)) _ B t hB ht]
    simp

theorem parseTokens_toks {p : Program} (hp : p.Printable) {ts : Tokens}
    (hts : ts.map Token.kv = p.toks ++ [(.eof, .null)]) : parseTokens endPos ts = .ok p := by
  obtain ⟨hne, hs⟩ := hp
  obtain ⟨stmts⟩ := p
  obtain ⟨s, ss, rfl⟩ := List.exists_cons_of_ne_nil hne
  rw [Program.toks, List.map_cons, intercalate_cons_flatMap, List.append_assoc] at hts
  obtain ⟨A, BC, rfl, hA, hBC⟩ := List.map_eq_append_iff.1 hts
  obtain ⟨B, C, rfl, hB, hC⟩ := List.map_eq_append_iff.1 hBC
  obtain ⟨t, C', rfl, ht, hnil⟩ := List.map_eq_cons_iff.1 hC
  obtain rfl := List.map_eq_nil_iff.1 hnil
  simp only [Token.kv_eq_iff] at ht
  obtain ⟨t', r, htr, htc⟩ := closer_head hB (moreStatementToks_head ss) (c := t)
    (by simp [ht.1, closerKind]) []
  have hst : parseStatement endPos _ = _ := parseStatement_toks (hs s List.mem_cons_self) hA htc r
  rw [← htr] at hst
  exact parseTokens_of (peekKind_ne_eof hA _) hst
    (parseMoreStatements_toks ss (fun x hx => hs x (List.mem_cons_of_mem _ hx)) [s] B t hB ht.1)
    (by simp [peekKind, ht.1])

/-- Printing a printable program and parsing the text gives the program back. -/
theorem parse_print {p : Program} (hp : p.Printable) : parse p.print = .ok p := by
  obtain ⟨ts, htok, hts⟩ := tokenize_print hp
  simp only [parse, htok, parseTokens_toks hp hts]

/-- A rule that binds a price-based total and tests it against a threshold and a tag list. -/
theorem parse_print_sample :
    let p : Program := ⟨[
      .bind "total" (.binary .add (.binary .mul (.var "price") (.lit (.int 2))) (.lit (.float 0.5))),
      .eval (.binary .and (.binary .gte (.var "total") (.lit (.int 3)))
        (.unary .not (.binary .notMem (.lit (.str "a\"b")) (.var "tags"))))]⟩
    p.Printable ∧ parse p.print = .ok p := by
  intro p
  have half : FloatReadsBack 0.5 :=
    ⟨['0'], ['5'], by decide +kernel, by simp, by simp, List.all_eq_true.1 rfl,
      List.all_eq_true.1 rfl, by decide +kernel⟩
  have hp : p.Printable := by
    refine ⟨by simp [p], ?_⟩
    simp only [p, List.mem_cons, List.not_mem_nil, or_false, forall_eq_or_imp, forall_eq]
    refine ⟨⟨by decide, .binary (.binary (.var (by decide)) (.lit ⟨by decide, by decide⟩)) (.lit half)⟩,
      .binary (.binary (.var (by decide)) (.lit ⟨by decide, by decide⟩))
        (.unary (.binary (.lit trivial) (.var (by decide))))⟩
  exact ⟨hp, parse_print hp⟩

end Program

/-! ## Integers too long to read back -/

theorem Program.print_nat_literal (m : Nat) :
    (Program.print ⟨[.eval (.lit (.int m))]⟩).toList = Nat.toDigits 10 m := by
  have htext : tokenText (Atom.kind (.int m), .int m) = Nat.repr m := rfl
  simp [Program.print, Program.toks, Statement.toks, Expr.toks, htext]

/-- A lone integer literal with more digits than the reader converts is printed, and its text
  fails to read. -/
theorem parse_print_integer_too_long {m : Nat} (hm : 10 ^ integerDigitLimit ≤ m) :
    parse (Program.print ⟨[.eval (.lit (.int m))]⟩) =
      .error (.lex (.integerTooLong (Nat.toDigits 10 m).length)) := by
  have hlong : integerDigitLimit < (Nat.toDigits 10 m).length := Nat.lt_of_not_le fun h =>
    Nat.not_lt.2 hm ((Nat.length_toDigits_le_iff (by omega) (by decide)).1 h)
  rw [parse, ← String.ofList_toList (s := Program.print _), Program.print_nat_literal,
    tokenize_digits_too_long Nat.toDigits_ne_nil (digits_toDigits m).1 hlong]

theorem length_toDigits_pow {k : Nat} (hk : 0 < k) : (Nat.toDigits 10 (10 ^ k)).length = k + 1 := by
  have hle : (Nat.toDigits 10 (10 ^ k)).length ≤ k + 1 :=
    (Nat.length_toDigits_le_iff (by omega) (by omega)).2 (Nat.pow_lt_pow_right (by omega) (by omega))
  have hgt : ¬ (Nat.toDigits 10 (10 ^ k)).length ≤ k := fun h =>
    Nat.lt_irrefl _ ((Nat.length_toDigits_le_iff (by omega) hk).1 h)
  omega

/-- The literal one followed by 4300 zeros is printed as 4301 digits, which do not read back. -/
theorem parse_print_long_integer_fails :
    parse (Program.print ⟨[.eval (.lit (.int (10 ^ 4300 : Nat)))]⟩) =
      .error (.lex (.integerTooLong 4301)) := by
  have h := parse_print_integer_too_long (m := 10 ^ 4300) (pow_le_pow_right₀ (by norm_num) (by decide))
  rwa [length_toDigits_pow (k := 4300) (by decide)] at h

end FieldRules.Lang
