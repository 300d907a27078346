import FieldRules.Proofs.Lexeme

/-! # Tokenizing a whole text

A text splits as `w₀ l₁ w₁ … lₙ wₙ`, blank runs `wᵢ` (possibly empty) and lexemes `lᵢ`, each
`lᵢ` the longest lexeme that the text from it on starts with (`Splits`). Such a split is unique
when it exists, since the longest lexeme is (`LongestLexeme.unique`).

Main statement (`tokenize_eq_ok_iff`): tokenizing succeeds exactly on the texts that split so
with no integer of more than `integerDigitLimit` digits, and the tokens are then the split's
(`splitTokens`): each lexeme's token at the offset, line and column where it starts, then the
end of input, with each `not` keyword that `in` follows merged into one `not in` token
(`pairNotIn`). Lines advance only on line feeds inside blank runs. The digit limit is the one
the host's integer conversion sets; `tokenize_long_integer_fails` shows that it bites.

The scan is read one step at a time (`scanFrom_blank`, `scanFrom_lexeme`); completeness is an
induction on the split, soundness a strong induction on the length of the text left. -/

namespace FieldRules.Lang
open Text

/-! ## The token a lexeme becomes -/

/-- The kind and value of the token a lexeme becomes: a number's value is the integer or the
  float its digits denote, a string's its body with the escapes replaced, a name's the keyword it
  spells in any case or else itself, and an operator's its own text. -/
def lexemeToken (l : List Char) : TokenKind × Atom :=
  match Piece.ofLexeme l with
  | .integer ds => (.number, .int (Int.ofNat (digitsToNat ds)))
  | .decimal whole frac => (.number, .float (decimalToFloat whole frac))
  | .text body => (.string, .str (String.ofList (unescape body)))
  | .name s => nameToken s
  | .operator k => (k, .str (String.ofList l))
  | .blank => (.eof, .null)

/-- The token of a kind and value at a cursor. -/
def Cursor.tokenAt (cur : Cursor) (kv : TokenKind × Atom) : Token :=
  ⟨kv.1, kv.2, cur.position, cur.line, cur.column⟩

/-- A lexeme that is no integer, or an integer with few enough digits to be read. -/
def IntegerWithin (l : List Char) : Prop :=
  (∀ d ∈ l, isDecimalDigit d) → l.length ≤ integerDigitLimit

instance (l : List Char) : Decidable (IntegerWithin l) :=
  inferInstanceAs (Decidable ((∀ d ∈ l, isDecimalDigit d) → l.length ≤ integerDigitLimit))

/-- Each operator is the first entry of its kind. -/
theorem operatorTable_find_kind :
    ∀ e ∈ operatorTable, (operatorTable.find? (·.2 == e.2)).map (·.1) = some e.1 := by
  decide

theorem Piece.ofLexeme_string {q : Char} (hq : q = '"' ∨ q = '\'') (body : List Char) :
    Piece.ofLexeme (q :: (body ++ [q])) = .text body := by
  have hd : isDecimalDigit q = false := by rcases hq with rfl | rfl <;> decide
  have hqb : (q == '"' || q == '\'') = true := by rcases hq with rfl | rfl <;> decide
  simp [Piece.ofLexeme, hd, hqb]

theorem Piece.ofLexeme_name {c : Char} (hc : isNameStart c) (cs : List Char) :
    Piece.ofLexeme (c :: cs) = .name (String.ofList (c :: cs)) := by
  have hqb : (c == '"' || c == '\'') = false := by
    cases h : (c == '"' || c == '\'') with
    | false => rfl
    | true =>
      simp only [Bool.or_eq_true, beq_iff_eq] at h
      rcases h with rfl | rfl <;> exact absurd hc (by decide)
  simp [Piece.ofLexeme, isDecimalDigit_of_isNameStart hc, hqb, hc]

theorem Piece.ofLexeme_operator {op : List Char} {k : TokenKind} (hk : (op, k) ∈ operatorTable) :
    Piece.ofLexeme op = .operator k := by
  obtain ⟨hne, hhead⟩ := operatorTable_heads _ hk
  obtain ⟨c, r, rfl⟩ := List.exists_cons_of_ne_nil hne
  obtain ⟨-, hd, hn, hq1, hq2⟩ := hhead c (by simp)
  have hqb : (c == '"' || c == '\'') = false := by simp [hq1, hq2]
  simp [Piece.ofLexeme, hd, hn, hqb, operatorTable_find_text _ hk]

/-- A lexeme becomes its token, unless it is an integer too long to be read. -/
theorem Lexeme.token? {l : List Char} (h : Lexeme l) (cur : Cursor) :
    (Piece.ofLexeme l).token? cur =
      if IntegerWithin l then .ok (some (cur.tokenAt (lexemeToken l)))
      else .error (.integerTooLong l.length) := by
  cases h with
  | integer hne hd =>
    obtain ⟨c, r, rfl⟩ := List.exists_cons_of_ne_nil hne
    have hof := Piece.ofLexeme_number (hd c (by simp)) hd
    simp only [IntegerWithin, lexemeToken, hof, Piece.token?, digitValues, List.length_map,
      List.length_cons]
    by_cases hlen : r.length + 1 ≤ integerDigitLimit
    · simp [hlen, hd, Nat.not_lt.2 hlen, Cursor.tokenAt, Cursor.column]
    · rw [if_pos (Nat.lt_of_not_le hlen), if_neg fun h => hlen (h hd)]
  | @decimal ds fs hds _ hd =>
    have hof := @Piece.ofLexeme_decimal ds fs hds hd
    have hw : IntegerWithin (ds ++ '.' :: fs) := fun hall => absurd (hall '.' (by simp)) (by decide)
    simp [hof, hw, lexemeToken, Piece.token?, Cursor.tokenAt, Cursor.column]
  | @string q body hq _ =>
    have hw : IntegerWithin (q :: (body ++ [q])) := fun hall => by
      have := hall q List.mem_cons_self
      rcases hq with rfl | rfl <;> exact absurd this (by decide)
    simp [Piece.ofLexeme_string hq, hw, lexemeToken, Piece.token?, Cursor.tokenAt, Cursor.column]
  | @name c cs hc _ =>
    have hw : IntegerWithin (c :: cs) := fun hall => by
      have := hall c List.mem_cons_self
      rw [isDecimalDigit_of_isNameStart hc] at this; contradiction
    rw [Piece.ofLexeme_name hc, if_pos hw]
    simp only [lexemeToken, Piece.ofLexeme_name hc, Piece.token?]
    rfl
  | operator hk =>
    obtain ⟨hne, hhead⟩ := operatorTable_heads _ hk
    obtain ⟨c, r, rfl⟩ := List.exists_cons_of_ne_nil hne
    have hw : IntegerWithin (c :: r) := fun hall => by
      have := hall c (by simp)
      rw [(hhead c (by simp)).2.1] at this; contradiction
    simp [Piece.ofLexeme_operator hk, hw, lexemeToken, Piece.token?, Cursor.tokenAt, Cursor.column,
      operatorTable_find_kind _ hk]

theorem Lexeme.ofLexeme_ne_blank {l : List Char} (h : Lexeme l) : Piece.ofLexeme l ≠ .blank := by
  intro hb
  have := h.token? ⟨0, 1, 0⟩
  rw [hb] at this
  split at this <;> simp [Piece.token?] at this


/-! ## Splits of a text and the tokens they give -/

/-- Text split as `w₀ l₁ w₁ … lₙ wₙ`: runs of blanks `wᵢ`, possibly empty, and lexemes `lᵢ`, each
  the longest lexeme that the text after it starts with. The list holds the pairs `(wᵢ₋₁, lᵢ)`
  and the last index the final run `wₙ`. -/
inductive Splits : List Char → List (List Char × List Char) → List Char → Prop
  | last {w : List Char} : (∀ c ∈ w, isBlank c) → Splits w [] w
  | next {w l rest wn : List Char} {segs : List (List Char × List Char)} :
      (∀ c ∈ w, isBlank c) → LongestLexeme l (l ++ rest) → Splits rest segs wn →
      Splits (w ++ l ++ rest) ((w, l) :: segs) wn

/-- Passing over one blank character: a line feed starts a new line after it. -/
def Cursor.passBlank (cur : Cursor) (c : Char) : Cursor :=
  if c = '\n' then ⟨cur.position + 1, cur.line + 1, cur.position + 1⟩
  else { cur with position := cur.position + 1 }

/-- The tokens of a split text: each lexeme's token at the place its blank run leads to, and
  the end of input after the final run. -/
def splitTokens (cur : Cursor) : List (List Char × List Char) → List Char → List Token
  | [], wn => [(wn.foldl Cursor.passBlank cur).tokenAt (.eof, .null)]
  | (w, l) :: segs, wn =>
    let here := w.foldl Cursor.passBlank cur
    here.tokenAt (lexemeToken l) :: splitTokens { here with position := here.position + l.length } segs wn

/-- The kind and value of a token: what the reader looks at. -/
def Token.kv (t : Token) : TokenKind × Atom := (t.kind, t.value)

/-- Whether a token's kind and value are those of the keyword `not` (and not the operator
  `!`). -/
def isNotWord : TokenKind × Atom → Bool
  | (.not, .str "not") => true
  | _ => false

/-- Merges each `not` keyword that an `in` token follows into one `not in` token. -/
def pairNotIn : List Token → List Token
  | a :: b :: rest =>
    if isNotWord a.kv && b.kind == .inKw then
      { a with kind := .notIn, value := .str "not in" } :: pairNotIn rest
    else a :: pairNotIn (b :: rest)
  | ts => ts

/-- Moving over a blank run at once is moving over it one character at a time. -/
theorem Cursor.skipBlank_eq_foldl (cur : Cursor) (w : List Char) :
    cur.skipBlank w = w.foldl Cursor.passBlank cur := by
  induction w using List.reverseRecOn with
  | nil => simp [Cursor.skipBlank]
  | append_singleton w c ih =>
    rw [List.foldl_append, ← ih]
    simp only [Cursor.skipBlank, List.foldl_cons, List.foldl_nil, Cursor.passBlank]
    by_cases hc : c = '\n'
    · subst hc
      simp only [List.count_append, List.count_singleton_self, List.reverse_append, List.reverse_cons,
        List.reverse_nil, List.nil_append, List.singleton_append, List.idxOf_cons_self, List.length_append,
        List.length_singleton, if_true]
      by_cases h0 : List.count '\n' w = 0 <;> simp [h0] <;> omega
    · have hcount : List.count '\n' (w ++ [c]) = List.count '\n' w := by
        simp [List.count_append, hc]
      have hidx : List.idxOf '\n' (c :: w.reverse) = List.idxOf '\n' w.reverse + 1 := by
        simp [List.idxOf_cons, beq_false_of_ne hc]
      simp only [hcount, List.reverse_append, List.reverse_cons, List.reverse_nil, List.nil_append,
        List.singleton_append, hidx, List.length_append, List.length_singleton, hc, if_false]
      by_cases h0 : List.count '\n' w = 0 <;> simp [h0] <;> omega


/-! ## The scan, step by step -/

theorem scanFrom_nil (cur : Cursor) (acc : Array Token) :
    scanFrom [] cur acc = .ok (acc.push (cur.tokenAt (.eof, .null))) := by
  rw [scanFrom.eq_def]; rfl

/-- A run of blanks is passed over at once, up to the first character that is not blank. -/
theorem scanFrom_blank {w rest : List Char} (hw : ∀ c ∈ w, isBlank c) (hne : w ≠ [])
    (hrest : ∀ c r, rest = c :: r → isBlank c = false) (cur : Cursor) (acc : Array Token) :
    scanFrom (w ++ rest) cur acc = scanFrom rest (w.foldl Cursor.passBlank cur) acc := by
  obtain ⟨c, w', rfl⟩ := List.exists_cons_of_ne_nil hne
  have hsplit : ((c :: w') ++ rest).takeWhile isBlank = c :: w' ∧
      ((c :: w') ++ rest).dropWhile isBlank = rest := by
    cases rest with
    | nil => simp [List.takeWhile_eq_self_iff.2 hw, List.dropWhile_eq_nil_iff.2 hw]
    | cons d r => exact takeWhile_dropWhile_of_stop hw (hrest d r rfl)
  have hfront := scanFront_blank (r := w' ++ rest) (hw c List.mem_cons_self)
  rw [← List.cons_append, hsplit.1, hsplit.2, List.cons_append] at hfront
  rw [List.cons_append, scanFrom.eq_def, hfront]
  simp only [List.length_cons, List.length_append]
  rw [dif_pos (by omega), Cursor.skipBlank_eq_foldl]

/-- A lexeme is read into its token and the scan goes on after it, unless it is an integer too
  long to be read. -/
theorem scanFrom_lexeme {l rest : List Char} (h : LongestLexeme l (l ++ rest)) (cur : Cursor)
    (acc : Array Token) :
    scanFrom (l ++ rest) cur acc =
      if IntegerWithin l then
        scanFrom rest { cur with position := cur.position + l.length } (acc.push (cur.tokenAt (lexemeToken l)))
      else .error (.integerTooLong l.length) := by
  have hfront := scanFront_of_longest h
  have htok := h.lexeme.token? cur
  have hne := h.lexeme.ofLexeme_ne_blank
  obtain ⟨c, l', rfl⟩ := List.exists_cons_of_ne_nil h.lexeme.ne_nil
  rw [List.cons_append] at hfront ⊢
  rw [scanFrom.eq_def, hfront]
  simp only [List.length_cons, List.length_append]
  rw [dif_pos (by omega), htok]
  by_cases hw : IntegerWithin (c :: l')
  · rw [if_pos hw, if_pos hw]
  · rw [if_neg hw, if_neg hw]; rfl


theorem Lexeme.append_head_not_blank {l rest : List Char} (h : Lexeme l) {d : Char} {r : List Char}
    (hd : l ++ rest = d :: r) : isBlank d = false := by
  obtain ⟨c, l', rfl⟩ := List.exists_cons_of_ne_nil h.ne_nil
  obtain ⟨rfl, -⟩ := List.cons.inj hd
  exact h.head_not_blank

/-- A text that starts with a blank is a run of blanks and a rest that does not. -/
theorem exists_blank_run {c : Char} {r : List Char} (hc : isBlank c) :
    ∃ w rest, c :: r = w ++ rest ∧ (∀ d ∈ w, isBlank d) ∧ w ≠ [] ∧
      ∀ d r', rest = d :: r' → isBlank d = false :=
  ⟨_, _, List.takeWhile_append_dropWhile.symm, fun _ hd => List.mem_takeWhile_imp hd,
    by simp [hc], fun _ _ hr => dropWhile_head_false hr⟩

/-- The scan reads a split text into the split's tokens, when its integers are short enough. -/
theorem scanFrom_of_splits {cs wn : List Char} {segs : List (List Char × List Char)}
    (h : Splits cs segs wn) (hw : ∀ p ∈ segs, IntegerWithin p.2) (cur : Cursor) (acc : Array Token) :
    scanFrom cs cur acc = .ok (acc ++ (splitTokens cur segs wn).toArray) := by
  induction h generalizing cur acc with
  | @last w hb =>
    rcases w with _ | ⟨c, w'⟩
    · rw [scanFrom_nil]; simp [splitTokens]
    · have hrun := @scanFrom_blank (c :: w') [] hb (List.cons_ne_nil c w') (by simp) cur acc
      rw [List.append_nil] at hrun
      rw [hrun, scanFrom_nil]; simp [splitTokens]
  | @next w l rest wn segs hb hl _ ih =>
    have hstep : scanFrom (l ++ rest) (w.foldl Cursor.passBlank cur) acc =
        .ok (acc ++ (splitTokens cur ((w, l) :: segs) wn).toArray) := by
      rw [scanFrom_lexeme hl, if_pos (hw (w, l) List.mem_cons_self),
        ih (fun p hp => hw p (List.mem_cons_of_mem _ hp))]
      simp [splitTokens]
    rcases w with _ | ⟨c, w'⟩
    · exact hstep
    · rw [List.append_assoc, scanFrom_blank hb (List.cons_ne_nil c w')
        (fun _ _ hd => hl.lexeme.append_head_not_blank hd)]
      exact hstep

/-- Every successful scan is the reading of a split text, by strong induction on the length of
  the text left to scan. -/
theorem splits_of_scanFrom (n : Nat) : ∀ {cs : List Char}, cs.length = n →
    ∀ {cur : Cursor} {acc out : Array Token}, scanFrom cs cur acc = .ok out →
    ∃ segs wn, Splits cs segs wn ∧ (∀ p ∈ segs, IntegerWithin p.2) ∧
      out = acc ++ (splitTokens cur segs wn).toArray := by
  induction n using Nat.strong_induction_on with
  | _ n ih =>
  intro cs hn cur acc out h
  rcases cs with _ | ⟨c, r⟩
  · rw [scanFrom_nil] at h
    cases h
    exact ⟨[], [], .last (by simp), by simp, by simp [splitTokens]⟩
  cases hc : isBlank c
  · -- the text starts with its longest lexeme
    have hspec := scanFront_spec (r := r) hc
    cases hf : scanFront (c :: r) with
    | none => rw [scanFrom.eq_def, hf] at h; cases h
    | some res =>
      obtain ⟨p, l, rest⟩ := res
      rw [hf] at hspec
      obtain ⟨hl, hcs, -⟩ := hspec
      rw [hcs] at h hl hn
      rw [scanFrom_lexeme hl] at h
      by_cases hw : IntegerWithin l
      · rw [if_pos hw] at h
        have hlt : rest.length < n := by
          rw [← hn, List.length_append]
          have := List.length_pos_iff.2 hl.lexeme.ne_nil
          omega
        obtain ⟨segs, wn, hs, hws, rfl⟩ := ih _ hlt rfl h
        refine ⟨([], l) :: segs, wn, ?_, ?_, ?_⟩
        · rw [hcs]; exact .next (w := []) (by simp) hl hs
        · simpa [hw] using hws
        · simp [splitTokens]
      · rw [if_neg hw] at h; cases h
  · -- the text starts with a run of blanks, which the split's first run must be
    obtain ⟨w, rest, hcs, hwb, hwne, hrest⟩ := exists_blank_run (r := r) hc
    rw [hcs, scanFrom_blank hwb hwne hrest] at h
    have hlt : rest.length < n := by
      rw [← hn, hcs, List.length_append]
      have := List.length_pos_iff.2 hwne
      omega
    obtain ⟨segs, wn, hs, hws, rfl⟩ := ih _ hlt rfl h
    cases hs with
    | last hb' =>
      have hnil : rest = [] := by
        rcases rest with _ | ⟨d, r'⟩
        · rfl
        · exact absurd (hb' d List.mem_cons_self) (by simp [hrest d r' rfl])
      subst hnil
      refine ⟨[], w, ?_, by simp, ?_⟩
      · rw [hcs, List.append_nil]; exact .last hwb
      · simp [splitTokens]
    | @next w1 l1 rest1 _ segs1 hb1 hl1 hs1 =>
      have hnil : w1 = [] := by
        rcases w1 with _ | ⟨d, r'⟩
        · rfl
        · exact absurd (hb1 d List.mem_cons_self) (by simp [hrest d (r' ++ l1 ++ rest1) rfl])
      subst hnil
      refine ⟨(w, l1) :: segs1, wn, ?_, fun p hp => ?_, ?_⟩
      · rw [hcs]; simpa using Splits.next hwb hl1 hs1
      · rcases List.mem_cons.1 hp with rfl | hp
        · exact hws ([], l1) List.mem_cons_self
        · exact hws p (List.mem_cons_of_mem _ hp)
      · simp [splitTokens]


/-! ## Merging `not in` -/

theorem pairNotIn_cons_of_not {a : Token} (ha : isNotWord a.kv = false) (ts : List Token) :
    pairNotIn (a :: ts) = a :: pairNotIn ts := by
  rcases ts with _ | ⟨b, ts⟩ <;> simp [pairNotIn, ha]

/-- A left fold that merges a `not` keyword at the end of its accumulator with an `in` that
  comes next computes `pairNotIn`. -/
theorem foldl_eq_pairNotIn {F : Array Token → Token → Array Token}
    (hF : ∀ (X : Array Token) (a t : Token), F (X.push a) t =
      if isNotWord a.kv && t.kind == .inKw then X.push { a with kind := .notIn, value := .str "not in" }
      else (X.push a).push t)
    (hF0 : ∀ t, F #[] t = #[t]) (ts : List Token) : (ts.foldl F #[]).toList = pairNotIn ts := by
  -- the accumulator holds the merged prefix with its last token still open to merging
  have key : ∀ (ts : List Token) (X : Array Token) (a : Token),
      (ts.foldl F (X.push a)).toList = X.toList ++ pairNotIn (a :: ts) := by
    intro ts
    induction ts with
    | nil => intro X a; simp [pairNotIn]
    | cons t ts ih =>
      intro X a
      rw [List.foldl_cons, hF]
      by_cases hm : isNotWord a.kv && t.kind == .inKw
      · rw [if_pos hm, ih, pairNotIn_cons_of_not (by simp [isNotWord, Token.kv])]
        simp [pairNotIn, hm]
      · rw [if_neg hm, ih]
        simp [pairNotIn, hm]
  rcases ts with _ | ⟨t, ts⟩
  · rfl
  · rw [List.foldl_cons, hF0, ← Array.push_empty, key]
    simp

theorem mergeNotIn_eq_pairNotIn (ts : List Token) : mergeNotIn ts = pairNotIn ts := by
  unfold mergeNotIn
  apply foldl_eq_pairNotIn
  · intro X a t
    simp only [Array.back?_push]
    by_cases hk : t.kind = .inKw
    · simp only [hk, beq_self_eq_true, Bool.and_true, Array.pop_push]
      unfold isNotWord Token.kv
      split <;> simp_all
    · split
      · simp_all
      · simp [hk]
  · intro t
    split <;> simp_all


/-! ## Tokenizing a whole text -/

/-- Tokenizing succeeds exactly on the texts that split into blank runs and longest lexemes
  with no integer too long to read. The tokens are then those of the lexemes, each at the place
  it starts, then the end of input, with each `not` keyword that `in` follows merged with it. -/
theorem tokenize_eq_ok_iff (s : String) (ts : List Token) :
    tokenize s = .ok ts ↔ ∃ segs wn, Splits s.toList segs wn ∧ (∀ p ∈ segs, IntegerWithin p.2) ∧
      ts = pairNotIn (splitTokens ⟨0, 1, 0⟩ segs wn) := by
  constructor
  · intro h
    unfold tokenize at h
    split at h
    · cases h
    · rename_i out hout
      cases h
      obtain ⟨segs, wn, hs, hw, rfl⟩ := splits_of_scanFrom _ rfl hout
      exact ⟨segs, wn, hs, hw, by simp [mergeNotIn_eq_pairNotIn]⟩
  · rintro ⟨segs, wn, hs, hw, rfl⟩
    simp [tokenize, scanFrom_of_splits hs hw, mergeNotIn_eq_pairNotIn]

/-- Passing over blanks one at a time moves the cursor one place each. -/
theorem Cursor.foldl_passBlank_position (w : List Char) (cur : Cursor) :
    (w.foldl Cursor.passBlank cur).position = cur.position + w.length := by
  induction w generalizing cur with
  | nil => rfl
  | cons c w ih =>
    rw [List.foldl_cons, ih]
    by_cases hc : c = '\n' <;> simp [Cursor.passBlank, hc] <;> omega

/-- The tokens of a split text end with the end of input, placed after the whole text. -/
theorem Splits.last_token {cs wn : List Char} {segs : List (List Char × List Char)}
    (h : Splits cs segs wn) (cur : Cursor) :
    ∃ t, (splitTokens cur segs wn).getLast? = some t ∧ t.kind = .eof ∧
      t.position = cur.position + cs.length := by
  induction h generalizing cur with
  | last _ => exact ⟨_, rfl, rfl, Cursor.foldl_passBlank_position _ _⟩
  | @next w l rest wn segs _ _ _ ih =>
    obtain ⟨t, ht, hk, hp⟩ := ih { w.foldl Cursor.passBlank cur with
      position := (w.foldl Cursor.passBlank cur).position + l.length }
    refine ⟨t, by simp [splitTokens, List.getLast?_cons, ht], hk, ?_⟩
    rw [hp, Cursor.foldl_passBlank_position]
    simp only [List.length_append]
    omega

theorem pairNotIn_cons_ne_nil (a : Token) (ts : List Token) : pairNotIn (a :: ts) ≠ [] := by
  rcases ts with _ | ⟨b, ts⟩
  · simp [pairNotIn]
  · rw [pairNotIn]; split <;> simp

/-- Merging `not in` keeps a last token that is the end of input. -/
theorem pairNotIn_getLast? {ts : List Token} {t : Token} (h : ts.getLast? = some t)
    (hk : t.kind = .eof) : (pairNotIn ts).getLast? = some t := by
  induction ts using pairNotIn.induct with
  | case1 a b rest hm ih =>
    rw [pairNotIn, if_pos hm]
    rcases rest with _ | ⟨c, rest⟩
    · -- the `in` would be the end of input
      simp only [List.getLast?_cons_cons, List.getLast?_singleton, Option.some.injEq] at h
      subst h
      simp [hk] at hm
    · simp only [List.getLast?_cons_cons] at h
      rw [List.getLast?_cons_of_ne_nil (pairNotIn_cons_ne_nil _ _), ih h]
  | case2 a b rest hm ih =>
    rw [pairNotIn, if_neg hm, List.getLast?_cons_of_ne_nil (pairNotIn_cons_ne_nil _ _), ih (by simpa using h)]
  | case3 ts hts =>
    rcases ts with _ | ⟨a, _ | ⟨b, rest⟩⟩
    · simp at h
    · simpa [pairNotIn] using h
    · exact absurd rfl (hts a b rest)

/-- A tokenized text ends with the end-of-input token, placed at the text's length. -/
theorem tokenize_last_eof {s : String} {ts : List Token} (h : tokenize s = .ok ts) :
    ∃ t, ts.getLast? = some t ∧ t.kind = .eof ∧ t.position = s.length := by
  obtain ⟨segs, wn, hs, _, rfl⟩ := (tokenize_eq_ok_iff s ts).1 h
  obtain ⟨t, ht, hk, hp⟩ := hs.last_token ⟨0, 1, 0⟩
  exact ⟨t, pairNotIn_getLast? ht hk, hk, by simpa [String.length_toList] using hp⟩

/-- A run of digits is its own longest lexeme. -/
theorem longestLexeme_digits {ds : List Char} (hne : ds ≠ []) (hd : ∀ d ∈ ds, isDecimalDigit d) :
    LongestLexeme ds (ds ++ []) :=
  ⟨List.prefix_append _ _, .integer hne hd, fun _ h _ => by simpa using h.length_le⟩

/-- A text of more digits than an integer may have fails to tokenize. -/
theorem tokenize_digits_too_long {ds : List Char} (hne : ds ≠ []) (hd : ∀ d ∈ ds, isDecimalDigit d)
    (hlong : integerDigitLimit < ds.length) :
    tokenize (String.ofList ds) = .error (.integerTooLong ds.length) := by
  have hscan := scanFrom_lexeme (longestLexeme_digits hne hd) ⟨0, 1, 0⟩ #[]
  rw [if_neg (fun h => absurd (h hd) (by omega)), List.append_nil] at hscan
  rw [tokenize, String.toList_ofList, hscan]

/-- A text of 4301 digits is its own longest lexeme, yet tokenizing it fails: the integer has
  more digits than can be read. -/
theorem tokenize_long_integer_fails :
    Splits (List.replicate 4301 '1') [([], List.replicate 4301 '1')] [] ∧
      tokenize (String.ofList (List.replicate 4301 '1')) = .error (.integerTooLong 4301) := by
  have hne : List.replicate 4301 '1' ≠ [] :=
    List.ne_nil_of_length_pos (by rw [List.length_replicate]; omega)
  have hd : ∀ d ∈ List.replicate 4301 '1', isDecimalDigit d := fun d h => by
    rw [List.eq_of_mem_replicate h]; decide
  have hs := Splits.next (w := []) (fun _ h => absurd h List.not_mem_nil)
    (longestLexeme_digits hne hd) (Splits.last (w := []) (fun _ h => absurd h List.not_mem_nil))
  rw [List.nil_append, List.append_nil] at hs
  refine ⟨hs, ?_⟩
  have hfail := tokenize_digits_too_long hne hd (by rw [List.length_replicate]; decide)
  rwa [List.length_replicate] at hfail

end FieldRules.Lang
