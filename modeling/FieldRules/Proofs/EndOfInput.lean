import Mathlib
import FieldRules.Proofs.Positions
import FieldRules.Proofs.Tokenize

/-! # The reader stops at the end of input

The lexer ends every token list with the end-of-input token (`tokenize_last_eof`). The
recursive descent never reads past it. No reader consumes a token of that kind, so a reader run
on tokens that hold one gives the same answer when more tokens follow (`Within`, proved of every
reader by one induction along their own recursion: `parseLevel_within` and the readers mutual
with it); and the end offset, which only the fallback for an exhausted list uses, is never
read. So a program is read alike from its tokens with anything after them and any end offset
(`parseTokens_append_after_end`).

Every reader of an expression consumes at least one token before it returns
(`parseLevel_consumes`), and so do the readers of a primary expression and of an object entry,
which consume the token they start with. Each loop of the descent, over statements, operators of
one level, postfix operators and the items of a list, and each re-entry into the reader of a
whole expression or of a unary one, comes after a consumed token, so reading ends: the length
checks of the readers, which make their recursion well founded, always pass, and the readers
run as the recursive descent with no checks (`GuardsPass`).

`parse_stops_at_end_of_input` gathers these for the tokens of a text.
-/

namespace FieldRules.Lang

/-! ## Reading up to the end of input -/

/-- Some token of the list ends the input. -/
def HoldsEnd (ts : Tokens) : Prop := ∃ t ∈ ts, t.kind = .eof

/-- `rest` is what is left of `ts` after reading tokens none of which ends the input. -/
def ReadsTo (ts rest : Tokens) : Prop := ∃ pre, ts = pre ++ rest ∧ ∀ t ∈ pre, t.kind ≠ .eof

namespace ReadsTo

theorem refl (ts : Tokens) : ReadsTo ts ts := ⟨[], rfl, by simp⟩

theorem cons {t : Token} {ts rest : Tokens} (h : ReadsTo ts rest) (ht : t.kind ≠ .eof) :
    ReadsTo (t :: ts) rest := by
  obtain ⟨pre, rfl, hpre⟩ := h
  exact ⟨t :: pre, rfl, List.forall_mem_cons.2 ⟨ht, hpre⟩⟩

theorem trans {a b c : Tokens} (h₁ : ReadsTo a b) (h₂ : ReadsTo b c) : ReadsTo a c := by
  obtain ⟨p, rfl, hp⟩ := h₁
  obtain ⟨q, rfl, hq⟩ := h₂
  exact ⟨p ++ q, by simp, fun t ht => (List.mem_append.1 ht).elim (hp t) (hq t)⟩

theorem length_le {ts rest : Tokens} (h : ReadsTo ts rest) : rest.length ≤ ts.length := by
  obtain ⟨pre, rfl, -⟩ := h
  simp

end ReadsTo

namespace HoldsEnd

theorem ne_nil {ts : Tokens} (h : HoldsEnd ts) : ts ≠ [] := by
  rintro rfl
  obtain ⟨t, ht, -⟩ := h
  exact List.not_mem_nil ht

theorem tail {t : Token} {rest : Tokens} (h : HoldsEnd (t :: rest)) (ht : t.kind ≠ .eof) :
    HoldsEnd rest := by
  obtain ⟨u, hu, hk⟩ := h
  rcases List.mem_cons.1 hu with rfl | hu
  · exact absurd hk ht
  · exact ⟨u, hu, hk⟩

/-- What is left after reading no end of input still holds it. -/
theorem of_readsTo {ts rest : Tokens} (h : HoldsEnd ts) (hr : ReadsTo ts rest) : HoldsEnd rest := by
  obtain ⟨pre, rfl, hpre⟩ := hr
  obtain ⟨u, hu, hk⟩ := h
  rcases List.mem_append.1 hu with hu | hu
  · exact absurd hk (hpre u hu)
  · exact ⟨u, hu, hk⟩

end HoldsEnd

/-- A reader's run on tokens `ts` that hold the end of input (`r₂`) and on `ts ++ more` (`r₁`):
  the same failure, or the same result with `more` after what is left, having read no end of
  input. -/
def Within {α : Type} (ts more : Tokens) (r₁ r₂ : Except ParseError (α × Tokens)) : Prop :=
  (∃ x rest, r₂ = .ok (x, rest) ∧ ReadsTo ts rest ∧ r₁ = .ok (x, rest ++ more)) ∨
  (∃ e, r₂ = .error e ∧ r₁ = .error e)

namespace Within

variable {α : Type} {ts more : Tokens}

theorem ok (x : α) {rest : Tokens} (h : ReadsTo ts rest) :
    Within ts more (.ok (x, rest ++ more)) (.ok (x, rest)) :=
  .inl ⟨x, rest, rfl, h, rfl⟩

theorem error (e : ParseError) : Within (α := α) ts more (.error e) (.error e) :=
  .inr ⟨e, rfl, rfl⟩

/-- A run within what is left after reading no end of input is a run within the whole. -/
theorem of_readsTo {rest : Tokens} {r₁ r₂ : Except ParseError (α × Tokens)}
    (h : Within rest more r₁ r₂) (hr : ReadsTo ts rest) : Within ts more r₁ r₂ := by
  rcases h with ⟨x, rest', h₂, hr', h₁⟩ | herr
  · exact .inl ⟨x, rest', h₂, hr.trans hr', h₁⟩
  · exact .inr herr

end Within

theorem unexpectedAt_append {ts : Tokens} (h : ts ≠ []) (p₁ p₂ : Nat) (more : Tokens) :
    unexpectedAt p₁ (ts ++ more) = unexpectedAt p₂ ts := by
  obtain ⟨t, rest, rfl⟩ := List.exists_cons_of_ne_nil h
  rfl

theorem binOpAt_ne_eof {j : Nat} {k : TokenKind} {op : BinOp} (h : binOpAt j k = some op) :
    k ≠ .eof := by
  rintro rfl
  rw [binOpAt_of_closer rfl] at h
  cases h

/-- The length checks of the readers decide alike on `ts` and on `ts ++ more`, and when they fail,
  they fail at the same token. -/
theorem Within.dite {α : Type} {ts more rest : Tokens} {c₁ c₂ : Prop} [Decidable c₁] [Decidable c₂]
    (hc : c₁ ↔ c₂) (hne : rest ≠ []) (p₁ p₂ : Nat) {r₁ r₂ : Except ParseError (α × Tokens)}
    (h : c₂ → Within ts more r₁ r₂) :
    Within ts more (if _ : c₁ then r₁ else .error (unexpectedAt p₁ (rest ++ more)))
      (if _ : c₂ then r₂ else .error (unexpectedAt p₂ rest)) := by
  by_cases h₂ : c₂
  · rw [dif_pos (hc.2 h₂), dif_pos h₂]
    exact h h₂
  · rw [dif_neg (mt hc.1 h₂), dif_neg h₂, unexpectedAt_append hne p₁ p₂]
    exact .error _

/-! ## Every reader -/

section Readers

variable (p₁ p₂ : Nat) (more : Tokens)

mutual

theorem parseLevel_within (level : Nat) (ts : Tokens) (h : HoldsEnd ts) :
    Within ts more (parseLevel p₁ level (ts ++ more)) (parseLevel p₂ level ts) := by
  rw [parseLevel.eq_def p₁, parseLevel.eq_def p₂]
  by_cases hl : level < 5
  · simp only [hl, dif_pos]
    rcases parseLevel_within (level + 1) ts h with ⟨lhs, rest, h₂, hr, h₁⟩ | ⟨e, h₂, h₁⟩
    · simp only [h₁, h₂]
      exact Within.dite (by simp) (h.of_readsTo hr).ne_nil p₁ p₂ fun hlt =>
        (parseLevelRest_within level lhs rest (h.of_readsTo hr)).of_readsTo hr
    · simp only [h₁, h₂]
      exact .error e
  · simp only [hl, dif_neg, not_false_eq_true]
    exact parseUnary_within ts h
termination_by (ts.length, 3 * (6 - level) + 3)
decreasing_by all_goals (apply lex_lt; omega)

theorem parseLevelRest_within (level : Nat) (lhs : Expr) (ts : Tokens) (h : HoldsEnd ts) :
    Within ts more (parseLevelRest p₁ level lhs (ts ++ more)) (parseLevelRest p₂ level lhs ts) := by
  obtain ⟨t, rest, rfl⟩ := List.exists_cons_of_ne_nil h.ne_nil
  rw [List.cons_append, parseLevelRest.eq_def p₁, parseLevelRest.eq_def p₂]
  dsimp only
  cases hop : binOpAt level t.kind with
  | none => exact .ok lhs (.refl _)
  | some op =>
    -- an operator of the level: read the next operand and go on from what it leaves
    have ht := binOpAt_ne_eof hop
    have hrest := h.tail ht
    rcases parseLevel_within (level + 1) rest hrest with ⟨rhs, rest', h₂, hr, h₁⟩ | ⟨e, h₂, h₁⟩
    · simp only [h₁, h₂]
      exact Within.dite (by simp) (hrest.of_readsTo hr).ne_nil p₁ p₂ fun hle =>
        (parseLevelRest_within level _ rest' (hrest.of_readsTo hr)).of_readsTo (hr.cons ht)
    · simp only [h₁, h₂]
      exact .error e
termination_by (ts.length, 3 * (6 - level) + 2)
decreasing_by all_goals (subst_vars; apply lex_lt; simp -failIfUnchanged only [List.length_cons]; omega)

theorem parseUnary_within (ts : Tokens) (h : HoldsEnd ts) :
    Within ts more (parseUnary p₁ (ts ++ more)) (parseUnary p₂ ts) := by
  obtain ⟨t, rest, rfl⟩ := List.exists_cons_of_ne_nil h.ne_nil
  have hpost := parsePostfix_within (t :: rest) h
  rw [List.cons_append] at hpost ⊢
  rw [parseUnary.eq_def p₁, parseUnary.eq_def p₂]
  dsimp only
  -- `!` and `-` read one more unary expression; anything else is a postfix expression
  by_cases hn : t.kind = .not
  · have hrest := h.tail (by rw [hn]; decide)
    simp only [hn, beq_self_eq_true, if_true]
    rcases parseUnary_within rest hrest with ⟨a, rest', h₂, hr, h₁⟩ | ⟨e, h₂, h₁⟩
    · simp only [h₁, h₂]
      exact .ok _ (hr.cons (by rw [hn]; decide))
    · simp only [h₁, h₂]
      exact .error e
  by_cases hm : t.kind = .minus
  · have hrest := h.tail (by rw [hm]; decide)
    simp only [hm, beq_self_eq_true, if_true, reduceCtorEq, beq_iff_eq, if_false]
    rcases parseUnary_within rest hrest with ⟨a, rest', h₂, hr, h₁⟩ | ⟨e, h₂, h₁⟩
    · simp only [h₁, h₂]
      exact .ok _ (hr.cons (by rw [hm]; decide))
    · simp only [h₁, h₂]
      exact .error e
  simp only [hn, hm, beq_iff_eq, if_false]
  exact hpost
termination_by (ts.length, 2)
decreasing_by all_goals (subst_vars; apply lex_lt; simp -failIfUnchanged only [List.length_cons, true_and]; omega)

theorem parsePostfix_within (ts : Tokens) (h : HoldsEnd ts) :
    Within ts more (parsePostfix p₁ (ts ++ more)) (parsePostfix p₂ ts) := by
  rw [parsePostfix.eq_def p₁, parsePostfix.eq_def p₂]
  rcases parsePrimary_within ts h with ⟨a, rest, h₂, hr, h₁⟩ | ⟨e, h₂, h₁⟩
  · simp only [h₁, h₂]
    exact Within.dite (by simp) (h.of_readsTo hr).ne_nil p₁ p₂ fun hlt =>
      (parsePostfixRest_within a rest (h.of_readsTo hr)).of_readsTo hr
  · simp only [h₁, h₂]
    exact .error e
termination_by (ts.length, 1)
decreasing_by all_goals (apply lex_lt; omega)

theorem parsePostfixRest_within (e : Expr) (ts : Tokens) (h : HoldsEnd ts) :
    Within ts more (parsePostfixRest p₁ e (ts ++ more)) (parsePostfixRest p₂ e ts) := by
  obtain ⟨t, rest, rfl⟩ := List.exists_cons_of_ne_nil h.ne_nil
  rw [List.cons_append, parsePostfixRest.eq_def p₁, parsePostfixRest.eq_def p₂]
  dsimp only
  by_cases hte : t.kind = .eof
  · simp only [hte]
    exact .ok e (.refl _)
  have hrest := h.tail hte
  split
  · -- a member name after a dot
    obtain ⟨m, rest', rfl⟩ := List.exists_cons_of_ne_nil hrest.ne_nil
    rw [List.cons_append]
    dsimp only
    by_cases hm : m.kind = .identifier
    · simp only [hm, beq_self_eq_true, if_true]
      exact (parsePostfixRest_within _ rest' (hrest.tail (by rw [hm]; decide))).of_readsTo
        (((ReadsTo.refl rest').cons (by rw [hm]; decide)).cons hte)
    · simp only [hm, beq_iff_eq, if_false]
      exact .error _
  · -- an index in brackets
    rcases parseLevel_within 0 rest hrest with ⟨key, rest', h₂, hr, h₁⟩ | ⟨err, h₂, h₁⟩
    · simp only [h₁, h₂]
      have hrest' := hrest.of_readsTo hr
      obtain ⟨c, rest'', rfl⟩ := List.exists_cons_of_ne_nil hrest'.ne_nil
      rw [List.cons_append]
      dsimp only
      by_cases hc : c.kind = .rbracket
      · simp only [hc, beq_self_eq_true, if_true]
        have hr' : ReadsTo (t :: rest) rest'' := (hr.trans ((ReadsTo.refl _).cons
          (by rw [hc]; decide))).cons hte
        exact Within.dite (by simp) (hrest'.tail (by rw [hc]; decide)).ne_nil p₁ p₂ fun hle =>
          (parsePostfixRest_within _ rest'' (hrest'.tail (by rw [hc]; decide))).of_readsTo hr'
      · simp only [hc, beq_iff_eq, if_false]
        exact .error _
    · simp only [h₁, h₂]
      exact .error err
  · -- a call, after a bare name
    split
    · rcases parseItems_within .rparen (by decide) rest hrest with
        ⟨args, rest', h₂, hr, h₁⟩ | ⟨err, h₂, h₁⟩
      · simp only [h₁, h₂]
        exact Within.dite (by simp) (hrest.of_readsTo hr).ne_nil p₁ p₂ fun hle =>
          (parsePostfixRest_within _ rest' (hrest.of_readsTo hr)).of_readsTo (hr.cons hte)
      · simp only [h₁, h₂]
        exact .error err
    · exact .ok e (.refl _)
  · exact .ok e (.refl _)
termination_by (ts.length, 3)
decreasing_by all_goals (subst_vars; apply lex_lt; simp -failIfUnchanged only [List.length_cons]; omega)

theorem parsePrimary_within (ts : Tokens) (h : HoldsEnd ts) :
    Within ts more (parsePrimary p₁ (ts ++ more)) (parsePrimary p₂ ts) := by
  obtain ⟨t, rest, rfl⟩ := List.exists_cons_of_ne_nil h.ne_nil
  rw [List.cons_append, parsePrimary.eq_def p₁, parsePrimary.eq_def p₂]
  dsimp only
  by_cases hte : t.kind = .eof
  · -- the end of input starts no expression
    simp only [hte]
    rw [← List.cons_append, unexpectedAt_append (List.cons_ne_nil t rest) p₁ p₂]
    exact .error _
  have hrest := h.tail hte
  have hread := (ReadsTo.refl rest).cons hte
  split
  · exact .ok _ hread
  · exact .ok _ hread
  · exact .ok _ hread
  · exact .ok _ hread
  · exact .ok _ hread
  · -- a parenthesised expression
    rcases parseLevel_within 0 rest hrest with ⟨a, rest', h₂, hr, h₁⟩ | ⟨e, h₂, h₁⟩
    · simp only [h₁, h₂]
      have hrest' := hrest.of_readsTo hr
      obtain ⟨c, rest'', rfl⟩ := List.exists_cons_of_ne_nil hrest'.ne_nil
      rw [List.cons_append]
      dsimp only
      by_cases hc : c.kind = .rparen
      · simp only [hc, beq_self_eq_true, if_true]
        exact .ok _ ((hr.trans ((ReadsTo.refl _).cons (by rw [hc]; decide))).cons hte)
      · simp only [hc, beq_iff_eq, if_false]
        exact .error _
    · simp only [h₁, h₂]
      exact .error e
  · rcases parseItems_within .rbracket (by decide) rest hrest with
      ⟨a, rest', h₂, hr, h₁⟩ | ⟨e, h₂, h₁⟩
    · simp only [h₁, h₂]
      exact .ok _ (hr.cons hte)
    · simp only [h₁, h₂]
      exact .error e
  · rcases parsePairs_within rest hrest with ⟨a, rest', h₂, hr, h₁⟩ | ⟨e, h₂, h₁⟩
    · simp only [h₁, h₂]
      exact .ok _ (hr.cons hte)
    · simp only [h₁, h₂]
      exact .error e
  · rw [← List.cons_append, unexpectedAt_append (List.cons_ne_nil t rest) p₁ p₂]
    exact .error _
termination_by (ts.length, 0)
decreasing_by all_goals (subst_vars; apply lex_lt; simp -failIfUnchanged only [List.length_cons]; omega)

theorem parseItems_within (closing : TokenKind) (hc : closing ≠ .eof) (ts : Tokens)
    (h : HoldsEnd ts) :
    Within ts more (parseItems p₁ closing (ts ++ more)) (parseItems p₂ closing ts) := by
  obtain ⟨t, rest, rfl⟩ := List.exists_cons_of_ne_nil h.ne_nil
  have hfirst := parseLevel_within 0 (t :: rest) h
  rw [List.cons_append] at hfirst ⊢
  rw [parseItems.eq_def p₁, parseItems.eq_def p₂]
  dsimp only
  by_cases hclose : t.kind = closing
  · simp only [hclose, beq_self_eq_true, if_true]
    exact .ok _ ((ReadsTo.refl rest).cons (hclose ▸ hc))
  simp only [hclose, beq_iff_eq, if_false]
  rcases hfirst with ⟨a, rest', h₂, hr, h₁⟩ | ⟨e, h₂, h₁⟩
  · simp only [h₁, h₂]
    exact Within.dite (by simp) (h.of_readsTo hr).ne_nil p₁ p₂ fun hlt =>
      (parseItemsRest_within closing hc [a] rest' (h.of_readsTo hr)).of_readsTo hr
  · simp only [h₁, h₂]
    exact .error e
termination_by (ts.length, 30)
decreasing_by all_goals (subst_vars; apply lex_lt; simp only [List.length_cons, true_and] at *; omega)

theorem parseItemsRest_within (closing : TokenKind) (hc : closing ≠ .eof) (acc : List Expr)
    (ts : Tokens) (h : HoldsEnd ts) :
    Within ts more (parseItemsRest p₁ closing acc (ts ++ more))
      (parseItemsRest p₂ closing acc ts) := by
  obtain ⟨t, rest, rfl⟩ := List.exists_cons_of_ne_nil h.ne_nil
  rw [List.cons_append, parseItemsRest.eq_def p₁, parseItemsRest.eq_def p₂]
  dsimp only
  by_cases hcomma : t.kind = .comma
  · -- a comma: one more item
    have hte : t.kind ≠ .eof := by rw [hcomma]; decide
    have hrest := h.tail hte
    simp only [hcomma, beq_self_eq_true, if_true]
    rcases parseLevel_within 0 rest hrest with ⟨a, rest', h₂, hr, h₁⟩ | ⟨e, h₂, h₁⟩
    · simp only [h₁, h₂]
      exact Within.dite (by simp) (hrest.of_readsTo hr).ne_nil p₁ p₂ fun hle =>
        (parseItemsRest_within closing hc _ rest' (hrest.of_readsTo hr)).of_readsTo
          (hr.cons hte)
    · simp only [h₁, h₂]
      exact .error e
  simp only [hcomma, beq_iff_eq, if_false]
  by_cases hclose : t.kind = closing
  · simp only [hclose, if_true]
    exact .ok _ ((ReadsTo.refl rest).cons (hclose ▸ hc))
  · simp only [hclose, if_false]
    exact .error _
termination_by (ts.length, 29)
decreasing_by all_goals (subst_vars; apply lex_lt; simp -failIfUnchanged only [List.length_cons]; omega)

theorem parsePair_within (ts : Tokens) (h : HoldsEnd ts) :
    Within ts more (parsePair p₁ (ts ++ more)) (parsePair p₂ ts) := by
  obtain ⟨t, rest, rfl⟩ := List.exists_cons_of_ne_nil h.ne_nil
  rw [List.cons_append, parsePair.eq_def p₁, parsePair.eq_def p₂]
  dsimp only
  by_cases hkey : t.kind = .string ∨ t.kind = .identifier
  · -- a key, then a colon and the value
    have hte : t.kind ≠ .eof := by rcases hkey with hk | hk <;> rw [hk] <;> decide
    have hrest := h.tail hte
    have hkey' : (t.kind == .string || t.kind == .identifier) = true := by
      rcases hkey with hk | hk <;> simp [hk]
    simp only [hkey', if_true]
    obtain ⟨c, rest', rfl⟩ := List.exists_cons_of_ne_nil hrest.ne_nil
    rw [List.cons_append]
    dsimp only
    by_cases hc : c.kind = .colon
    · have hce : c.kind ≠ .eof := by rw [hc]; decide
      simp only [hc, beq_self_eq_true, if_true]
      rcases parseLevel_within 0 rest' (hrest.tail hce) with ⟨v, rest'', h₂, hr, h₁⟩ | ⟨e, h₂, h₁⟩
      · simp only [h₁, h₂]
        exact .ok _ ((hr.cons hce).cons hte)
      · simp only [h₁, h₂]
        exact .error e
    · simp only [hc, beq_iff_eq, if_false]
      exact .error _
  · have hkey' : (t.kind == .string || t.kind == .identifier) = false := by
      simpa [not_or] using hkey
    simp only [hkey', Bool.false_eq_true, if_false]
    exact .error _
termination_by (ts.length, 30)
decreasing_by all_goals (subst_vars; apply lex_lt; simp -failIfUnchanged only [List.length_cons]; omega)

theorem parsePairs_within (ts : Tokens) (h : HoldsEnd ts) :
    Within ts more (parsePairs p₁ (ts ++ more)) (parsePairs p₂ ts) := by
  obtain ⟨t, rest, rfl⟩ := List.exists_cons_of_ne_nil h.ne_nil
  have hfirst := parsePair_within (t :: rest) h
  rw [List.cons_append] at hfirst ⊢
  rw [parsePairs.eq_def p₁, parsePairs.eq_def p₂]
  dsimp only
  by_cases hclose : t.kind = .rbrace
  · simp only [hclose, beq_self_eq_true, if_true]
    exact .ok _ ((ReadsTo.refl rest).cons (by rw [hclose]; decide))
  simp only [hclose, beq_iff_eq, if_false]
  rcases hfirst with ⟨⟨k, v⟩, rest', h₂, hr, h₁⟩ | ⟨e, h₂, h₁⟩
  · simp only [h₁, h₂]
    exact Within.dite (by simp) (h.of_readsTo hr).ne_nil p₁ p₂ fun hlt =>
      (parsePairsRest_within _ rest' (h.of_readsTo hr)).of_readsTo hr
  · simp only [h₁, h₂]
    exact .error e
termination_by (ts.length, 31)
decreasing_by all_goals (subst_vars; apply lex_lt; simp only [List.length_cons, true_and] at *; omega)

theorem parsePairsRest_within (acc : List (String × Expr)) (ts : Tokens) (h : HoldsEnd ts) :
    Within ts more (parsePairsRest p₁ acc (ts ++ more)) (parsePairsRest p₂ acc ts) := by
  obtain ⟨t, rest, rfl⟩ := List.exists_cons_of_ne_nil h.ne_nil
  rw [List.cons_append, parsePairsRest.eq_def p₁, parsePairsRest.eq_def p₂]
  dsimp only
  by_cases hcomma : t.kind = .comma
  · -- a comma: one more entry
    have hte : t.kind ≠ .eof := by rw [hcomma]; decide
    have hrest := h.tail hte
    simp only [hcomma, beq_self_eq_true, if_true]
    rcases parsePair_within rest hrest with ⟨⟨k, v⟩, rest', h₂, hr, h₁⟩ | ⟨e, h₂, h₁⟩
    · simp only [h₁, h₂]
      exact Within.dite (by simp) (hrest.of_readsTo hr).ne_nil p₁ p₂ fun hle =>
        (parsePairsRest_within _ rest' (hrest.of_readsTo hr)).of_readsTo (hr.cons hte)
    · simp only [h₁, h₂]
      exact .error e
  simp only [hcomma, beq_iff_eq, if_false]
  by_cases hclose : t.kind = .rbrace
  · simp only [hclose, if_true]
    exact .ok _ ((ReadsTo.refl rest).cons (by rw [hclose]; decide))
  · simp only [hclose, if_false]
    exact .error _
termination_by (ts.length, 29)
decreasing_by all_goals (subst_vars; apply lex_lt; simp -failIfUnchanged only [List.length_cons]; omega)

end

end Readers

/-! ## Statements and programs -/

theorem peekKind_append {ts : Tokens} (h : ts ≠ []) (more : Tokens) :
    peekKind (ts ++ more) = peekKind ts := by
  obtain ⟨t, rest, rfl⟩ := List.exists_cons_of_ne_nil h
  rfl

theorem peekPos_append {ts : Tokens} (h : ts ≠ []) (p₁ p₂ : Nat) (more : Tokens) :
    peekPos p₁ (ts ++ more) = peekPos p₂ ts := by
  obtain ⟨t, rest, rfl⟩ := List.exists_cons_of_ne_nil h
  rfl

section Statements

variable (p₁ p₂ : Nat) (more : Tokens)

theorem parseStatement_within (ts : Tokens) (h : HoldsEnd ts) :
    Within ts more (parseStatement p₁ (ts ++ more)) (parseStatement p₂ ts) := by
  obtain ⟨t, rest, rfl⟩ := List.exists_cons_of_ne_nil h.ne_nil
  have hexpr := parseLevel_within p₁ p₂ more 0 (t :: rest) h
  rw [List.cons_append] at hexpr ⊢
  unfold parseStatement
  by_cases hlet : t.kind = .letKw
  · -- a binding: `let`, a name, `=` and an expression
    have hte : t.kind ≠ .eof := by rw [hlet]; decide
    have hrest := h.tail hte
    simp only [hlet, beq_self_eq_true, if_true]
    obtain ⟨n, rest', rfl⟩ := List.exists_cons_of_ne_nil hrest.ne_nil
    rw [List.cons_append]
    dsimp only
    by_cases hn : n.kind = .identifier
    · have hne : n.kind ≠ .eof := by rw [hn]; decide
      have hrest' := hrest.tail hne
      simp only [hn, beq_self_eq_true, if_true]
      obtain ⟨a, rest'', rfl⟩ := List.exists_cons_of_ne_nil hrest'.ne_nil
      rw [List.cons_append]
      dsimp only
      by_cases ha : a.kind = .assign
      · have hae : a.kind ≠ .eof := by rw [ha]; decide
        simp only [ha, beq_self_eq_true, if_true]
        rcases parseLevel_within p₁ p₂ more 0 rest'' (hrest'.tail hae) with
          ⟨v, r, h₂, hr, h₁⟩ | ⟨e, h₂, h₁⟩
        · simp only [h₁, h₂]
          exact .ok _ (((hr.cons hae).cons hne).cons hte)
        · simp only [h₁, h₂]
          exact .error e
      · simp only [ha, beq_iff_eq, if_false]
        exact .error _
    · simp only [hn, beq_iff_eq, if_false]
      exact .error _
  · simp only [hlet, beq_iff_eq, if_false]
    rcases hexpr with ⟨e, r, h₂, hr, h₁⟩ | ⟨err, h₂, h₁⟩
    · simp only [h₁, h₂]
      exact .ok _ hr
    · simp only [h₁, h₂]
      exact .error err

theorem parseMoreStatements_within (acc : List Statement) (ts : Tokens) (h : HoldsEnd ts) :
    Within ts more (parseMoreStatements p₁ acc (ts ++ more)) (parseMoreStatements p₂ acc ts) := by
  obtain ⟨t, rest, rfl⟩ := List.exists_cons_of_ne_nil h.ne_nil
  rw [List.cons_append, parseMoreStatements.eq_def p₁, parseMoreStatements.eq_def p₂]
  dsimp only
  by_cases hsemi : t.kind = .semicolon
  · -- a semicolon: the end of input closes the program, anything else is one more statement
    have hte : t.kind ≠ .eof := by rw [hsemi]; decide
    have hrest := h.tail hte
    simp only [hsemi, beq_self_eq_true, if_true, peekKind_append hrest.ne_nil]
    by_cases hend : peekKind rest = .eof
    · simp only [hend, beq_self_eq_true, if_true]
      exact .ok _ ((ReadsTo.refl rest).cons hte)
    · simp only [hend, beq_iff_eq, if_false]
      rcases parseStatement_within p₁ p₂ more rest hrest with
        ⟨st, rest', h₂, hr, h₁⟩ | ⟨e, h₂, h₁⟩
      · simp only [h₁, h₂]
        exact Within.dite (by simp) (hrest.of_readsTo hr).ne_nil p₁ p₂ fun hle =>
          (parseMoreStatements_within _ rest' (hrest.of_readsTo hr)).of_readsTo (hr.cons hte)
      · simp only [h₁, h₂]
        exact .error e
  · simp only [hsemi, beq_iff_eq, if_false]
    exact .ok _ (.refl _)
termination_by ts.length
decreasing_by subst_vars; simp only [List.length_cons]; omega

end Statements

/-- A program is read alike from tokens that hold the end of input and from the same tokens
  followed by any others, and the end offset of the text does not matter: no reader reads past
  the end of input, nor runs out of tokens. -/
theorem parseTokens_append_after_end {ts : Tokens} (h : HoldsEnd ts) (p₁ p₂ : Nat)
    (more : Tokens) : parseTokens p₁ (ts ++ more) = parseTokens p₂ ts := by
  unfold parseTokens
  rw [peekKind_append h.ne_nil, peekPos_append h.ne_nil p₁ p₂]
  split
  · rfl
  rcases parseStatement_within p₁ p₂ more ts h with ⟨st, rest, h₂, hr, h₁⟩ | ⟨e, h₂, h₁⟩
  · simp only [h₁, h₂]
    have hrest := h.of_readsTo hr
    rcases parseMoreStatements_within p₁ p₂ more [st] rest hrest with
      ⟨stmts, rest', h₂', hr', h₁'⟩ | ⟨e, h₂', h₁'⟩
    · have hend := (hrest.of_readsTo hr').ne_nil
      simp only [h₁', h₂', peekKind_append hend, unexpectedAt_append hend p₁ p₂]
    · simp only [h₁', h₂']
  · simp only [h₁, h₂]

/-! ## Progress -/

theorem Within.readsTo {α : Type} {ts more : Tokens} {r₁ r₂ : Except ParseError (α × Tokens)}
    (h : Within ts more r₁ r₂) {x : α} {rest : Tokens} (hok : r₂ = .ok (x, rest)) :
    ReadsTo ts rest := by
  rcases h with ⟨x', rest', h₂, hr, -⟩ | ⟨e, h₂, -⟩
  · rw [hok] at h₂
    cases h₂
    exact hr
  · rw [hok] at h₂
    cases h₂

/-- Nothing reads as an expression from no tokens. -/
theorem parseLevel_nil (p : Nat) (level : Nat) : ∃ e, parseLevel p level [] = .error e := by
  induction hd : 5 - level generalizing level with
  | zero =>
    rw [parseLevel.eq_def, dif_neg (by omega), parseUnary.eq_def, parsePostfix.eq_def,
      parsePrimary.eq_def]
    exact ⟨_, rfl⟩
  | succ d ih =>
    obtain ⟨e, he⟩ := ih (level + 1) (by omega)
    rw [parseLevel.eq_def, dif_pos (by omega), he]
    exact ⟨e, rfl⟩

/-- A unary expression read after a token that is not the end of input leaves fewer tokens than
  there were with that token. -/
theorem parseUnary_after_shortens {p : Nat} {t : Token} {r rest : Tokens} {a : Expr}
    (h : HoldsEnd (t :: r)) (ht : t.kind ≠ .eof) (hok : parseUnary p r = .ok (a, rest)) :
    rest.length < (t :: r).length := by
  have hr := (parseUnary_within p p [] r (h.tail ht)).readsTo hok
  rw [List.length_cons]
  exact Nat.lt_succ_of_le hr.length_le

/-- Reading an expression of any level, down to a unary one, consumes at least one token: the
  primary reader consumes the token it starts with, and the length checks above it pass on
  what it leaves. -/
theorem parseLevel_shortens {p level : Nat} {ts rest : Tokens} {e : Expr} (h : HoldsEnd ts)
    (hok : parseLevel p level ts = .ok (e, rest)) : rest.length < ts.length := by
  rw [parseLevel.eq_def] at hok
  split at hok
  · -- a binary level: the operand read first is shorter, and the operators after it only consume
    split at hok
    · cases hok
    · rename_i lhs rest₀ hfirst
      split at hok
      · rename_i hlt
        have hr := (parseLevelRest_within p p [] _ lhs rest₀ (h.of_readsTo
          ((parseLevel_within p p [] _ ts h).readsTo hfirst))).readsTo hok
        exact lt_of_le_of_lt hr.length_le hlt
      · cases hok
  · -- a unary expression
    obtain ⟨t, r, rfl⟩ := List.exists_cons_of_ne_nil h.ne_nil
    rw [parseUnary.eq_def] at hok
    dsimp only at hok
    -- `!` and `-` consume themselves before the operand
    split at hok
    · split at hok
      · cases hok
      · rename_i a rest₀ hinner
        cases hok
        exact parseUnary_after_shortens h (by simp_all) hinner
    split at hok
    · split at hok
      · cases hok
      · rename_i a rest₀ hinner
        cases hok
        exact parseUnary_after_shortens h (by simp_all) hinner
    · rw [parsePostfix.eq_def] at hok
      split at hok
      · cases hok
      · rename_i a rest₀ hprim
        split at hok
        · rename_i hlt
          have hr := (parsePostfixRest_within p p [] a rest₀ (h.of_readsTo
            ((parsePrimary_within p p [] _ h).readsTo hprim))).readsTo hok
          exact lt_of_le_of_lt hr.length_le hlt
        · cases hok

/-- Reading an expression of any level consumes at least one token, and no end of input. -/
theorem parseLevel_consumes {p level : Nat} {ts rest : Tokens} {e : Expr} (h : HoldsEnd ts)
    (hok : parseLevel p level ts = .ok (e, rest)) :
    ∃ pre, pre ≠ [] ∧ (∀ t ∈ pre, t.kind ≠ .eof) ∧ ts = pre ++ rest := by
  obtain ⟨pre, hts, hpre⟩ := (parseLevel_within p p [] level ts h).readsTo hok
  refine ⟨pre, ?_, hpre, hts⟩
  rintro rfl
  have := parseLevel_shortens h hok
  rw [hts, List.nil_append] at this
  exact lt_irrefl _ this

/-- Reading no end of input up to a token that is not one reads up to what follows it. -/
theorem ReadsTo.past {ts rest : Tokens} {c : Token} (h : ReadsTo ts (c :: rest))
    (hc : c.kind ≠ .eof) : ReadsTo ts rest :=
  h.trans ((ReadsTo.refl rest).cons hc)

/-- The primary reader consumes the token it starts with: what it leaves is read from the tokens
  after that one. -/
theorem parsePrimary_consumes_first {p : Nat} {t : Token} {r rest : Tokens} {e : Expr}
    (h : HoldsEnd (t :: r)) (hok : parsePrimary p (t :: r) = .ok (e, rest)) : ReadsTo r rest := by
  rw [parsePrimary.eq_def] at hok
  dsimp only at hok
  by_cases hte : t.kind = .eof
  · simp only [hte] at hok
    cases hok
  have hr := h.tail hte
  split at hok
  -- a literal or a name is the token itself
  · cases hok; exact .refl r
  · cases hok; exact .refl r
  · cases hok; exact .refl r
  · cases hok; exact .refl r
  · cases hok; exact .refl r
  · -- an expression and its closing parenthesis
    split at hok
    · cases hok
    rename_i a rest' hlev
    have hread := (parseLevel_within p p [] 0 r hr).readsTo hlev
    split at hok
    · split at hok
      · rename_i c rest'' hc
        cases hok
        exact hread.past (by rw [beq_iff_eq.1 hc]; decide)
      · cases hok
    · cases hok
  · split at hok
    · cases hok
    · rename_i items rest' hitems
      cases hok
      exact (parseItems_within p p [] .rbracket (by decide) r hr).readsTo hitems
  · split at hok
    · cases hok
    · rename_i entries rest' hpairs
      cases hok
      exact (parsePairs_within p p [] r hr).readsTo hpairs
  · cases hok

/-- The reader of an object entry consumes the key it starts with. -/
theorem parsePair_consumes_first {p : Nat} {t : Token} {r rest : Tokens} {kv : String × Expr}
    (h : HoldsEnd (t :: r)) (hok : parsePair p (t :: r) = .ok (kv, rest)) : ReadsTo r rest := by
  rw [parsePair.eq_def] at hok
  dsimp only at hok
  split at hok
  · rename_i hkey
    have hte : t.kind ≠ .eof := fun he => by simp [he] at hkey
    cases r with
    | nil => cases hok
    | cons c rest' =>
      dsimp only at hok
      split at hok
      · -- the colon, then the value
        rename_i hc
        have hce : c.kind ≠ .eof := by rw [beq_iff_eq.1 hc]; decide
        split at hok
        · cases hok
        · rename_i v rest'' hlev
          cases hok
          exact ((parseLevel_within p p [] 0 rest' ((h.tail hte).tail hce)).readsTo hlev).cons hce
      · cases hok
  · cases hok

/-- At tokens `ts`, every length check of the readers passes on what the reader before it left:
  whenever the reader a loop or a re-entry waits on returns, the reader goes on as the recursive
  descent with no checks does. -/
structure GuardsPass (p : Nat) (ts : Tokens) : Prop where
  /-- A binary level goes on with its operators after its first operand. -/
  binary : ∀ j lhs rest, j < 5 → parseLevel p (j + 1) ts = .ok (lhs, rest) →
    parseLevel p j ts = parseLevelRest p j lhs rest
  /-- After an operator of the level and its operand, the level goes on. -/
  binaryRest : ∀ j lhs t rest op rhs rest', ts = t :: rest → binOpAt j t.kind = some op →
    parseLevel p (j + 1) rest = .ok (rhs, rest') →
    parseLevelRest p j lhs ts = parseLevelRest p j (.binary op lhs rhs) rest'
  /-- A primary expression is followed by its postfix operators. -/
  primary : ∀ e rest, parsePrimary p ts = .ok (e, rest) →
    parsePostfix p ts = parsePostfixRest p e rest
  /-- After an index in brackets, the postfix operators go on. -/
  index : ∀ e t rest key c rest', ts = t :: rest → t.kind = .lbracket →
    parseLevel p 0 rest = .ok (key, c :: rest') → c.kind = .rbracket →
    parsePostfixRest p e ts = parsePostfixRest p (.index e key) rest'
  /-- After the arguments of a call, the postfix operators go on. -/
  call : ∀ fn t rest args rest', ts = t :: rest → t.kind = .lparen →
    parseItems p .rparen rest = .ok (args, rest') →
    parsePostfixRest p (.var fn) ts = parsePostfixRest p (.call fn args) rest'
  /-- After the first item of a list, the list goes on. -/
  items : ∀ closing t rest item rest', ts = t :: rest → t.kind ≠ closing →
    parseLevel p 0 ts = .ok (item, rest') → parseItems p closing ts = parseItemsRest p closing [item] rest'
  /-- After a comma and an item, the list goes on. -/
  itemsRest : ∀ closing acc t rest item rest', ts = t :: rest → t.kind = .comma →
    parseLevel p 0 rest = .ok (item, rest') →
    parseItemsRest p closing acc ts = parseItemsRest p closing (acc ++ [item]) rest'
  /-- After the first entry of an object, the object goes on. -/
  pairs : ∀ t rest k v rest', ts = t :: rest → t.kind ≠ .rbrace →
    parsePair p ts = .ok ((k, v), rest') → parsePairs p ts = parsePairsRest p (putEntry [] k v) rest'
  /-- After a comma and an entry, the object goes on. -/
  pairsRest : ∀ acc t rest k v rest', ts = t :: rest → t.kind = .comma →
    parsePair p rest = .ok ((k, v), rest') →
    parsePairsRest p acc ts = parsePairsRest p (putEntry acc k v) rest'
  /-- After a semicolon and a statement, the statements go on. -/
  statements : ∀ acc t rest st rest', ts = t :: rest → t.kind = .semicolon →
    peekKind rest ≠ .eof → parseStatement p rest = .ok (st, rest') →
    parseMoreStatements p acc ts = parseMoreStatements p (acc ++ [st]) rest'

namespace GuardsPass

/-- With no tokens, no reader returns and no loop starts. -/
theorem nil (p : Nat) : GuardsPass p [] where
  binary j _ _ _ hok := by
    obtain ⟨e, he⟩ := parseLevel_nil p (j + 1)
    rw [he] at hok
    cases hok
  binaryRest _ _ _ _ _ _ _ h := by cases h
  primary _ _ hok := by
    rw [parsePrimary.eq_def] at hok
    cases hok
  index _ _ _ _ _ _ h := by cases h
  call _ _ _ _ _ h := by cases h
  items _ _ _ _ _ h := by cases h
  itemsRest _ _ _ _ _ _ h := by cases h
  pairs _ _ _ _ _ h := by cases h
  pairsRest _ _ _ _ _ _ h := by cases h
  statements _ _ _ _ _ h := by cases h

/-- On tokens that hold the end of input every length check passes: the readers of an
  expression, of a primary one and of an object entry consume a token, and every reader leaves a
  suffix of what it was given. -/
theorem of_holdsEnd (p : Nat) {ts : Tokens} (h : HoldsEnd ts) : GuardsPass p ts where
  binary j lhs rest hl hok := by
    rw [parseLevel.eq_def, dif_pos hl]
    simp only [hok]
    rw [dif_pos (parseLevel_shortens h hok)]
  binaryRest j lhs t rest op rhs rest' hts hop hok := by
    subst hts
    have hread := (parseLevel_within p p [] _ rest (h.tail (binOpAt_ne_eof hop))).readsTo hok
    rw [parseLevelRest.eq_def]
    simp only [hop, hok]
    rw [dif_pos hread.length_le]
  primary e rest hok := by
    obtain ⟨t, r, rfl⟩ := List.exists_cons_of_ne_nil h.ne_nil
    have hlt : rest.length < (t :: r).length :=
      Nat.lt_succ_of_le (parsePrimary_consumes_first h hok).length_le
    rw [parsePostfix.eq_def]
    simp only [hok]
    rw [dif_pos hlt]
  index e t rest key c rest' hts hk hok hc := by
    subst hts
    have hread := (parseLevel_within p p [] 0 rest (h.tail (by rw [hk]; decide))).readsTo hok
    have hle : rest'.length ≤ rest.length := (hread.past (by rw [hc]; decide)).length_le
    rw [parsePostfixRest.eq_def]
    simp only [hk, hok, hc, beq_self_eq_true, if_true]
    rw [dif_pos hle]
  call fn t rest args rest' hts hk hok := by
    subst hts
    have hread := (parseItems_within p p [] .rparen (by decide) rest
      (h.tail (by rw [hk]; decide))).readsTo hok
    rw [parsePostfixRest.eq_def]
    simp only [hk, hok]
    rw [dif_pos hread.length_le]
  items closing t rest item rest' hts hc hok := by
    subst hts
    rw [parseItems.eq_def]
    simp only [beq_iff_eq, hc, if_false, hok]
    rw [dif_pos (parseLevel_shortens h hok)]
  itemsRest closing acc t rest item rest' hts hk hok := by
    subst hts
    have hread := (parseLevel_within p p [] 0 rest (h.tail (by rw [hk]; decide))).readsTo hok
    rw [parseItemsRest.eq_def]
    simp only [hk, beq_self_eq_true, if_true, hok]
    rw [dif_pos hread.length_le]
  pairs t rest k v rest' hts hc hok := by
    subst hts
    have hlt : rest'.length < (t :: rest).length :=
      Nat.lt_succ_of_le (parsePair_consumes_first h hok).length_le
    rw [parsePairs.eq_def]
    simp only [beq_iff_eq, hc, if_false, hok]
    rw [dif_pos hlt]
  pairsRest acc t rest k v rest' hts hk hok := by
    subst hts
    have hread := (parsePair_within p p [] rest (h.tail (by rw [hk]; decide))).readsTo hok
    rw [parsePairsRest.eq_def]
    simp only [hk, beq_self_eq_true, if_true, hok]
    rw [dif_pos hread.length_le]
  statements acc t rest st rest' hts hk hend hok := by
    subst hts
    have hread := (parseStatement_within p p [] rest (h.tail (by rw [hk]; decide))).readsTo hok
    rw [parseMoreStatements.eq_def]
    simp only [hk, beq_self_eq_true, if_true, beq_iff_eq, hend, if_false, hok]
    rw [dif_pos hread.length_le]

end GuardsPass

/-! ## The tokens of a text -/

/-- A token list that ends with the end of input holds it in each of its suffixes but the
  empty one. -/
theorem HoldsEnd.of_suffix {ts sfx : Tokens} {eof : Token} (hlast : ts.getLast? = some eof)
    (hk : eof.kind = .eof) (hs : sfx <:+ ts) (hne : sfx ≠ []) : HoldsEnd sfx := by
  obtain ⟨l, rfl⟩ := hs
  rw [List.getLast?_append_of_ne_nil _ hne] at hlast
  exact ⟨eof, List.mem_of_getLast? hlast, hk⟩

/-- Reading the tokens of a text never goes past their end. They end with the end of input,
  at the text's length. On every suffix of them, each length check of the readers passes, so the
  readers run as the recursive descent with no checks. Every reader of an expression, from a
  whole one down to a unary one, run on what is left of them, consumes at least one token and no
  end of input, and leaves some tokens. And the program read does not change when anything
  follows the tokens, nor with the end offset that only the fallback for an exhausted list would
  read. -/
theorem parse_stops_at_end_of_input {source : String} {ts : List Token}
    (h : tokenize source = .ok ts) :
    (∃ eof, ts.getLast? = some eof ∧ eof.kind = .eof ∧ eof.position = source.length) ∧
    (∀ p sfx, sfx <:+ ts → GuardsPass p sfx) ∧
    (∀ p level sfx e rest, sfx <:+ ts → parseLevel p level sfx = .ok (e, rest) →
      ∃ pre, pre ≠ [] ∧ (∀ t ∈ pre, t.kind ≠ .eof) ∧ sfx = pre ++ rest ∧ rest ≠ []) ∧
    ∀ p more, parseTokens p (ts ++ more) = parseTokens source.length ts := by
  obtain ⟨eof, hlast, hk, hpos⟩ := tokenize_last_eof h
  have hend : HoldsEnd ts := ⟨eof, List.mem_of_getLast? hlast, hk⟩
  refine ⟨⟨eof, hlast, hk, hpos⟩, fun p sfx hs => ?_, ?_,
    fun p more => parseTokens_append_after_end hend p _ more⟩
  · -- the empty suffix starts no reader; any other holds the end of input
    by_cases hne : sfx = []
    · subst hne
      exact GuardsPass.nil p
    · exact GuardsPass.of_holdsEnd p (HoldsEnd.of_suffix hlast hk hs hne)
  intro p level sfx e rest hs hok
  -- the empty suffix reads as nothing, so the reader ran on one that holds the end of input
  have hne : sfx ≠ [] := by
    rintro rfl
    obtain ⟨err, herr⟩ := parseLevel_nil p level
    rw [herr] at hok
    cases hok
  have hsfx := HoldsEnd.of_suffix hlast hk hs hne
  obtain ⟨pre, hpre, hnoend, rfl⟩ := parseLevel_consumes hsfx hok
  exact ⟨pre, hpre, hnoend, rfl, (hsfx.of_readsTo ⟨pre, rfl, hnoend⟩).ne_nil⟩

/-- The tokens of a text with every kind of loop and re-entry of the reader. -/
theorem parse_stops_at_end_of_input_sample :
    ∃ ts, tokenize "a.b(1, [2]) + {k: 3}[\"k\"] * -x; let y = !z" = .ok ts ∧
      (∃ eof, ts.getLast? = some eof ∧ eof.kind = .eof ∧
        eof.position = "a.b(1, [2]) + {k: 3}[\"k\"] * -x; let y = !z".length) ∧
      (∀ p sfx, sfx <:+ ts → GuardsPass p sfx) ∧
      (∀ p level sfx e rest, sfx <:+ ts → parseLevel p level sfx = .ok (e, rest) →
        ∃ pre, pre ≠ [] ∧ (∀ t ∈ pre, t.kind ≠ .eof) ∧ sfx = pre ++ rest ∧ rest ≠ []) ∧
      ∀ p more, parseTokens p (ts ++ more) =
        parseTokens "a.b(1, [2]) + {k: 3}[\"k\"] * -x; let y = !z".length ts := by
  have hok : (tokenize "a.b(1, [2]) + {k: 3}[\"k\"] * -x; let y = !z").isOk = true := by
    decide +kernel
  cases hts : tokenize "a.b(1, [2]) + {k: 3}[\"k\"] * -x; let y = !z" with
  | error e =>
    rw [hts] at hok
    cases hok
  | ok ts => exact ⟨ts, rfl, parse_stops_at_end_of_input hts⟩

end FieldRules.Lang
