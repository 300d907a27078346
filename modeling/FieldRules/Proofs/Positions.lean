import Mathlib
import FieldRules.Proofs.ParserSteps

/-! # The reader reads kinds and values

Where a token stands does not matter to the reader: the lexer's tokens carry their place (offset,
line, column) beside their kind and value, and only the kind and value steer the scan and the
recursive descent. Places show only in error messages.

The scan of a text gives tokens of the same kinds and values from every cursor and after every
accumulator, or fails for the same reason (`scanFrom_same`); merging `not in` looks at kinds and
values only (`pairNotIn_map_kv`). Each reader of the descent, given token lists of the same kinds
and values and any two end offsets, reads the same expression and leaves tokens of the same
kinds and values, or fails with the same issue (`parseLevel_same` and the readers mutual with
it, by the same well-founded recursion as the readers). So do statements, statement lists and
whole programs (`parseTokens_of_first`, which lets the first statement differ by any relation
the rest of the reader keeps). -/

namespace FieldRules.Lang

/-! ## Scanning -/

/-- Two lexing failures for one reason: the same character no lexeme starts with, or the same
  too long integer, wherever they stand. -/
def LexError.SameIssue : LexError → LexError → Prop
  | .unexpectedChar c .., .unexpectedChar d .. => c = d
  | .integerTooLong n, .integerTooLong m => n = m
  | _, _ => False

theorem LexError.SameIssue.refl (e : LexError) : e.SameIssue e := by
  cases e <;> simp [LexError.SameIssue]

/-- Two scans that agree but for where they stand: tokens of the same kinds and values after
  their accumulators, or failures for the same reason. -/
def ScanAlike (acc₁ acc₂ : Array Token) (r₁ r₂ : Except LexError (Array Token)) : Prop :=
  (∃ ts₁ ts₂ : Array Token, r₁ = .ok (acc₁ ++ ts₁) ∧ r₂ = .ok (acc₂ ++ ts₂) ∧
    ts₁.toList.map Token.kv = ts₂.toList.map Token.kv) ∨
  (∃ e₁ e₂, r₁ = .error e₁ ∧ r₂ = .error e₂ ∧ e₁.SameIssue e₂)

/-- A lexeme's token does not depend on where it stands but for its place. -/
theorem Piece.token?_kv (p : Piece) (cur₁ cur₂ : Cursor) :
    (p.token? cur₁).map (Option.map Token.kv) = (p.token? cur₂).map (Option.map Token.kv) := by
  cases p <;> simp only [Piece.token?] <;> (try split) <;> rfl

/-- A token that stands elsewhere reads the same. -/
theorem Piece.token?_error {p : Piece} {cur₁ : Cursor} {e : LexError} (h : p.token? cur₁ = .error e)
    (cur₂ : Cursor) : p.token? cur₂ = .error e := by
  have := p.token?_kv cur₁ cur₂
  rw [h] at this
  cases h₂ : p.token? cur₂ <;> simp_all [Except.map]

theorem Piece.token?_ok {p : Piece} {cur₁ : Cursor} {o₁ : Option Token} (h : p.token? cur₁ = .ok o₁)
    (cur₂ : Cursor) : ∃ o₂, p.token? cur₂ = .ok o₂ ∧ o₁.map Token.kv = o₂.map Token.kv := by
  have := p.token?_kv cur₁ cur₂
  rw [h] at this
  cases h₂ : p.token? cur₂ <;> simp_all [Except.map]

theorem ScanAlike.push {acc₁ acc₂ : Array Token} {o₁ o₂ : Option Token}
    {r₁ r₂ : Except LexError (Array Token)}
    (h : ScanAlike (match o₁ with | some t => acc₁.push t | none => acc₁)
      (match o₂ with | some t => acc₂.push t | none => acc₂) r₁ r₂)
    (ho : o₁.map Token.kv = o₂.map Token.kv) : ScanAlike acc₁ acc₂ r₁ r₂ := by
  rcases h with ⟨ts₁, ts₂, rfl, rfl, hts⟩ | herr
  · left
    cases o₁ with
    | none =>
      cases o₂ with
      | none => exact ⟨ts₁, ts₂, rfl, rfl, hts⟩
      | some t₂ => simp at ho
    | some t₁ =>
      cases o₂ with
      | none => simp at ho
      | some t₂ =>
        simp only [Option.map_some, Option.some.injEq] at ho
        exact ⟨#[t₁] ++ ts₁, #[t₂] ++ ts₂, by simp, by simp, by simp [ho, hts]⟩
  · exact .inr herr

/-- One step of the scan over a lexeme that is not blank. -/
theorem scanFrom_token {cs rest taken : List Char} {piece : Piece}
    (hfront : scanFront cs = some (piece, taken, rest)) (h : rest.length < cs.length)
    (hne : piece ≠ .blank) (cur : Cursor) (acc : Array Token) :
    scanFrom cs cur acc =
      match piece.token? cur with
      | .error e => .error e
      | .ok tok => scanFrom rest { cur with position := cur.position + taken.length }
          (match tok with | some t => acc.push t | none => acc) := by
  rw [scanFrom.eq_def, hfront]
  dsimp only
  rw [dif_pos h]
  cases piece <;> first | exact absurd rfl hne | rfl

/-- Scanning does not depend on where the text stands nor on what was scanned before it: the
  tokens after the accumulator have the same kinds and values, or both scans fail for the same
  reason. -/
theorem scanFrom_same (cs : List Char) (cur₁ cur₂ : Cursor) (acc₁ acc₂ : Array Token) :
    ScanAlike acc₁ acc₂ (scanFrom cs cur₁ acc₁) (scanFrom cs cur₂ acc₂) := by
  fun_induction scanFrom cs cur₁ acc₁ generalizing cur₂ acc₂ with
  | case1 cur acc _ =>
    rw [scanFrom_nil]
    exact .inl ⟨_, _, congrArg _ Array.push_eq_append, congrArg _ Array.push_eq_append, rfl⟩
  | case2 cur acc d r hfront =>
    rw [scanFrom.eq_def, hfront]
    exact .inr ⟨_, _, rfl, rfl, rfl⟩
  | case3 cs cur acc taken rest h hfront ih =>
    rw [scanFrom.eq_def cs cur₂ acc₂, hfront]
    dsimp only
    rw [dif_pos h]
    exact ih _ _
  | case4 cs cur acc piece taken rest hfront h e htok hne =>
    rw [htok, scanFrom_token hfront h hne cur₂ acc₂, Piece.token?_error htok cur₂]
    exact .inr ⟨e, e, rfl, rfl, LexError.SameIssue.refl e⟩
  | case5 cs cur acc piece taken rest hfront h tok htok next hne ih =>
    obtain ⟨tok₂, htok₂, hkv⟩ := Piece.token?_ok htok cur₂
    rw [htok, scanFrom_token hfront h hne cur₂ acc₂, htok₂]
    exact ScanAlike.push (ih _ _) hkv
  | case6 cur acc piece taken rest _ hfront h =>
    rw [scanFrom.eq_def, hfront]
    dsimp only
    rw [dif_neg h]
    exact .inl ⟨#[], #[], by simp, by simp, rfl⟩
  | case7 cur acc piece taken rest c tail _ hfront h =>
    rw [scanFrom.eq_def, hfront]
    dsimp only
    rw [dif_neg h]
    exact .inr ⟨_, _, rfl, rfl, rfl⟩

/-- Merging `not in` looks at kinds and values only. -/
theorem pairNotIn_map_kv : ∀ {ts₁ ts₂ : List Token}, ts₁.map Token.kv = ts₂.map Token.kv →
    (pairNotIn ts₁).map Token.kv = (pairNotIn ts₂).map Token.kv
  | [], [], _ => rfl
  | [_], [_], h => h
  | a₁ :: b₁ :: r₁, a₂ :: b₂ :: r₂, h => by
    simp only [List.map_cons, List.cons.injEq] at h
    obtain ⟨ha, hb, hr⟩ := h
    have hbk : b₁.kind = b₂.kind := congrArg Prod.fst hb
    simp only [pairNotIn, ha, hbk]
    split
    · simp only [List.map_cons, pairNotIn_map_kv hr]
      rfl
    · simp only [List.map_cons, ha, pairNotIn_map_kv
        (show (b₁ :: r₁).map Token.kv = (b₂ :: r₂).map Token.kv by simp [hb, hr])]
  | [], _ :: _, h | _ :: _, [], h | [_], _ :: _ :: _, h | _ :: _ :: _, [_], h => by simp at h

/-! ## Reading expressions -/

def SameReading {α β : Type} (R : α → β → Prop) (r₁ : Except ParseError (α × Tokens))
    (r₂ : Except ParseError (β × Tokens)) : Prop :=
  (∃ a₁ a₂ rest₁ rest₂, r₁ = .ok (a₁, rest₁) ∧ r₂ = .ok (a₂, rest₂) ∧ R a₁ a₂ ∧
    rest₁.map Token.kv = rest₂.map Token.kv) ∨
  (∃ e₁ e₂, r₁ = .error e₁ ∧ r₂ = .error e₂ ∧ e₁.issue = e₂.issue)

namespace SameReading

variable {α β : Type} {R : α → β → Prop}

theorem ok {a₁ : α} {a₂ : β} {rest₁ rest₂ : Tokens} (h : R a₁ a₂)
    (hr : rest₁.map Token.kv = rest₂.map Token.kv) :
    SameReading R (.ok (a₁, rest₁)) (.ok (a₂, rest₂)) :=
  .inl ⟨a₁, a₂, rest₁, rest₂, rfl, rfl, h, hr⟩

theorem error {e₁ e₂ : ParseError} (h : e₁.issue = e₂.issue) :
    SameReading R (α := α) (β := β) (.error e₁) (.error e₂) :=
  .inr ⟨e₁, e₂, rfl, rfl, h⟩

end SameReading

theorem kv_cons_iff {t₁ t₂ : Token} {r₁ r₂ : Tokens} :
    (t₁ :: r₁).map Token.kv = (t₂ :: r₂).map Token.kv ↔
      t₁.kind = t₂.kind ∧ t₁.value = t₂.value ∧ r₁.map Token.kv = r₂.map Token.kv := by
  simp [Token.kv, and_assoc]

theorem length_eq_of_kv {ts₁ ts₂ : Tokens} (h : ts₁.map Token.kv = ts₂.map Token.kv) :
    ts₁.length = ts₂.length := by
  simpa using congrArg List.length h

/-- Token lists of the same kinds and values are both empty, or both a token and a rest: the two
  tokens of one kind and value, the two rests of the same kinds and values. -/
theorem kv_cases {ts₁ ts₂ : Tokens} (h : ts₁.map Token.kv = ts₂.map Token.kv) :
    ts₁ = [] ∧ ts₂ = [] ∨ ∃ t₁ r₁ t₂ r₂, ts₁ = t₁ :: r₁ ∧ ts₂ = t₂ :: r₂ ∧
      t₁.kind = t₂.kind ∧ t₁.value = t₂.value ∧ r₁.map Token.kv = r₂.map Token.kv := by
  cases ts₁ <;> cases ts₂
  · exact .inl ⟨rfl, rfl⟩
  · simp at h
  · simp at h
  · exact .inr ⟨_, _, _, _, rfl, rfl, kv_cons_iff.1 h⟩

theorem unexpectedAt_issue {ts₁ ts₂ : Tokens} (h : ts₁.map Token.kv = ts₂.map Token.kv)
    (p₁ p₂ : Nat) : (unexpectedAt p₁ ts₁).issue = (unexpectedAt p₂ ts₂).issue := by
  rcases kv_cases h with ⟨rfl, rfl⟩ | ⟨t₁, r₁, t₂, r₂, rfl, rfl, -, hv, -⟩
  · rfl
  · simp [unexpectedAt, hv]

/-- The length checks of the readers decide alike on token lists of the same kinds and values,
  and when they fail, they fail with the same issue. -/
theorem SameReading.dite {α β : Type} {R : α → β → Prop} {c₁ c₂ : Prop} [Decidable c₁]
    [Decidable c₂] (hc : c₁ ↔ c₂) {s₁ s₂ : Tokens} (hs : s₁.map Token.kv = s₂.map Token.kv)
    (p₁ p₂ : Nat) {r₁ : Except ParseError (α × Tokens)} {r₂ : Except ParseError (β × Tokens)}
    (h : c₁ → SameReading R r₁ r₂) :
    SameReading R (if _ : c₁ then r₁ else .error (unexpectedAt p₁ s₁))
      (if _ : c₂ then r₂ else .error (unexpectedAt p₂ s₂)) := by
  by_cases h₁ : c₁
  · rw [dif_pos h₁, dif_pos (hc.1 h₁)]
    exact h h₁
  · rw [dif_neg h₁, dif_neg (mt hc.2 h₁)]
    exact .error (unexpectedAt_issue hs p₁ p₂)

/-- The readers' measure goes down: fewer tokens are left, or as many and the rank is lower. -/
theorem lex_lt {a b c d : Nat} (h : a < c ∨ a = c ∧ b < d) :
    Prod.Lex (· < ·) (· < ·) (a, b) (c, d) :=
  Prod.lex_def.2 h

variable (p₁ p₂ : Nat)

mutual

theorem parseLevel_same (level : Nat) (ts₁ ts₂ : Tokens)
    (h : ts₁.map Token.kv = ts₂.map Token.kv) :
    SameReading Eq (parseLevel p₁ level ts₁) (parseLevel p₂ level ts₂) := by
  rw [parseLevel.eq_def p₁ level ts₁, parseLevel.eq_def p₂ level ts₂]
  by_cases hl : level < 5
  · simp only [hl, dif_pos]
    rcases parseLevel_same (level + 1) ts₁ ts₂ h with
      ⟨a, _, s₁, s₂, h₁, h₂, rfl, hs⟩ | ⟨e₁, e₂, h₁, h₂, hi⟩
    · simp only [h₁, h₂]
      exact SameReading.dite (by rw [length_eq_of_kv hs, length_eq_of_kv h]) hs p₁ p₂ fun hlt =>
        parseLevelRest_same (fun _ _ _ _ h => h ▸ rfl) level a a rfl s₁ s₂ hs
    · simp only [h₁, h₂]
      exact .error hi
  · simp only [hl, dif_neg, not_false_eq_true]
    exact parseUnary_same ts₁ ts₂ h
termination_by (ts₁.length, 3 * (6 - level) + 3)
decreasing_by all_goals (subst_vars; apply lex_lt; simp -failIfUnchanged only [true_and]; omega)

/-- The operators after a left operand read alike after any two left operands related by a
  relation that applying one operator keeps. -/
theorem parseLevelRest_same {R : Expr → Expr → Prop}
    (hR : ∀ op l₁ l₂ r, R l₁ l₂ → R (.binary op l₁ r) (.binary op l₂ r)) (level : Nat)
    (lhs₁ lhs₂ : Expr) (hl : R lhs₁ lhs₂) (ts₁ ts₂ : Tokens)
    (h : ts₁.map Token.kv = ts₂.map Token.kv) :
    SameReading R (parseLevelRest p₁ level lhs₁ ts₁) (parseLevelRest p₂ level lhs₂ ts₂) := by
  rw [parseLevelRest.eq_def p₁ level lhs₁ ts₁, parseLevelRest.eq_def p₂ level lhs₂ ts₂]
  rcases kv_cases h with ⟨rfl, rfl⟩ | ⟨t₁, r₁, t₂, r₂, rfl, rfl, hk, -, hr⟩
  · exact .ok hl rfl
  · simp only [← hk]
    cases hop : binOpAt level t₁.kind with
    | none => exact .ok hl h
    | some op =>
      simp only
      rcases parseLevel_same (level + 1) r₁ r₂ hr with
        ⟨a, _, s₁, s₂, h₁, h₂, rfl, hs⟩ | ⟨e₁, e₂, h₁, h₂, hi⟩
      · simp only [h₁, h₂]
        exact SameReading.dite (by rw [length_eq_of_kv hs, length_eq_of_kv hr]) hs p₁ p₂ fun hle =>
          parseLevelRest_same hR level _ _ (hR op lhs₁ lhs₂ a hl) s₁ s₂ hs
      · simp only [h₁, h₂]
        exact .error hi
termination_by (ts₁.length, 3 * (6 - level) + 2)
decreasing_by all_goals (subst_vars; apply lex_lt; simp -failIfUnchanged only [List.length_cons]; omega)

theorem parseUnary_same (ts₁ ts₂ : Tokens) (h : ts₁.map Token.kv = ts₂.map Token.kv) :
    SameReading Eq (parseUnary p₁ ts₁) (parseUnary p₂ ts₂) := by
  rw [parseUnary.eq_def p₁ ts₁, parseUnary.eq_def p₂ ts₂]
  rcases kv_cases h with ⟨rfl, rfl⟩ | ⟨t₁, r₁, t₂, r₂, rfl, rfl, hk, -, hr⟩
  · -- nothing to read: the primary reader fails at once
    rw [parsePostfix.eq_def p₁ [], parsePostfix.eq_def p₂ [], parsePrimary.eq_def p₁ [],
      parsePrimary.eq_def p₂ []]
    exact .error rfl
  · simp only [← hk]
    -- `!` and `-` read one more unary expression; anything else is a postfix expression
    by_cases hn : t₁.kind = .not
    · simp only [hn, beq_self_eq_true, if_true]
      rcases parseUnary_same r₁ r₂ hr with
        ⟨a, _, s₁, s₂, h₁, h₂, rfl, hs⟩ | ⟨e₁, e₂, h₁, h₂, hi⟩
      · simp only [h₁, h₂]
        exact .ok rfl hs
      · simp only [h₁, h₂]
        exact .error hi
    by_cases hm : t₁.kind = .minus
    · simp only [hm, beq_self_eq_true, if_true, reduceCtorEq, beq_iff_eq, if_false]
      rcases parseUnary_same r₁ r₂ hr with
        ⟨a, _, s₁, s₂, h₁, h₂, rfl, hs⟩ | ⟨e₁, e₂, h₁, h₂, hi⟩
      · simp only [h₁, h₂]
        exact .ok rfl hs
      · simp only [h₁, h₂]
        exact .error hi
    simp only [hn, hm, beq_iff_eq, if_false]
    exact parsePostfix_same (t₁ :: r₁) (t₂ :: r₂) h
termination_by (ts₁.length, 2)
decreasing_by all_goals (subst_vars; apply lex_lt; simp -failIfUnchanged only [List.length_cons, true_and]; omega)

theorem parsePostfix_same (ts₁ ts₂ : Tokens) (h : ts₁.map Token.kv = ts₂.map Token.kv) :
    SameReading Eq (parsePostfix p₁ ts₁) (parsePostfix p₂ ts₂) := by
  rw [parsePostfix.eq_def p₁ ts₁, parsePostfix.eq_def p₂ ts₂]
  rcases parsePrimary_same ts₁ ts₂ h with
    ⟨a, _, s₁, s₂, h₁, h₂, rfl, hs⟩ | ⟨e₁, e₂, h₁, h₂, hi⟩
  · simp only [h₁, h₂]
    exact SameReading.dite (by rw [length_eq_of_kv hs, length_eq_of_kv h]) hs p₁ p₂ fun hlt =>
      parsePostfixRest_same a s₁ s₂ hs
  · simp only [h₁, h₂]
    exact .error hi
termination_by (ts₁.length, 1)
decreasing_by all_goals (subst_vars; apply lex_lt; simp -failIfUnchanged only [true_and]; omega)

theorem parsePostfixRest_same (e : Expr) (ts₁ ts₂ : Tokens)
    (h : ts₁.map Token.kv = ts₂.map Token.kv) :
    SameReading Eq (parsePostfixRest p₁ e ts₁) (parsePostfixRest p₂ e ts₂) := by
  rw [parsePostfixRest.eq_def p₁ e ts₁, parsePostfixRest.eq_def p₂ e ts₂]
  rcases kv_cases h with ⟨rfl, rfl⟩ | ⟨t₁, r₁, t₂, r₂, rfl, rfl, hk, -, hr⟩
  · exact .ok rfl rfl
  · simp only [← hk]
    split
    · -- a member name after a dot
      rcases kv_cases hr with ⟨rfl, rfl⟩ | ⟨m₁, q₁, m₂, q₂, rfl, rfl, hmk, hmv, hq⟩
      · exact .error rfl
      · simp only [← hmk, ← hmv]
        split
        · exact parsePostfixRest_same (.member e (keyText m₁.value)) q₁ q₂ hq
        · exact .error rfl
    · -- an index in brackets
      rcases parseLevel_same 0 r₁ r₂ hr with
        ⟨a, _, s₁, s₂, h₁, h₂, rfl, hs⟩ | ⟨e₁, e₂, h₁, h₂, hi⟩
      · simp only [h₁, h₂]
        rcases kv_cases hs with ⟨rfl, rfl⟩ | ⟨c₁, q₁, c₂, q₂, rfl, rfl, hck, -, hq⟩
        · exact .error rfl
        · simp only [← hck]
          split
          · exact SameReading.dite (by rw [length_eq_of_kv hq, length_eq_of_kv hr]) hq p₁ p₂
              fun hle => parsePostfixRest_same (.index e a) q₁ q₂ hq
          · exact .error rfl
      · simp only [h₁, h₂]
        exact .error hi
    · -- a call, after a bare name
      split
      · rcases parseItems_same .rparen r₁ r₂ hr with
          ⟨a, _, s₁, s₂, h₁, h₂, rfl, hs⟩ | ⟨e₁, e₂, h₁, h₂, hi⟩
        · simp only [h₁, h₂]
          exact SameReading.dite (by rw [length_eq_of_kv hs, length_eq_of_kv hr]) hs p₁ p₂
            fun hle => parsePostfixRest_same _ s₁ s₂ hs
        · simp only [h₁, h₂]
          exact .error hi
      · exact .ok rfl h
    · exact .ok rfl h
termination_by (ts₁.length, 3)
decreasing_by all_goals (subst_vars; apply lex_lt; simp -failIfUnchanged only [List.length_cons]; omega)

theorem parsePrimary_same (ts₁ ts₂ : Tokens) (h : ts₁.map Token.kv = ts₂.map Token.kv) :
    SameReading Eq (parsePrimary p₁ ts₁) (parsePrimary p₂ ts₂) := by
  rw [parsePrimary.eq_def p₁ ts₁, parsePrimary.eq_def p₂ ts₂]
  rcases kv_cases h with ⟨rfl, rfl⟩ | ⟨t₁, r₁, t₂, r₂, rfl, rfl, hk, hv, hr⟩
  · exact .error rfl
  · simp only [← hk]
    split
    · exact .ok (by simp [literalOf, hk, hv]) hr
    · exact .ok (by simp [literalOf, hk, hv]) hr
    · exact .ok (by simp [literalOf, hk, hv]) hr
    · exact .ok (by simp [literalOf, hk, hv]) hr
    · exact .ok (by rw [hv]) hr
    · -- a parenthesised expression
      rcases parseLevel_same 0 r₁ r₂ hr with
        ⟨a, _, s₁, s₂, h₁, h₂, rfl, hs⟩ | ⟨e₁, e₂, h₁, h₂, hi⟩
      · simp only [h₁, h₂]
        rcases kv_cases hs with ⟨rfl, rfl⟩ | ⟨c₁, q₁, c₂, q₂, rfl, rfl, hck, -, hq⟩
        · exact .error rfl
        · simp only [← hck]
          split
          · exact .ok rfl hq
          · exact .error rfl
      · simp only [h₁, h₂]
        exact .error hi
    · rcases parseItems_same .rbracket r₁ r₂ hr with
        ⟨a, _, s₁, s₂, h₁, h₂, rfl, hs⟩ | ⟨e₁, e₂, h₁, h₂, hi⟩
      · simp only [h₁, h₂]
        exact .ok rfl hs
      · simp only [h₁, h₂]
        exact .error hi
    · rcases parsePairs_same r₁ r₂ hr with
        ⟨a, _, s₁, s₂, h₁, h₂, rfl, hs⟩ | ⟨e₁, e₂, h₁, h₂, hi⟩
      · simp only [h₁, h₂]
        exact .ok rfl hs
      · simp only [h₁, h₂]
        exact .error hi
    · exact .error (unexpectedAt_issue h p₁ p₂)
termination_by (ts₁.length, 0)
decreasing_by all_goals (subst_vars; apply lex_lt; simp -failIfUnchanged only [List.length_cons]; omega)

theorem parseItems_same (closing : TokenKind) (ts₁ ts₂ : Tokens)
    (h : ts₁.map Token.kv = ts₂.map Token.kv) :
    SameReading Eq (parseItems p₁ closing ts₁) (parseItems p₂ closing ts₂) := by
  rw [parseItems.eq_def p₁ closing ts₁, parseItems.eq_def p₂ closing ts₂]
  rcases kv_cases h with ⟨rfl, rfl⟩ | ⟨t₁, r₁, t₂, r₂, rfl, rfl, hk, -, hr⟩
  · exact .error rfl
  · simp only [← hk]
    split
    · exact .ok rfl hr
    · rcases parseLevel_same 0 (t₁ :: r₁) (t₂ :: r₂) h with
        ⟨a, _, s₁, s₂, h₁, h₂, rfl, hs⟩ | ⟨e₁, e₂, h₁, h₂, hi⟩
      · simp only [h₁, h₂]
        exact SameReading.dite (by rw [length_eq_of_kv hs, length_eq_of_kv h]) hs p₁ p₂ fun hlt =>
          parseItemsRest_same closing [a] s₁ s₂ hs
      · simp only [h₁, h₂]
        exact .error hi
termination_by (ts₁.length, 30)
decreasing_by all_goals (subst_vars; apply lex_lt; simp -failIfUnchanged only [List.length_cons, true_and] at *; omega)

theorem parseItemsRest_same (closing : TokenKind) (acc : List Expr) (ts₁ ts₂ : Tokens)
    (h : ts₁.map Token.kv = ts₂.map Token.kv) :
    SameReading Eq (parseItemsRest p₁ closing acc ts₁) (parseItemsRest p₂ closing acc ts₂) := by
  rw [parseItemsRest.eq_def p₁ closing acc ts₁, parseItemsRest.eq_def p₂ closing acc ts₂]
  rcases kv_cases h with ⟨rfl, rfl⟩ | ⟨t₁, r₁, t₂, r₂, rfl, rfl, hk, -, hr⟩
  · exact .error rfl
  · simp only [← hk]
    split
    · rcases parseLevel_same 0 r₁ r₂ hr with
        ⟨a, _, s₁, s₂, h₁, h₂, rfl, hs⟩ | ⟨e₁, e₂, h₁, h₂, hi⟩
      · simp only [h₁, h₂]
        exact SameReading.dite (by rw [length_eq_of_kv hs, length_eq_of_kv hr]) hs p₁ p₂ fun hle =>
          parseItemsRest_same closing (acc ++ [a]) s₁ s₂ hs
      · simp only [h₁, h₂]
        exact .error hi
    · split
      · exact .ok rfl hr
      · exact .error rfl
termination_by (ts₁.length, 29)
decreasing_by all_goals (subst_vars; apply lex_lt; simp -failIfUnchanged only [List.length_cons]; omega)

theorem parsePair_same (ts₁ ts₂ : Tokens) (h : ts₁.map Token.kv = ts₂.map Token.kv) :
    SameReading Eq (parsePair p₁ ts₁) (parsePair p₂ ts₂) := by
  rw [parsePair.eq_def p₁ ts₁, parsePair.eq_def p₂ ts₂]
  rcases kv_cases h with ⟨rfl, rfl⟩ | ⟨t₁, r₁, t₂, r₂, rfl, rfl, hk, hv, hr⟩
  · exact .error rfl
  · simp only [← hk, ← hv]
    split
    · -- a key, then `:` and the value
      rcases kv_cases hr with ⟨rfl, rfl⟩ | ⟨c₁, q₁, c₂, q₂, rfl, rfl, hck, -, hq⟩
      · exact .error rfl
      · simp only [← hck]
        split
        · rcases parseLevel_same 0 q₁ q₂ hq with
            ⟨a, _, s₁, s₂, h₁, h₂, rfl, hs⟩ | ⟨e₁, e₂, h₁, h₂, hi⟩
          · simp only [h₁, h₂]
            exact .ok rfl hs
          · simp only [h₁, h₂]
            exact .error hi
        · exact .error rfl
    · exact .error rfl
termination_by (ts₁.length, 30)
decreasing_by all_goals (subst_vars; apply lex_lt; simp -failIfUnchanged only [List.length_cons]; omega)

theorem parsePairs_same (ts₁ ts₂ : Tokens) (h : ts₁.map Token.kv = ts₂.map Token.kv) :
    SameReading Eq (parsePairs p₁ ts₁) (parsePairs p₂ ts₂) := by
  rw [parsePairs.eq_def p₁ ts₁, parsePairs.eq_def p₂ ts₂]
  rcases kv_cases h with ⟨rfl, rfl⟩ | ⟨t₁, r₁, t₂, r₂, rfl, rfl, hk, -, hr⟩
  · exact .error rfl
  · simp only [← hk]
    split
    · exact .ok rfl hr
    · rcases parsePair_same (t₁ :: r₁) (t₂ :: r₂) h with
        ⟨⟨k, v⟩, _, s₁, s₂, h₁, h₂, rfl, hs⟩ | ⟨e₁, e₂, h₁, h₂, hi⟩
      · simp only [h₁, h₂]
        exact SameReading.dite (by rw [length_eq_of_kv hs, length_eq_of_kv h]) hs p₁ p₂ fun hlt =>
          parsePairsRest_same (putEntry [] k v) s₁ s₂ hs
      · simp only [h₁, h₂]
        exact .error hi
termination_by (ts₁.length, 31)
decreasing_by all_goals (subst_vars; apply lex_lt; simp -failIfUnchanged only [List.length_cons, true_and] at *; omega)

theorem parsePairsRest_same (acc : List (String × Expr)) (ts₁ ts₂ : Tokens)
    (h : ts₁.map Token.kv = ts₂.map Token.kv) :
    SameReading Eq (parsePairsRest p₁ acc ts₁) (parsePairsRest p₂ acc ts₂) := by
  rw [parsePairsRest.eq_def p₁ acc ts₁, parsePairsRest.eq_def p₂ acc ts₂]
  rcases kv_cases h with ⟨rfl, rfl⟩ | ⟨t₁, r₁, t₂, r₂, rfl, rfl, hk, -, hr⟩
  · exact .error rfl
  · simp only [← hk]
    split
    · rcases parsePair_same r₁ r₂ hr with
        ⟨⟨k, v⟩, _, s₁, s₂, h₁, h₂, rfl, hs⟩ | ⟨e₁, e₂, h₁, h₂, hi⟩
      · simp only [h₁, h₂]
        exact SameReading.dite (by rw [length_eq_of_kv hs, length_eq_of_kv hr]) hs p₁ p₂ fun hle =>
          parsePairsRest_same (putEntry acc k v) s₁ s₂ hs
      · simp only [h₁, h₂]
        exact .error hi
    · split
      · exact .ok rfl hr
      · exact .error rfl
termination_by (ts₁.length, 29)
decreasing_by all_goals (subst_vars; apply lex_lt; simp -failIfUnchanged only [List.length_cons]; omega)

end


/-! ## Statements and programs -/

theorem peekKind_of_kv {ts₁ ts₂ : Tokens} (h : ts₁.map Token.kv = ts₂.map Token.kv) :
    peekKind ts₁ = peekKind ts₂ := by
  rcases kv_cases h with ⟨rfl, rfl⟩ | ⟨t₁, r₁, t₂, r₂, rfl, rfl, hk, -, -⟩
  · rfl
  · exact hk

theorem parseStatement_same (ts₁ ts₂ : Tokens) (h : ts₁.map Token.kv = ts₂.map Token.kv) :
    SameReading Eq (parseStatement p₁ ts₁) (parseStatement p₂ ts₂) := by
  rw [parseStatement.eq_def p₁ ts₁, parseStatement.eq_def p₂ ts₂]
  rcases kv_cases h with ⟨rfl, rfl⟩ | ⟨t₁, r₁, t₂, r₂, rfl, rfl, hk, -, hr⟩
  · rcases parseLevel_same p₁ p₂ 0 [] [] rfl with
      ⟨a, _, s₁, s₂, h₁, h₂, rfl, hs⟩ | ⟨e₁, e₂, h₁, h₂, hi⟩
    · simp only [h₁, h₂]
      exact .ok rfl hs
    · simp only [h₁, h₂]
      exact .error hi
  · simp only [← hk]
    split
    · -- a binding: `let`, a name, `=` and an expression
      rcases kv_cases hr with ⟨rfl, rfl⟩ | ⟨n₁, q₁, n₂, q₂, rfl, rfl, hnk, hnv, hq⟩
      · exact .error rfl
      · simp only [← hnk, ← hnv]
        split
        · rcases kv_cases hq with ⟨rfl, rfl⟩ | ⟨a₁, u₁, a₂, u₂, rfl, rfl, hak, -, hu⟩
          · exact .error rfl
          · simp only [← hak]
            split
            · rcases parseLevel_same p₁ p₂ 0 u₁ u₂ hu with
                ⟨a, _, s₁, s₂, h₁, h₂, rfl, hs⟩ | ⟨e₁, e₂, h₁, h₂, hi⟩
              · simp only [h₁, h₂]
                exact .ok rfl hs
              · simp only [h₁, h₂]
                exact .error hi
            · exact .error rfl
        · exact .error rfl
    · rcases parseLevel_same p₁ p₂ 0 (t₁ :: r₁) (t₂ :: r₂) h with
        ⟨a, _, s₁, s₂, h₁, h₂, rfl, hs⟩ | ⟨e₁, e₂, h₁, h₂, hi⟩
      · simp only [h₁, h₂]
        exact .ok rfl hs
      · simp only [h₁, h₂]
        exact .error hi

theorem SameReading.imp {α β : Type} {R R' : α → β → Prop} {r₁ r₂} (h : SameReading R r₁ r₂)
    (hR : ∀ a b, R a b → R' a b) : SameReading R' r₁ r₂ := by
  rcases h with ⟨a₁, a₂, s₁, s₂, h₁, h₂, hab, hs⟩ | herr
  · exact .inl ⟨a₁, a₂, s₁, s₂, h₁, h₂, hR a₁ a₂ hab, hs⟩
  · exact .inr herr

/-- The statements after the first are read alike after any two lists of statements read
  before: both lists grow by the same statements. -/
theorem parseMoreStatements_same (acc₁ acc₂ : List Statement) (ts₁ ts₂ : Tokens)
    (h : ts₁.map Token.kv = ts₂.map Token.kv) :
    SameReading (fun l₁ l₂ => ∃ more, l₁ = acc₁ ++ more ∧ l₂ = acc₂ ++ more)
      (parseMoreStatements p₁ acc₁ ts₁) (parseMoreStatements p₂ acc₂ ts₂) := by
  rw [parseMoreStatements.eq_def p₁ acc₁ ts₁, parseMoreStatements.eq_def p₂ acc₂ ts₂]
  cases ts₁ with
  | nil =>
    cases ts₂ with
    | nil => exact .ok ⟨[], by simp, by simp⟩ rfl
    | cons => simp at h
  | cons t₁ r₁ =>
    cases ts₂ with
    | nil => simp at h
    | cons t₂ r₂ =>
      obtain ⟨hk, -, hr⟩ := kv_cons_iff.1 h
      simp only [← hk, peekKind_of_kv hr]
      split
      · split
        · exact .ok ⟨[], by simp, by simp⟩ hr
        · rcases parseStatement_same p₁ p₂ r₁ r₂ hr with
            ⟨s, _, q₁, q₂, h₁, h₂, rfl, hq⟩ | ⟨e₁, e₂, h₁, h₂, hi⟩
          · simp only [h₁, h₂]
            have hlen := length_eq_of_kv hq
            have hrs := length_eq_of_kv hr
            by_cases hle : q₁.length ≤ r₁.length
            · rw [dif_pos hle, dif_pos (by omega)]
              refine (parseMoreStatements_same (acc₁ ++ [s]) (acc₂ ++ [s]) q₁ q₂ hq).imp ?_
              rintro _ _ ⟨more, rfl, rfl⟩
              exact ⟨s :: more, by simp, by simp⟩
            · rw [dif_neg hle, dif_neg (by omega)]
              exact .error (unexpectedAt_issue hq p₁ p₂)
          · simp only [h₁, h₂]
            exact .error hi
      · exact .ok ⟨[], by simp, by simp⟩ h
termination_by ts₁.length
decreasing_by subst_vars; simp only [List.length_cons]; omega

/-- Two readings of programs alike: programs whose first statements are related by `R` and whose
  other statements are the same, or failures related by `E`. -/
def ProgramsAlike {ε : Type} (E : ε → ε → Prop) (R : Statement → Statement → Prop)
    (r₁ r₂ : Except ε Program) : Prop :=
  (∃ s₁ s₂ more, R s₁ s₂ ∧ r₁ = .ok ⟨s₁ :: more⟩ ∧ r₂ = .ok ⟨s₂ :: more⟩) ∨
  (∃ e₁ e₂, r₁ = .error e₁ ∧ r₂ = .error e₂ ∧ E e₁ e₂)

/-- Two failures to read a text for one reason: the same lexing failure, or the same parse
  issue, wherever they stand. -/
def SyntaxError.SameIssue : SyntaxError → SyntaxError → Prop
  | .lex e₁, .lex e₂ => e₁.SameIssue e₂
  | .parse e₁, .parse e₂ => e₁.issue = e₂.issue
  | _, _ => False

/-- Token lists of the same kinds and values whose first statements read alike up to `R` read as
  programs alike up to `R`. -/
theorem parseTokens_of_first {R : Statement → Statement → Prop} {ts₁ ts₂ : Tokens}
    (hk : peekKind ts₁ = peekKind ts₂)
    (hs : SameReading R (parseStatement p₁ ts₁) (parseStatement p₂ ts₂)) :
    ProgramsAlike (fun e₁ e₂ => e₁.issue = e₂.issue) R (parseTokens p₁ ts₁) (parseTokens p₂ ts₂) := by
  unfold parseTokens
  rw [hk]
  split
  · exact .inr ⟨_, _, rfl, rfl, rfl⟩
  rcases hs with ⟨s₁, s₂, q₁, q₂, h₁, h₂, hR, hq⟩ | ⟨e₁, e₂, h₁, h₂, hi⟩
  · simp only [h₁, h₂]
    rcases parseMoreStatements_same p₁ p₂ [s₁] [s₂] q₁ q₂ hq with
      ⟨_, _, u₁, u₂, h₁', h₂', ⟨more, rfl, rfl⟩, hu⟩ | ⟨e₁, e₂, h₁', h₂', hi⟩
    · simp only [h₁', h₂', peekKind_of_kv hu]
      split
      · exact .inl ⟨s₁, s₂, more, hR, rfl, rfl⟩
      · exact .inr ⟨_, _, rfl, rfl, unexpectedAt_issue hu p₁ p₂⟩
    · simp only [h₁', h₂']
      exact .inr ⟨e₁, e₂, rfl, rfl, hi⟩
  · simp only [h₁, h₂]
    exact .inr ⟨e₁, e₂, rfl, rfl, hi⟩

end FieldRules.Lang
