import Mathlib
import FieldRules.Lang.Lexer

/-! # The lexemes of rule text

The token grammar as predicates on character lists (`Lexeme`): a run of decimal digits of any
script, with a fraction after a point; a string in double or single quotes whose body holds
no bare quote of its kind and no escaped line feed (`StringBody`); an ASCII name; an operator
or punctuation mark of `operatorTable`. A lexeme never starts with a blank, and its first
character alone tells which class it is in.

Main statement: at a text that does not start with a blank, `scanFront` takes the longest
lexeme the text starts with, and reads it as `Piece.ofLexeme` reads it from its own text
(`scanFront_spec`); when no lexeme starts the text it reports none. The code tries the classes
in a fixed order and each class greedily, so this rests on two facts: the classes are told
apart by their first character, and the operator table lists every two-character operator
before the one-character operators it extends. -/

namespace FieldRules.Lang
open Text

/-! ## Character classes -/

/-- The code point ranges of the blank characters. -/
def blankRanges : List (Nat × Nat) :=
  [(0x09, 0x0D), (0x1C, 0x20), (0x85, 0x85), (0xA0, 0xA0), (0x1680, 0x1680), (0x2000, 0x200A),
   (0x2028, 0x2029), (0x202F, 0x202F), (0x205F, 0x205F), (0x3000, 0x3000)]

theorem isBlank_mem_ranges {c : Char} (h : isBlank c = true) :
    ∃ r ∈ blankRanges, r.1 ≤ c.toNat ∧ c.toNat ≤ r.2 := by
  simp only [isBlank, Bool.or_eq_true, Bool.and_eq_true, decide_eq_true_eq, beq_iff_eq] at h
  simp only [blankRanges, List.mem_cons, List.not_mem_nil, or_false, exists_eq_or_imp,
    exists_eq_left]
  omega

theorem digitValue?_some {c : Char} {v : Nat} (h : digitValue? c = some v) :
    ∃ z ∈ digitZeros, z ≤ c.toNat ∧ c.toNat < z + 10 := by
  obtain ⟨z, hz, -⟩ := Option.map_eq_some_iff.1 h
  have hmem := List.mem_of_find?_eq_some hz
  have hp := List.find?_some hz
  simp only [Bool.and_eq_true, decide_eq_true_eq] at hp
  exact ⟨z, hmem, hp⟩

theorem digitZeros_apart_blank : ∀ z ∈ digitZeros, ∀ r ∈ blankRanges, z + 10 ≤ r.1 ∨ r.2 < z := by
  decide

theorem not_isBlank_of_isDecimalDigit {c : Char} (h : isDecimalDigit c = true) : isBlank c = false := by
  cases hb : isBlank c with
  | false => rfl
  | true =>
    obtain ⟨v, hv⟩ := Option.isSome_iff_exists.1 h
    obtain ⟨z, hz, hz1, hz2⟩ := digitValue?_some hv
    obtain ⟨r, hr, hr1, hr2⟩ := isBlank_mem_ranges hb
    have := digitZeros_apart_blank z hz r hr
    omega

theorem digitZeros_ascii : ∀ z ∈ digitZeros, z = 0x30 ∨ 0x660 ≤ z := by decide

/-- Code points below the Arabic-Indic digits and outside `0`..`9` are no decimal digits. -/
theorem isDecimalDigit_eq_false {c : Char} (h : c.toNat < 0x30 ∨ (0x3A ≤ c.toNat ∧ c.toNat < 0x660)) :
    isDecimalDigit c = false := by
  cases hd : isDecimalDigit c with
  | false => rfl
  | true =>
    obtain ⟨v, hv⟩ := Option.isSome_iff_exists.1 hd
    obtain ⟨z, hz, hz1, hz2⟩ := digitValue?_some hv
    rcases digitZeros_ascii z hz with rfl | hz <;> omega

theorem isDecimalDigit_of_isNameStart {c : Char} (h : isNameStart c = true) : isDecimalDigit c = false := by
  apply isDecimalDigit_eq_false
  simp only [isNameStart, Char.isAlpha, Char.isUpper, Char.isLower, Bool.or_eq_true,
    Bool.and_eq_true, decide_eq_true_eq, beq_iff_eq] at h
  rcases h with (h | h) | rfl
  · have h1 : 65 ≤ c.toNat := h.1
    have h2 : c.toNat ≤ 90 := h.2
    omega
  · have h1 : 97 ≤ c.toNat := h.1
    have h2 : c.toNat ≤ 122 := h.2
    omega
  · decide

/-- Visible ASCII characters are not blank. -/
theorem isBlank_eq_false_of_visible {c : Char} (h1 : 0x21 ≤ c.toNat) (h2 : c.toNat < 0x7F) :
    isBlank c = false := by
  cases hb : isBlank c with
  | false => rfl
  | true =>
    obtain ⟨r, hr, hr1, hr2⟩ := isBlank_mem_ranges hb
    simp only [blankRanges, List.mem_cons, List.not_mem_nil, or_false] at hr
    rcases hr with rfl | rfl | rfl | rfl | rfl | rfl | rfl | rfl | rfl | rfl <;> simp at hr1 hr2 <;> omega

theorem isBlank_of_isNameStart {c : Char} (h : isNameStart c = true) : isBlank c = false := by
  simp only [isNameStart, Char.isAlpha, Char.isUpper, Char.isLower, Bool.or_eq_true,
    Bool.and_eq_true, decide_eq_true_eq, beq_iff_eq] at h
  rcases h with (h | h) | rfl
  · exact isBlank_eq_false_of_visible (Nat.le_trans (by decide) h.1) (Nat.lt_of_le_of_lt h.2 (by decide))
  · exact isBlank_eq_false_of_visible (Nat.le_trans (by decide) h.1) (Nat.lt_of_le_of_lt h.2 (by decide))
  · decide

/-- The first character of every operator is a blank, a digit, a quote and a name start none. -/
theorem operatorTable_heads : ∀ e ∈ operatorTable, e.1 ≠ [] ∧ ∀ c ∈ e.1.head?,
    isBlank c = false ∧ isDecimalDigit c = false ∧ isNameStart c = false ∧ c ≠ '"' ∧ c ≠ '\'' := by
  -- entry by entry: a quantifier over characters is not decided directly
  simp only [operatorTable, List.forall_mem_cons, List.head?_cons, Option.mem_def,
    Option.some.injEq, forall_eq', List.not_mem_nil, IsEmpty.forall_iff, implies_true, and_true]
  repeat' apply And.intro
  all_goals decide

/-- The operators are listed longest first. -/
theorem operatorTable_sorted : operatorTable.Pairwise (fun a b => b.1.length ≤ a.1.length) := by
  decide

/-- Each operator is the first entry with its text. -/
theorem operatorTable_find_text : ∀ e ∈ operatorTable, operatorTable.find? (·.1 == e.1) = some e := by
  decide

/-! ## String bodies -/

/-- The body of a quoted string: plain characters other than the quote and the backslash, and
  escapes, a backslash with any character but a line feed. -/
inductive StringBody (q : Char) : List Char → Prop
  | nil : StringBody q []
  | plain {c : Char} {cs : List Char} : c ≠ q → c ≠ '\\' → StringBody q cs → StringBody q (c :: cs)
  | escape {d : Char} {cs : List Char} : d ≠ '\n' → StringBody q cs → StringBody q ('\\' :: d :: cs)

/-- One step of `stringBody`: a quote closes the body, a backslash takes the next character
  with it, and any other character is kept. -/
theorem stringBody_cons (q c : Char) (r : List Char) :
    stringBody q (c :: r) =
      if c == q then some ([], r)
      else if c == '\\' then
        match r with
        | [] => none
        | d :: r' =>
          if d == '\n' then none else (stringBody q r').map fun (b, rest) => (c :: d :: b, rest)
      else (stringBody q r).map fun (b, rest) => (c :: b, rest) :=
  (stringBody.eq_def q (c :: r)).trans rfl

theorem stringBody_of_body {q : Char} (hq : q ≠ '\\') {body : List Char} (h : StringBody q body)
    (rest : List Char) : stringBody q (body ++ q :: rest) = some (body, rest) := by
  induction h with
  | nil => simp [stringBody_cons]
  | @plain c cs hcq hcb _ ih => simp [stringBody_cons, hcq, hcb, ih]
  | @escape d cs hd _ ih => simp [stringBody_cons, hq.symm, hd, ih]

theorem body_of_stringBody {q : Char} {cs body rest : List Char}
    (h : stringBody q cs = some (body, rest)) : StringBody q body ∧ cs = body ++ q :: rest := by
  induction cs using stringBody.induct q generalizing body rest with
  | case1 => simp [stringBody.eq_def] at h
  | case2 c r hc =>
    simp only [stringBody_cons, hc, if_true, Option.some.injEq, Prod.mk.injEq] at h
    obtain ⟨rfl, rfl⟩ := h
    simp only [beq_iff_eq] at hc
    exact ⟨.nil, by simp [hc]⟩
  | case3 c hc hb => simp [stringBody_cons, hc, hb] at h
  | case4 c hc hb d r' hd => simp [stringBody_cons, hc, hb, hd] at h
  | case5 c hc hb d r' hd ih =>
    simp only [stringBody_cons, hc, hb, hd, if_true, if_false, Bool.false_eq_true] at h
    obtain ⟨⟨b, rest'⟩, hs, he⟩ := Option.map_eq_some_iff.1 h
    simp only [Prod.mk.injEq] at he
    obtain ⟨rfl, rfl⟩ := he
    obtain ⟨hb', rfl⟩ := ih hs
    simp only [beq_iff_eq] at hb hd
    subst hb
    exact ⟨.escape hd hb', rfl⟩
  | case6 c r hc hb ih =>
    simp only [stringBody_cons, hc, hb, if_false, Bool.false_eq_true] at h
    obtain ⟨⟨b, rest'⟩, hs, he⟩ := Option.map_eq_some_iff.1 h
    simp only [Prod.mk.injEq] at he
    obtain ⟨rfl, rfl⟩ := he
    obtain ⟨hb', rfl⟩ := ih hs
    simp only [beq_iff_eq] at hc hb
    exact ⟨.plain hc hb hb', rfl⟩

/-- A string body ends at the first quote it does not escape, so two bodies that a quote
  closes in one text are equal. -/
theorem StringBody.eq_of_append {q : Char} (hq : q ≠ '\\') {b b' r r' : List Char}
    (h : StringBody q b) (h' : StringBody q b') (he : b ++ q :: r = b' ++ q :: r') :
    b = b' ∧ r = r' := by
  induction h generalizing b' with
  | nil =>
    cases h' with
    | nil => simpa using he
    | plain hcq _ _ => simp at he; exact absurd he.1.symm hcq
    | escape _ _ => simp at he; exact absurd he.1 hq
  | @plain c cs hcq hcb _ ih =>
    cases h' with
    | nil => simp at he; exact absurd he.1 hcq
    | plain _ _ hb' =>
      simp only [List.cons_append, List.cons.injEq] at he
      obtain ⟨rfl, he⟩ := he
      obtain ⟨rfl, rfl⟩ := ih hb' he
      exact ⟨rfl, rfl⟩
    | escape _ _ => simp at he; exact absurd he.1 hcb
  | @escape d cs hd _ ih =>
    cases h' with
    | nil => simp at he; exact absurd he.1.symm hq
    | plain _ hcb _ => simp at he; exact absurd he.1.symm hcb
    | escape _ hb' =>
      simp only [List.cons_append, List.cons.injEq] at he
      obtain ⟨-, rfl, he⟩ := he
      obtain ⟨rfl, rfl⟩ := ih hb' he
      exact ⟨rfl, rfl⟩

/-! ## Lexemes -/

/-- The lexemes of the token grammar: digit runs with an optional fraction, quoted strings,
  ASCII names and the operators. -/
inductive Lexeme : List Char → Prop
  | integer {ds : List Char} : ds ≠ [] → (∀ d ∈ ds, isDecimalDigit d) → Lexeme ds
  | decimal {ds fs : List Char} : ds ≠ [] → fs ≠ [] → (∀ d ∈ ds, isDecimalDigit d) →
      (∀ d ∈ fs, isDecimalDigit d) → Lexeme (ds ++ '.' :: fs)
  | string {q : Char} {body : List Char} : (q = '"' ∨ q = '\'') → StringBody q body →
      Lexeme (q :: (body ++ [q]))
  | name {c : Char} {cs : List Char} : isNameStart c → (∀ d ∈ cs, isNameChar d) → Lexeme (c :: cs)
  | operator {op : List Char} {k : TokenKind} : (op, k) ∈ operatorTable → Lexeme op

/-- `l` is the longest lexeme that the text `cs` starts with. -/
structure LongestLexeme (l cs : List Char) : Prop where
  isPrefix : l <+: cs
  lexeme : Lexeme l
  longest : ∀ l', l' <+: cs → Lexeme l' → l'.length ≤ l.length

/-- The digit values of a run of decimal digits. -/
def digitValues (ds : List Char) : List Nat := ds.map fun d => (digitValue? d).getD 0

/-- What a lexeme is read as, from its own text. -/
def Piece.ofLexeme : List Char → Piece
  | [] => .blank
  | c :: r =>
    if isDecimalDigit c then
      match (c :: r).dropWhile isDecimalDigit with
      | '.' :: frac => .decimal (digitValues ((c :: r).takeWhile isDecimalDigit)) (digitValues frac)
      | _ => .integer (digitValues (c :: r))
    else if c == '"' || c == '\'' then .text r.dropLast
    else if isNameStart c then .name (String.ofList (c :: r))
    else match operatorTable.find? (·.1 == c :: r) with
      | some (_, k) => .operator k
      | none => .blank

theorem isNameChar_of_isNameStart {c : Char} (h : isNameStart c = true) : isNameChar c = true := by
  simp only [isNameStart, isNameChar, Char.isAlphanum, Bool.or_eq_true] at h ⊢
  tauto

theorem Lexeme.ne_nil {l : List Char} (h : Lexeme l) : l ≠ [] := by
  cases h with
  | integer hne _ => exact hne
  | decimal => simp
  | string => simp
  | name => simp
  | operator hk => exact (operatorTable_heads _ hk).1

/-- A lexeme that starts with a digit is a number. -/
theorem Lexeme.of_digit {c : Char} {r : List Char} (h : Lexeme (c :: r)) (hc : isDecimalDigit c) :
    (∀ d ∈ c :: r, isDecimalDigit d) ∨ ∃ ds fs, c :: r = ds ++ '.' :: fs ∧ ds ≠ [] ∧ fs ≠ [] ∧
      (∀ d ∈ ds, isDecimalDigit d) ∧ ∀ d ∈ fs, isDecimalDigit d := by
  generalize hl : c :: r = l at h
  cases h with
  | integer _ hd => exact .inl hd
  | decimal hds hfs hd hf => exact .inr ⟨_, _, rfl, hds, hfs, hd, hf⟩
  | string hq => cases hl; rcases hq with rfl | rfl <;> exact absurd hc (by decide)
  | name hn => cases hl; rw [isDecimalDigit_of_isNameStart hn] at hc; contradiction
  | operator hk =>
    subst hl
    have := ((operatorTable_heads _ hk).2 c (by simp)).2.1
    rw [this] at hc; contradiction

/-- A lexeme that starts with a quote is a string closed by that quote. -/
theorem Lexeme.of_quote {c : Char} {r : List Char} (h : Lexeme (c :: r)) (hc : c = '"' ∨ c = '\'') :
    ∃ body, StringBody c body ∧ r = body ++ [c] := by
  generalize hl : c :: r = l at h
  cases h with
  | integer hne hd =>
    have := hd c (by simp [← hl])
    rcases hc with rfl | rfl <;> exact absurd this (by decide)
  | decimal hds _ hd =>
    obtain ⟨d, ds, rfl⟩ := List.exists_cons_of_ne_nil hds
    simp only [List.cons_append, List.cons.injEq] at hl
    obtain ⟨rfl, -⟩ := hl
    have := hd c (by simp)
    rcases hc with rfl | rfl <;> exact absurd this (by decide)
  | string _ hb =>
    simp only [List.cons.injEq] at hl
    obtain ⟨rfl, rfl⟩ := hl
    exact ⟨_, hb, rfl⟩
  | name hn =>
    simp only [List.cons.injEq] at hl
    obtain ⟨rfl, -⟩ := hl
    rcases hc with rfl | rfl <;> exact absurd hn (by decide)
  | operator hk =>
    subst hl
    have := ((operatorTable_heads _ hk).2 c (by simp)).2.2.2
    rcases hc with rfl | rfl <;> simp at this

/-- A lexeme that starts with a name start is a name. -/
theorem Lexeme.of_nameStart {c : Char} {r : List Char} (h : Lexeme (c :: r)) (hc : isNameStart c) :
    ∀ d ∈ r, isNameChar d := by
  generalize hl : c :: r = l at h
  cases h with
  | integer hne hd =>
    have := hd c (by simp [← hl])
    rw [isDecimalDigit_of_isNameStart hc] at this; contradiction
  | decimal hds _ hd =>
    obtain ⟨d, ds, rfl⟩ := List.exists_cons_of_ne_nil hds
    simp only [List.cons_append, List.cons.injEq] at hl
    obtain ⟨rfl, -⟩ := hl
    have := hd c (by simp)
    rw [isDecimalDigit_of_isNameStart hc] at this; contradiction
  | string hq =>
    simp only [List.cons.injEq] at hl
    obtain ⟨rfl, -⟩ := hl
    rcases hq with rfl | rfl <;> exact absurd hc (by decide)
  | name _ hcs =>
    simp only [List.cons.injEq] at hl
    obtain ⟨rfl, rfl⟩ := hl
    exact hcs
  | operator hk =>
    subst hl
    have := ((operatorTable_heads _ hk).2 c (by simp)).2.2.1
    rw [this] at hc; contradiction

/-- A lexeme that starts with no digit, quote or name start is an operator. -/
theorem Lexeme.of_other {c : Char} {r : List Char} (h : Lexeme (c :: r))
    (hd : isDecimalDigit c = false) (hq : ¬ (c = '"' ∨ c = '\'')) (hn : isNameStart c = false) :
    ∃ k, (c :: r, k) ∈ operatorTable := by
  generalize hl : c :: r = l at h
  cases h with
  | integer hne hds =>
    have := hds c (by simp [← hl])
    rw [hd] at this; contradiction
  | decimal hds _ hdd =>
    obtain ⟨d, ds, rfl⟩ := List.exists_cons_of_ne_nil hds
    simp only [List.cons_append, List.cons.injEq] at hl
    obtain ⟨rfl, -⟩ := hl
    have := hdd c (by simp)
    rw [hd] at this; contradiction
  | string hq' =>
    simp only [List.cons.injEq] at hl
    obtain ⟨rfl, -⟩ := hl
    exact absurd hq' hq
  | name hn' =>
    simp only [List.cons.injEq] at hl
    obtain ⟨rfl, -⟩ := hl
    rw [hn] at hn'; contradiction
  | operator hk => subst hl; exact ⟨_, hk⟩

/-- No lexeme starts with a blank. -/
theorem Lexeme.head_not_blank {c : Char} {r : List Char} (h : Lexeme (c :: r)) : isBlank c = false := by
  by_cases hd : isDecimalDigit c
  · exact not_isBlank_of_isDecimalDigit hd
  by_cases hq : c = '"' ∨ c = '\''
  · rcases hq with rfl | rfl <;> decide
  by_cases hn : isNameStart c
  · exact isBlank_of_isNameStart hn
  obtain ⟨k, hk⟩ := h.of_other (by simpa using hd) hq (by simpa using hn)
  exact ((operatorTable_heads _ hk).2 c (by simp)).1

/-! ## Runs at the front of a text -/

section Run
variable {α : Type} {p : α → Bool}

theorem prefix_takeWhile : ∀ {l cs : List α}, l <+: cs → (∀ x ∈ l, p x) → l <+: cs.takeWhile p
  | [], _, _, _ => List.nil_prefix
  | _ :: _, [], h, _ => by simp at h
  | a :: l, c :: cs, h, hp => by
    obtain ⟨rfl, h'⟩ := List.cons_prefix_cons.1 h
    rw [List.takeWhile_cons_of_pos (hp a (by simp))]
    exact List.cons_prefix_cons.2 ⟨rfl, prefix_takeWhile h' fun x hx => hp x (List.mem_cons_of_mem _ hx)⟩

theorem dropWhile_head_false {l : List α} {y : α} {t : List α} (h : l.dropWhile p = y :: t) :
    p y = false := by
  have := List.head_dropWhile_not p (l := l) (by simp [h])
  simpa [h] using this

/-- A run of `p` that a non-`p` element ends is what `takeWhile` and `dropWhile` split off. -/
theorem takeWhile_dropWhile_of_stop {run : List α} {y : α} {t : List α} (hrun : ∀ x ∈ run, p x)
    (hy : p y = false) : (run ++ y :: t).takeWhile p = run ∧ (run ++ y :: t).dropWhile p = y :: t := by
  rw [List.takeWhile_append_of_pos hrun, List.dropWhile_append_of_pos hrun]
  simp [hy]

end Run

/-- What `scanFront` reports at a text: the longest lexeme, the rest after it and the lexeme read
  as a piece; or nothing, when no lexeme starts the text. -/
def FrontSpec (cs : List Char) : Option (Piece × List Char × List Char) → Prop
  | some (p, l, rest) => LongestLexeme l cs ∧ cs = l ++ rest ∧ p = Piece.ofLexeme l
  | none => ∀ l, l <+: cs → ¬ Lexeme l

theorem prefix_cons_of_ne_nil {l cs : List Char} {c : Char} (h : l <+: c :: cs) (hl : l ≠ []) :
    ∃ l', l = c :: l' ∧ l' <+: cs := by
  rcases List.prefix_cons_iff.1 h with rfl | h
  · exact absurd rfl hl
  · exact h

/-- A number at the front of a text is its digit run, or that run with a point and a fraction
  after it. -/
theorem Lexeme.number_front {c : Char} {r l : List Char} (hc : isDecimalDigit c) (h : Lexeme l)
    (hl : l <+: c :: r) :
    l.length ≤ ((c :: r).takeWhile isDecimalDigit).length ∨
      ∃ fs u, fs ≠ [] ∧ (∀ d ∈ fs, isDecimalDigit d) ∧
        (c :: r).dropWhile isDecimalDigit = '.' :: (fs ++ u) ∧
        l = (c :: r).takeWhile isDecimalDigit ++ '.' :: fs := by
  obtain ⟨l', rfl, -⟩ := prefix_cons_of_ne_nil hl h.ne_nil
  rcases h.of_digit hc with hall | ⟨ds, fs, he, _, hfs, hds, hfd⟩
  · exact .inl (prefix_takeWhile hl hall).length_le
  · right
    obtain ⟨v, hv⟩ := hl
    rw [he, List.append_assoc, List.cons_append] at hv
    obtain ⟨h1, h2⟩ := takeWhile_dropWhile_of_stop (t := fs ++ v) hds (by decide : isDecimalDigit '.' = false)
    rw [hv] at h1 h2
    exact ⟨fs, v, hfs, hfd, h2, by rw [he, h1]⟩

theorem Piece.ofLexeme_number {c : Char} {r : List Char} (hc : isDecimalDigit c)
    (hall : ∀ d ∈ c :: r, isDecimalDigit d) : Piece.ofLexeme (c :: r) = .integer (digitValues (c :: r)) := by
  simp [Piece.ofLexeme, hc, List.dropWhile_eq_nil_iff.2 hall]

theorem Piece.ofLexeme_decimal {ds fs : List Char} (hds : ds ≠ []) (hd : ∀ d ∈ ds, isDecimalDigit d) :
    Piece.ofLexeme (ds ++ '.' :: fs) = .decimal (digitValues ds) (digitValues fs) := by
  obtain ⟨c, r, rfl⟩ := List.exists_cons_of_ne_nil hds
  obtain ⟨h1, h2⟩ := takeWhile_dropWhile_of_stop (t := fs) hd (by decide : isDecimalDigit '.' = false)
  simp only [List.cons_append] at h1 h2
  simp [Piece.ofLexeme, hd c (by simp), h1, h2]

theorem scanFront_digit {c : Char} {r : List Char} (hb : isBlank c = false) (hc : isDecimalDigit c = true) :
    FrontSpec (c :: r) (scanFront (c :: r)) := by
  simp only [scanFront, hb, hc, List.span_eq_takeWhile_dropWhile, Bool.false_eq_true, if_false, if_true]
  have hWd : ∀ x ∈ (c :: r).takeWhile isDecimalDigit, isDecimalDigit x :=
    fun x hx => List.mem_takeWhile_imp hx
  have hWne : (c :: r).takeWhile isDecimalDigit ≠ [] := by simp [hc]
  have hsplit := (List.takeWhile_append_dropWhile (p := isDecimalDigit) (l := c :: r)).symm
  -- the digit run alone, when no point and fraction follow it
  have integer (hno : ∀ fs u, fs ≠ [] → (∀ d ∈ fs, isDecimalDigit d) →
      (c :: r).dropWhile isDecimalDigit ≠ '.' :: (fs ++ u)) :
      FrontSpec (c :: r) (some (.integer (digitValues ((c :: r).takeWhile isDecimalDigit)),
        (c :: r).takeWhile isDecimalDigit, (c :: r).dropWhile isDecimalDigit)) := by
    refine ⟨⟨List.takeWhile_prefix _, .integer hWne hWd, fun l' hl' hlex => ?_⟩, hsplit, ?_⟩
    · rcases hlex.number_front hc hl' with hle | ⟨fs, u, hfs, hfd, hR, -⟩
      · exact hle
      · exact absurd hR (hno fs u hfs hfd)
    · obtain ⟨c', W', hW⟩ := List.exists_cons_of_ne_nil hWne
      have hc' : c = c' := by simp only [List.takeWhile_cons_of_pos hc, List.cons.injEq] at hW; exact hW.1
      subst hc'
      rw [hW, Piece.ofLexeme_number hc (hW ▸ hWd)]
  split
  · rename_i d r2 hR
    split
    · rename_i hd
      have hFd : ∀ x ∈ (d :: r2).takeWhile isDecimalDigit, isDecimalDigit x :=
        fun x hx => List.mem_takeWhile_imp hx
      have hFne : (d :: r2).takeWhile isDecimalDigit ≠ [] := by simp [hd]
      refine ⟨⟨⟨(d :: r2).dropWhile isDecimalDigit, ?_⟩, .decimal hWne hFne hWd hFd, fun l' hl' hlex => ?_⟩,
        ?_, (Piece.ofLexeme_decimal hWne hWd).symm⟩
      · conv_rhs => rw [hsplit, hR, ← List.takeWhile_append_dropWhile (p := isDecimalDigit) (l := d :: r2)]
        simp
      · rcases hlex.number_front hc hl' with hle | ⟨fs, u, hfs, hfd, hR', rfl⟩
        · simp only [List.length_append, List.length_cons]; omega
        · rw [hR, List.cons.injEq] at hR'
          have hpre : fs <+: d :: r2 := ⟨u, hR'.2.symm⟩
          have := (prefix_takeWhile hpre hfd).length_le
          simp only [List.length_append, List.length_cons]; omega
      · conv_lhs => rw [hsplit, hR, ← List.takeWhile_append_dropWhile (p := isDecimalDigit) (l := d :: r2)]
        simp
    · rename_i hd
      refine integer fun fs u hfs hfd hR' => ?_
      rw [hR, List.cons.injEq] at hR'
      obtain ⟨f, fs', rfl⟩ := List.exists_cons_of_ne_nil hfs
      simp only [List.cons_append, List.cons.injEq] at hR'
      obtain ⟨rfl, -⟩ := hR'.2
      exact hd (hfd _ (by simp))
  · rename_i hR
    refine integer fun fs u hfs hfd hR' => ?_
    obtain ⟨f, fs', rfl⟩ := List.exists_cons_of_ne_nil hfs
    exact hR f (fs' ++ u) (by simpa using hR')

theorem scanFront_quote {c : Char} {r : List Char} (hq : c = '"' ∨ c = '\'') :
    FrontSpec (c :: r) (scanFront (c :: r)) := by
  have hb : isBlank c = false := by rcases hq with rfl | rfl <;> decide
  have hd : isDecimalDigit c = false := by rcases hq with rfl | rfl <;> decide
  have hqb : (c == '"' || c == '\'') = true := by rcases hq with rfl | rfl <;> decide
  have hcb : c ≠ '\\' := by rcases hq with rfl | rfl <;> decide
  simp only [scanFront, hb, hd, hqb, Bool.false_eq_true, if_false, if_true, List.tail_cons]
  split
  · rename_i body rest hs
    obtain ⟨hbody, rfl⟩ := body_of_stringBody hs
    refine ⟨⟨⟨rest, by simp⟩, .string hq hbody, fun l' hl' hlex => ?_⟩, by simp, ?_⟩
    · obtain ⟨l'', rfl, ⟨u, hu⟩⟩ := prefix_cons_of_ne_nil hl' hlex.ne_nil
      obtain ⟨body', hbody', rfl⟩ := hlex.of_quote hq
      have := (hbody'.eq_of_append hcb hbody (by simpa using hu)).1
      simp [this]
    · simp [Piece.ofLexeme, hd, hqb]
  · rename_i hs
    intro l' hl' hlex
    obtain ⟨l'', rfl, ⟨u, hu⟩⟩ := prefix_cons_of_ne_nil hl' hlex.ne_nil
    obtain ⟨body', hbody', rfl⟩ := hlex.of_quote hq
    have := stringBody_of_body hcb hbody' u
    rw [← hu, List.append_assoc, List.singleton_append] at hs
    exact absurd this (by simp [hs])

theorem scanFront_name {c : Char} {r : List Char} (hn : isNameStart c = true) :
    FrontSpec (c :: r) (scanFront (c :: r)) := by
  have hb := isBlank_of_isNameStart hn
  have hd := isDecimalDigit_of_isNameStart hn
  have hqb : (c == '"' || c == '\'') = false := by
    cases h : (c == '"' || c == '\'') with
    | false => rfl
    | true =>
      simp only [Bool.or_eq_true, beq_iff_eq] at h
      rcases h with rfl | rfl <;> exact absurd hn (by decide)
  simp only [scanFront, hb, hd, hqb, hn, Bool.false_eq_true, if_false, if_true,
    List.span_eq_takeWhile_dropWhile]
  have hN : (c :: r).takeWhile isNameChar = c :: r.takeWhile isNameChar :=
    List.takeWhile_cons_of_pos (isNameChar_of_isNameStart hn)
  refine ⟨⟨List.takeWhile_prefix _, ?_, fun l' hl' hlex => ?_⟩, List.takeWhile_append_dropWhile.symm, ?_⟩
  · rw [hN]
    exact .name hn fun x hx => List.mem_takeWhile_imp hx
  · obtain ⟨l'', rfl, -⟩ := prefix_cons_of_ne_nil hl' hlex.ne_nil
    have hall : ∀ x ∈ c :: l'', isNameChar x := by
      intro x hx
      rcases List.mem_cons.1 hx with rfl | hx
      · exact isNameChar_of_isNameStart hn
      · exact hlex.of_nameStart hn x hx
    exact (prefix_takeWhile hl' hall).length_le
  · rw [hN]
    simp [Piece.ofLexeme, hd, hqb, hn]

theorem find?_prefix_longest {cs : List Char} :
    ∀ {tbl : List (List Char × TokenKind)} {e : List Char × TokenKind},
      tbl.Pairwise (fun a b => b.1.length ≤ a.1.length) →
      tbl.find? (fun (op, _) => op.isPrefixOf cs) = some e →
      ∀ e' ∈ tbl, e'.1 <+: cs → e'.1.length ≤ e.1.length
  | [], _, _, h => by simp at h
  | a :: tbl, e, hs, h => by
    intro e' he' hpre
    rw [List.pairwise_cons] at hs
    by_cases ha : a.1.isPrefixOf cs
    · have : e = a := by simpa [List.find?_cons, ha] using h.symm
      subst this
      rcases List.mem_cons.1 he' with rfl | he'
      · exact le_rfl
      · exact hs.1 e' he'
    · have ht : tbl.find? (fun (op, _) => op.isPrefixOf cs) = some e := by
        simpa [List.find?_cons, ha] using h
      rcases List.mem_cons.1 he' with rfl | he'
      · exact absurd (List.isPrefixOf_iff_prefix.2 hpre) ha
      · exact find?_prefix_longest hs.2 ht e' he' hpre

theorem scanFront_operator {c : Char} {r : List Char} (hb : isBlank c = false)
    (hd : isDecimalDigit c = false) (hq : ¬ (c = '"' ∨ c = '\'')) (hn : isNameStart c = false) :
    FrontSpec (c :: r) (scanFront (c :: r)) := by
  have hqb : (c == '"' || c == '\'') = false := by simpa using hq
  simp only [scanFront, hb, hd, hqb, hn, Bool.false_eq_true, if_false, operatorAt]
  split
  · rename_i op k hf
    have hmem := List.mem_of_find?_eq_some hf
    have hpre : op <+: c :: r := by simpa using List.find?_some hf
    refine ⟨⟨hpre, .operator hmem, fun l' hl' hlex => ?_⟩, ?_, ?_⟩
    · obtain ⟨l'', rfl, -⟩ := prefix_cons_of_ne_nil hl' hlex.ne_nil
      obtain ⟨k', hk'⟩ := hlex.of_other hd hq hn
      exact find?_prefix_longest operatorTable_sorted hf _ hk' hl'
    · exact (List.prefix_iff_eq_append.1 hpre).symm
    · obtain ⟨op', rfl, -⟩ := prefix_cons_of_ne_nil hpre (operatorTable_heads _ hmem).1
      have := operatorTable_find_text _ hmem
      simp [Piece.ofLexeme, hd, hqb, hn, this]
  · rename_i hf
    intro l' hl' hlex
    obtain ⟨l'', rfl, -⟩ := prefix_cons_of_ne_nil hl' hlex.ne_nil
    obtain ⟨k', hk'⟩ := hlex.of_other hd hq hn
    exact List.find?_eq_none.1 hf _ hk' (List.isPrefixOf_iff_prefix.2 hl')

/-- At a text that does not start with a blank, `scanFront` takes the longest lexeme, or
  reports that none starts the text. -/
theorem scanFront_spec {c : Char} {r : List Char} (hb : isBlank c = false) :
    FrontSpec (c :: r) (scanFront (c :: r)) := by
  by_cases hd : isDecimalDigit c
  · exact scanFront_digit hb hd
  by_cases hq : c = '"' ∨ c = '\''
  · exact scanFront_quote hq
  by_cases hn : isNameStart c
  · exact scanFront_name hn
  · exact scanFront_operator hb (by simpa using hd) hq (by simpa using hn)


/-- Two longest lexemes of one text are one. -/
theorem LongestLexeme.unique {l l' cs : List Char} (h : LongestLexeme l cs) (h' : LongestLexeme l' cs) :
    l = l' := by
  have hlen : l.length = l'.length :=
    Nat.le_antisymm (h'.longest l h.isPrefix h.lexeme) (h.longest l' h'.isPrefix h'.lexeme)
  rw [List.prefix_iff_eq_take.1 h.isPrefix, List.prefix_iff_eq_take.1 h'.isPrefix, hlen]

/-- At a text that a longest lexeme starts, `scanFront` takes that lexeme. -/
theorem scanFront_of_longest {l rest : List Char} (h : LongestLexeme l (l ++ rest)) :
    scanFront (l ++ rest) = some (Piece.ofLexeme l, l, rest) := by
  obtain ⟨c, l', rfl⟩ := List.exists_cons_of_ne_nil h.lexeme.ne_nil
  have hspec := scanFront_spec (r := l' ++ rest) h.lexeme.head_not_blank
  rw [List.cons_append] at h ⊢
  revert hspec
  cases scanFront (c :: (l' ++ rest)) with
  | none => intro hspec; exact absurd h.lexeme (hspec _ h.isPrefix)
  | some res =>
    obtain ⟨p, l₀, rest₀⟩ := res
    rintro ⟨hl₀, he, rfl⟩
    obtain rfl := hl₀.unique h
    rw [← List.cons_append] at he
    rw [List.append_cancel_left he.symm]

/-- At a text that starts with a blank, `scanFront` takes the whole run of blanks. -/
theorem scanFront_blank {c : Char} {r : List Char} (hc : isBlank c = true) :
    scanFront (c :: r) = some (.blank, (c :: r).takeWhile isBlank, (c :: r).dropWhile isBlank) := by
  simp [scanFront, hc, List.span_eq_takeWhile_dropWhile]

end FieldRules.Lang
