import Mathlib
import FieldRules.Proofs.Lockstep
import FieldRules.Proofs.Scoping
import FieldRules.Proofs.HostEquality

/-! # Checks alike but for some names

A check reads the scope at the names its programs leave free: those of the snippet a mapper
renders for the value, and those of the rule but the field's own name, which the check binds
first (`CheckReads`). It writes the scope at the names it binds: the field's own name and the
lets of both programs (`CheckBinds`). It writes the store only by giving bound values identity,
which adds cells behind those there (`Store.Extends`).

Two checkers over one store whose scopes agree off a set of names `D`
(`ExprChecker.Alike`) check a rule that reads no name of `D` alike, and still agree off `D`
after it (`ExprChecker.Alike.check`); a checker that checks alone keeps its mappers and clock
and changes its scope only where the check binds (`ExprChecker.Later`, `ExprChecker.check_get`).
Kept programs and patterns play no part as long as each is what reading its text gives
(`CacheCoherent`). Walk states alike off `D`, with results related by a relation that each
shared result keeps (`WalkState.Alike`), go through the rules of one field in lockstep
(`WalkContext.fieldStep_alike`). -/

namespace FieldRules.Store

/-! ## The store only grows -/

/-- `s'` holds the cells of `s`, in order, and maybe more behind them. -/
def Extends (s s' : Store) : Prop := ∃ more : List Value, s'.cells.toList = s.cells.toList ++ more

namespace Extends

variable {s₁ s₂ s₃ : Store}

theorem refl (s : Store) : s.Extends s := ⟨[], by simp⟩

theorem trans (h₁ : s₁.Extends s₂) (h₂ : s₂.Extends s₃) : s₁.Extends s₃ := by
  obtain ⟨m₁, h₁⟩ := h₁
  obtain ⟨m₂, h₂⟩ := h₂
  exact ⟨m₁ ++ m₂, by rw [h₂, h₁, List.append_assoc]⟩

theorem add (s : Store) (v : Value) : s.Extends (s.add v).1 := ⟨[v], by simp [Store.add]⟩

theorem size_le (h : s₁.Extends s₂) : s₁.cells.size ≤ s₂.cells.size := by
  obtain ⟨more, h⟩ := h
  have hlen := congrArg List.length h
  simp only [Array.length_toList, List.length_append] at hlen
  omega

/-- Stores that hold each other's cells are one. -/
theorem antisymm (h : s₁.Extends s₂) (h' : s₂.Extends s₁) : s₁ = s₂ := by
  obtain ⟨more, hm⟩ := h
  have hlen := congrArg List.length hm
  have hle := h'.size_le
  simp only [Array.length_toList, List.length_append] at hlen
  obtain rfl : more = [] := List.eq_nil_of_length_eq_zero (by omega)
  rw [List.append_nil] at hm
  obtain ⟨c₁⟩ := s₁
  obtain ⟨c₂⟩ := s₂
  exact congrArg Store.mk (Array.toList_inj.1 hm).symm

end Extends

/-- Giving a value identity keeps the cells there and may add more. -/
theorem extends_withIdentity (s : Store) (v : Value) : s.Extends (s.withIdentity v).1 :=
  withIdentity_keeps s.Extends (fun t w _ h => h.trans (Extends.add t w)) s v (Extends.refl s)

end FieldRules.Store

namespace FieldRules.Lang

/-! ## What runs write -/

/-- The names the lets among statements bind. -/
def boundNamesOf : List Statement → List String
  | [] => []
  | .bind n _ :: rest => n :: boundNamesOf rest
  | .eval _ :: rest => boundNamesOf rest

/-- The names a program's lets bind. -/
def Program.boundNames (p : Program) : List String := boundNamesOf p.statements

theorem Scope.get_set_agree {sc₁ sc₂ : Scope} {m : String} (n : String) (v : Value)
    (h : m = n ∨ sc₁.get m = sc₂.get m) : (sc₁.set n v).get m = (sc₂.set n v).get m := by
  rw [Scope.get_set, Scope.get_set]
  split_ifs with hmn
  · rfl
  · exact h.resolve_left hmn

/-- A run keeps the cells of the store and may add more. -/
theorem runStatements_extends (clock : Int) : ∀ (ss : List Statement) (store : Store) (sc : Scope)
    (last : Value), store.Extends (runStatements clock store sc ss last).1
  | [], store, _, _ => Store.Extends.refl store
  | .bind n e :: rest, store, sc, _ => by
    simp only [runStatements]
    split
    · exact Store.Extends.refl store
    · exact (Store.extends_withIdentity store _).trans (runStatements_extends clock rest _ _ _)
  | .eval e :: rest, store, sc, _ => by
    simp only [runStatements]
    split
    · exact Store.Extends.refl store
    · exact runStatements_extends clock rest store sc _

/-- A run changes the scope only at the names its lets bind. -/
theorem runStatements_get_of_not_bound (clock : Int) (m : String) : ∀ (ss : List Statement)
    (store : Store) (sc : Scope) (last : Value), m ∉ boundNamesOf ss →
    (runStatements clock store sc ss last).2.1.get m = sc.get m
  | [], _, _, _, _ => rfl
  | .bind n e :: rest, store, sc, _, hm => by
    simp only [boundNamesOf, List.mem_cons, not_or] at hm
    simp only [runStatements]
    split
    · rfl
    · rw [runStatements_get_of_not_bound clock m rest _ _ _ hm.2, Scope.get_set_of_ne _ hm.1]
  | .eval e :: rest, store, sc, _, hm => by
    simp only [runStatements]
    split
    · rfl
    · exact runStatements_get_of_not_bound clock m rest _ _ _ hm

/-- Runs over one store from scopes that agree on the names the statements read end in scopes
  that agree wherever the scopes they started in did. -/
theorem runStatements_get_agree (clock : Int) : ∀ (ss : List Statement) (store : Store)
    (sc₁ sc₂ : Scope) (last : Value), (∀ n ∈ freeNamesOf ss, sc₁.get n = sc₂.get n) →
    ∀ m, sc₁.get m = sc₂.get m →
      (runStatements clock store sc₁ ss last).2.1.get m =
        (runStatements clock store sc₂ ss last).2.1.get m
  | [], _, _, _, _, _, _, hm => hm
  | .bind n e :: rest, store, sc₁, sc₂, _, hn, m, hm => by
    have he : Env.eval ⟨store, sc₁, clock⟩ e = Env.eval ⟨store, sc₂, clock⟩ e :=
      Env.eval_congr e (fun k h => hn k (by simp [freeNamesOf, h])) (fun _ => rfl)
    simp only [runStatements, he]
    split
    · exact hm
    · -- the let binds one value in both scopes
      refine runStatements_get_agree clock rest _ _ _ _ (fun k hk => ?_) m
        (Scope.get_set_agree n _ (.inr hm))
      by_cases hkn : k = n
      · exact Scope.get_set_agree n _ (.inl hkn)
      · exact Scope.get_set_agree n _ (.inr (hn k (by simp [freeNamesOf, hk, hkn])))
  | .eval e :: rest, store, sc₁, sc₂, _, hn, m, hm => by
    have he : Env.eval ⟨store, sc₁, clock⟩ e = Env.eval ⟨store, sc₂, clock⟩ e :=
      Env.eval_congr e (fun k h => hn k (by simp [freeNamesOf, h])) (fun _ => rfl)
    simp only [runStatements, he]
    split
    · exact hm
    · exact runStatements_get_agree clock rest _ _ _ _ (fun k hk => hn k (by simp [freeNamesOf, hk]))
        m hm

namespace Session

variable (ss : Session)

@[simp] theorem bind_store (n : String) (v : Value) :
    (ss.bind n v).store = (ss.store.withIdentity v).1 := rfl

@[simp] theorem bind_scope (n : String) (v : Value) :
    (ss.bind n v).scope = ss.scope.set n (ss.store.withIdentity v).2 := rfl

@[simp] theorem bind_clock (n : String) (v : Value) : (ss.bind n v).clock = ss.clock := rfl

@[simp] theorem run_store (p : Program) : (ss.run p).1.store = (p.run ss.store ss.clock ss.scope).1 :=
  rfl

@[simp] theorem run_scope (p : Program) :
    (ss.run p).1.scope = (p.run ss.store ss.clock ss.scope).2.1 := rfl

@[simp] theorem run_clock (p : Program) : (ss.run p).1.clock = ss.clock := rfl

@[simp] theorem run_result (p : Program) : (ss.run p).2 = (p.run ss.store ss.clock ss.scope).2.2 :=
  rfl

/-- Reading and running rule text: nothing happens when it does not read, and otherwise its
  program runs. -/
theorem evaluate_eq (source : String) :
    ss.evaluate source = match parse source with
      | .error e => (ss, .error (.unreadable e))
      | .ok p => ((ss.run p).1, (ss.run p).2.mapError .eval) := by
  unfold evaluate
  cases parse source <;> rfl

/-- A value built from a snippet is its value, unless that is none; the session is the one the
  snippet's run leaves. -/
theorem materialize_fst (snippet : String) :
    (ss.materialize snippet).1 = (ss.evaluate snippet).1 := by
  unfold materialize
  generalize ss.evaluate snippet = q
  obtain ⟨ss', r⟩ := q
  cases r with
  | ok v => dsimp only; split <;> rfl
  | error e => rfl

/-- Two sessions over one store at one clock whose scopes agree at every name off `D`. -/
structure AgreeOff (D : String → Prop) (ss₁ ss₂ : Session) : Prop where
  store : ss₁.store = ss₂.store
  clock : ss₁.clock = ss₂.clock
  scope : ∀ n, ¬ D n → ss₁.scope.get n = ss₂.scope.get n

variable {D : String → Prop} {ss₁ ss₂ : Session}

/-- Binding one value keeps sessions agreeing, and they agree at the name bound. -/
theorem AgreeOff.bind (h : AgreeOff D ss₁ ss₂) (n : String) (v : Value) :
    AgreeOff D (ss₁.bind n v) (ss₂.bind n v) ∧
      (ss₁.bind n v).scope.get n = (ss₂.bind n v).scope.get n := by
  refine ⟨⟨by simp [h.store], by simp [h.clock], fun m hm => ?_⟩, by simp [h.store]⟩
  simp only [bind_scope, h.store]
  exact Scope.get_set_agree n _ (.inr (h.scope m hm))

/-- Sessions that agree off `D` and at the names a program reads run it alike, and still agree
  off `D`. -/
theorem AgreeOff.run (h : AgreeOff D ss₁ ss₂) (p : Program)
    (hp : ∀ n ∈ p.freeNames, ss₁.scope.get n = ss₂.scope.get n) :
    (ss₁.run p).2 = (ss₂.run p).2 ∧ AgreeOff D (ss₁.run p).1 (ss₂.run p).1 := by
  obtain ⟨hs, hr⟩ := runStatements_congr ss₁.clock ss₁.clock p.statements ss₁.store ss₁.scope
    ss₂.scope .none hp (fun _ => rfl)
  refine ⟨?_, ⟨?_, by simp [h.clock], fun m hm => ?_⟩⟩
  · simpa [Program.run, ← h.store, ← h.clock] using hr
  · simpa [Program.run, ← h.store, ← h.clock] using hs
  · simp only [run_scope, Program.run, ← h.store, ← h.clock]
    exact runStatements_get_agree _ _ _ _ _ _ hp m (h.scope m hm)

/-- Sessions that agree off `D` and at the names the program of a text reads read and run it
  alike, and still agree off `D`. -/
theorem AgreeOff.evaluate (h : AgreeOff D ss₁ ss₂) (source : String)
    (hp : ∀ p, parse source = .ok p → ∀ n ∈ p.freeNames, ss₁.scope.get n = ss₂.scope.get n) :
    (ss₁.evaluate source).2 = (ss₂.evaluate source).2 ∧
      AgreeOff D (ss₁.evaluate source).1 (ss₂.evaluate source).1 := by
  rw [evaluate_eq, evaluate_eq]
  cases hs : parse source with
  | error e => exact ⟨rfl, h⟩
  | ok p =>
    obtain ⟨hr, ha⟩ := h.run p (hp p hs)
    exact ⟨by simp only [hr], ha⟩

theorem AgreeOff.materialize (h : AgreeOff D ss₁ ss₂) (snippet : String)
    (hp : ∀ p, parse snippet = .ok p → ∀ n ∈ p.freeNames, ss₁.scope.get n = ss₂.scope.get n) :
    (ss₁.materialize snippet).2 = (ss₂.materialize snippet).2 ∧
      AgreeOff D (ss₁.materialize snippet).1 (ss₂.materialize snippet).1 := by
  obtain ⟨hr, ha⟩ := h.evaluate snippet hp
  rw [materialize_fst, materialize_fst]
  refine ⟨?_, ha⟩
  unfold Session.materialize
  generalize ss₁.evaluate snippet = q₁ at hr ha
  generalize ss₂.evaluate snippet = q₂ at hr ha
  obtain ⟨t₁, r⟩ := q₁
  obtain ⟨t₂, r₂⟩ := q₂
  obtain rfl : r = r₂ := hr
  cases r with
  | error e => rfl
  | ok v =>
    dsimp only at ha ⊢
    rw [ha.store]
    by_cases hn : t₂.store.isNone v = true <;> simp [hn]

/-! ## One session alone -/

theorem extends_run (p : Program) : ss.store.Extends (ss.run p).1.store :=
  runStatements_extends _ _ _ _ _

theorem extends_evaluate (source : String) : ss.store.Extends (ss.evaluate source).1.store := by
  rw [evaluate_eq]
  split
  · exact Store.Extends.refl _
  · exact ss.extends_run _

theorem get_evaluate (source : String) (m : String)
    (hm : ∀ p, parse source = .ok p → m ∉ p.boundNames) :
    (ss.evaluate source).1.scope.get m = ss.scope.get m := by
  rw [evaluate_eq]
  split
  · rfl
  · rename_i p hp
    exact runStatements_get_of_not_bound _ m _ _ _ _ (hm p hp)

@[simp] theorem evaluate_clock (source : String) : (ss.evaluate source).1.clock = ss.clock := by
  rw [evaluate_eq]
  split <;> rfl

theorem extends_materialize (snippet : String) :
    ss.store.Extends (ss.materialize snippet).1.store := by
  rw [materialize_fst]
  exact ss.extends_evaluate snippet

theorem get_materialize (snippet : String) (m : String)
    (hm : ∀ p, parse snippet = .ok p → m ∉ p.boundNames) :
    (ss.materialize snippet).1.scope.get m = ss.scope.get m := by
  rw [materialize_fst]
  exact ss.get_evaluate snippet m hm

@[simp] theorem materialize_clock (snippet : String) :
    (ss.materialize snippet).1.clock = ss.clock := by
  rw [materialize_fst]
  exact ss.evaluate_clock snippet

theorem extends_bind (n : String) (v : Value) : ss.store.Extends (ss.bind n v).store := by
  simpa using Store.extends_withIdentity ss.store v

end Session

end FieldRules.Lang

namespace FieldRules.Rule

open Lang

/-! ## Kept programs and patterns -/

/-- Every entry of a cache by text is what reading its text gives. -/
def CacheCoherent {ε α : Type} (read : String → Except ε α) (l : List (String × α)) : Prop :=
  ∀ t x, (t, x) ∈ l → read t = .ok x

namespace CacheCoherent

variable {ε α : Type} {read : String → Except ε α} {l : List (String × α)} {t : String} {x : α}

/-- A cache that keeps nothing is coherent. -/
theorem nil : CacheCoherent read [] := fun _ _ h => absurd h List.not_mem_nil

theorem lookup (h : CacheCoherent read l) (hl : l.lookup t = some x) : read t = .ok x := by
  obtain ⟨l₁, l₂, rfl, -⟩ := List.lookup_eq_some_iff.1 hl
  exact h t x (List.mem_append_right _ List.mem_cons_self)

theorem append (h : CacheCoherent read l) (hx : read t = .ok x) :
    CacheCoherent read (l ++ [(t, x)]) := by
  intro t' x' hmem
  rcases List.mem_append.1 hmem with hmem | hmem
  · exact h t' x' hmem
  · obtain ⟨rfl, rfl⟩ := Prod.mk.inj (List.mem_singleton.1 hmem)
    exact hx

end CacheCoherent

/-- Searching through coherent kept patterns finds what compiling the pattern finds, and keeps
  them coherent. -/
theorem PatternCache.search_of_coherent {pc : PatternCache}
    (hc : CacheCoherent compilePattern pc.entries) (p text : String) :
    (pc.search p text).2 = searchPattern p text ∧
      CacheCoherent compilePattern (pc.search p text).1.entries := by
  unfold PatternCache.search
  split
  · rename_i q hq
    exact ⟨by simp [searchPattern, hc.lookup hq, Except.map], hc⟩
  · split
    · rename_i e he
      exact ⟨by simp [searchPattern, he, Except.map], hc⟩
    · rename_i q hq
      exact ⟨by simp [searchPattern, hq, Except.map], hc.append hq⟩

/-! ## What a check reads and binds -/

/-- The program of the snippet a mapper renders for a value: the value's type has a mapper, the
  mapper renders the value, and the snippet reads. -/
def snippetProgram (mappers : List (TypeKey × Mapper)) (s : Store) (v : Value) : Option Program :=
  match mappers.lookup (TypeKey.of (s.resolve v)) with
  | none => none
  | some m =>
    match m.render s v with
    | .error _ => none
    | .ok snippet => (parse snippet).toOption

/-- The names checking `expr` on the field `name` of value `v` reads from the scope: those the
  mapper's snippet leaves free, and those the rule leaves free but the field's own name, which
  the check binds first. -/
def CheckReads (mappers : List (TypeKey × Mapper)) (s : Store) (name : String) (v : Value)
    (expr : String) (n : String) : Prop :=
  (∃ p, snippetProgram mappers s v = some p ∧ n ∈ p.freeNames) ∨
    (∃ p, parse expr = .ok p ∧ n ∈ p.freeNames ∧ n ≠ name)

/-- The names checking `expr` on the field `name` of value `v` may bind: the field's own name
  and the lets of the mapper's snippet and of the rule. -/
def CheckBinds (mappers : List (TypeKey × Mapper)) (s : Store) (name : String) (v : Value)
    (expr : String) (n : String) : Prop :=
  n = name ∨ (∃ p, snippetProgram mappers s v = some p ∧ n ∈ p.boundNames) ∨
    (∃ p, parse expr = .ok p ∧ n ∈ p.boundNames)

theorem snippetProgram_eq {mappers : List (TypeKey × Mapper)} {s : Store} {v : Value} {m : Mapper}
    {snippet : String} {p : Program} (hm : mappers.lookup (TypeKey.of (s.resolve v)) = some m)
    (hr : m.render s v = .ok snippet) (hp : parse snippet = .ok p) :
    snippetProgram mappers s v = some p := by
  simp [snippetProgram, hm, hr, hp, Except.toOption]

namespace ExprChecker

variable {D B B' : String → Prop} {c c₁ c₂ c₃ : ExprChecker}

/-- Reading a rule through coherent kept programs gives what reading it gives, and keeps them
  coherent; the session and mappers stay. -/
theorem compileRule_of_coherent (hc : CacheCoherent parse c.scripts) (t : String) :
    (c.compileRule t).2 = parse t ∧ CacheCoherent parse (c.compileRule t).1.scripts ∧
      (c.compileRule t).1.session = c.session ∧ (c.compileRule t).1.mappers = c.mappers := by
  unfold ExprChecker.compileRule
  split
  · rename_i p hp
    exact ⟨(hc.lookup hp).symm, hc, rfl, rfl⟩
  · split
    · rename_i e he
      exact ⟨he.symm, hc, rfl, rfl⟩
    · rename_i p hp
      exact ⟨hp.symm, hc.append hp, rfl, rfl⟩

@[simp] theorem compileRule_session (c : ExprChecker) (t : String) :
    (c.compileRule t).1.session = c.session := by
  unfold compileRule
  split
  · rfl
  · split <;> rfl

@[simp] theorem compileRule_mappers (c : ExprChecker) (t : String) :
    (c.compileRule t).1.mappers = c.mappers := by
  unfold compileRule
  split
  · rfl
  · split <;> rfl

/-- Preparing a value keeps the kept programs, the mappers and the clock. -/
theorem prepare_keeps (c : ExprChecker) (v : Value) :
    (c.prepare v).1.scripts = c.scripts ∧ (c.prepare v).1.mappers = c.mappers ∧
      (c.prepare v).1.session.clock = c.session.clock := by
  unfold prepare
  dsimp only
  split
  · exact ⟨rfl, rfl, rfl⟩
  · split
    · exact ⟨rfl, rfl, rfl⟩
    · split <;> exact ⟨rfl, rfl, Session.materialize_clock _ _⟩

/-! ## A checker alone -/

/-- `c'` is `c` after steps that keep its mappers and its clock, keep the cells of its store
  and bind no name outside `B`. -/
structure Later (B : String → Prop) (c c' : ExprChecker) : Prop where
  mappers : c'.mappers = c.mappers
  clock : c'.session.clock = c.session.clock
  store : c.session.store.Extends c'.session.store
  scope : ∀ m, ¬ B m → c'.session.scope.get m = c.session.scope.get m

theorem Later.refl (B : String → Prop) (c : ExprChecker) : Later B c c :=
  ⟨rfl, rfl, Store.Extends.refl _, fun _ _ => rfl⟩

theorem Later.trans (h : Later B c₁ c₂) (h' : Later B' c₂ c₃) :
    Later (fun m => B m ∨ B' m) c₁ c₃ :=
  ⟨h'.mappers.trans h.mappers, h'.clock.trans h.clock, h.store.trans h'.store,
    fun m hm => (h'.scope m fun hb => hm (.inr hb)).trans (h.scope m fun hb => hm (.inl hb))⟩

theorem Later.mono (h : Later B c₁ c₂) (hB : ∀ m, B m → B' m) : Later B' c₁ c₂ :=
  ⟨h.mappers, h.clock, h.store, fun m hm => h.scope m fun hb => hm (hB m hb)⟩

theorem later_bind (c : ExprChecker) (n : String) (w : Value) :
    Later (· = n) c { c with session := c.session.bind n w } :=
  ⟨rfl, rfl, c.session.extends_bind n w, fun m hm => by simp [Scope.get_set_of_ne _ hm]⟩

theorem later_run (c : ExprChecker) (p : Program) :
    Later (· ∈ p.boundNames) c { c with session := (c.session.run p).1 } :=
  ⟨rfl, rfl, c.session.extends_run p,
    fun m hm => runStatements_get_of_not_bound _ m _ _ _ _ hm⟩

/-- Preparing a value binds only the lets of the mapper's snippet. -/
theorem later_prepare (c : ExprChecker) (v : Value) :
    Later (fun m => ∃ p, snippetProgram c.mappers c.session.store v = some p ∧ m ∈ p.boundNames)
      c (c.prepare v).1 := by
  unfold prepare
  dsimp only
  cases hm : c.mappers.lookup (TypeKey.of (c.session.store.resolve v)) with
  | none => exact Later.refl _ c
  | some m =>
    dsimp only
    cases hr : m.render c.session.store v with
    | error f => exact Later.refl _ c
    | ok snippet =>
      dsimp only
      have hl : Later (fun k => ∃ p, snippetProgram c.mappers c.session.store v = some p ∧
          k ∈ p.boundNames) c { c with session := (c.session.materialize snippet).1 } :=
        ⟨rfl, Session.materialize_clock _ _, c.session.extends_materialize snippet,
          fun k hk => c.session.get_materialize snippet k fun p hp hkp =>
            hk ⟨p, snippetProgram_eq hm hr hp, hkp⟩⟩
      generalize c.session.materialize snippet = q at hl
      obtain ⟨ss, r⟩ := q
      split <;> exact hl

/-- Checking a rule keeps the mappers and the clock, keeps the cells of the store, and binds
  only the names the check binds. Without coherent kept programs the program run may be another
  than the rule's text reads as, and bind anything. -/
theorem later_check (c : ExprChecker) (name : String) (v : Value) (expr : String) :
    Later (fun m => CheckBinds c.mappers c.session.store name v expr m ∨
      ¬ CacheCoherent parse c.scripts) c (c.check name v expr).1 := by
  have hp : Later (fun m => CheckBinds c.mappers c.session.store name v expr m ∨
      ¬ CacheCoherent parse c.scripts) c (c.prepare v).1 :=
    (later_prepare c v).mono fun m hm => .inl (.inr (.inl hm))
  have hsc := (prepare_keeps c v).1
  unfold check
  generalize c.prepare v = q at hp hsc
  obtain ⟨d, r⟩ := q
  cases r with
  | error e => exact hp
  | ok w =>
    dsimp only at hp hsc ⊢
    -- the field's name is bound, then the rule read and run
    have hb := (hp.trans (later_bind d name w)).mono fun m hm => hm.elim id fun h => .inl (.inl h)
    have hprog : ∀ p, (({ d with session := d.session.bind name w } : ExprChecker).compileRule
        expr).2 = .ok p → ∀ m ∈ p.boundNames,
        CheckBinds c.mappers c.session.store name v expr m ∨ ¬ CacheCoherent parse c.scripts := by
      intro p hp m hm
      by_cases hc : CacheCoherent parse c.scripts
      · obtain ⟨hread, -⟩ := compileRule_of_coherent (c := { d with session := d.session.bind name w })
          (hsc ▸ hc) expr
        exact .inl (.inr (.inr ⟨p, hread ▸ hp, hm⟩))
      · exact .inr hc
    have he : Later (fun m => CheckBinds c.mappers c.session.store name v expr m ∨
        ¬ CacheCoherent parse c.scripts) c
        (({ d with session := d.session.bind name w } : ExprChecker).compileRule expr).1 := by
      refine ⟨?_, ?_, ?_, ?_⟩ <;> simp only [compileRule_session, compileRule_mappers]
      exacts [hb.mappers, hb.clock, hb.store, hb.scope]
    generalize ({ d with session := d.session.bind name w } : ExprChecker).compileRule expr = q'
      at he hprog
    obtain ⟨e, r'⟩ := q'
    cases r' with
    | error se =>
      cases se with
      | lex le => cases le <;> exact he
      | parse pe => exact he
    | ok p =>
      dsimp only
      have hrun := (he.trans (later_run e p)).mono fun m hm => hm.elim id (hprog p rfl m)
      generalize e.session.run p = u at hrun
      obtain ⟨ss, r''⟩ := u
      cases r'' with
      | error err => exact hrun
      | ok result =>
        dsimp only
        split <;> exact hrun

/-- With coherent kept programs, checking a rule binds only the names the check binds. -/
theorem later_check_of_coherent (hc : CacheCoherent parse c.scripts) (name : String) (v : Value)
    (expr : String) :
    Later (CheckBinds c.mappers c.session.store name v expr) c (c.check name v expr).1 :=
  (later_check c name v expr).mono fun _ hm => hm.resolve_right (not_not.2 hc)

/-- Checking a rule keeps kept programs that are what reading their texts gives. -/
theorem check_coherent (hc : CacheCoherent parse c.scripts) (name : String) (v : Value)
    (expr : String) : CacheCoherent parse (c.check name v expr).1.scripts := by
  have hsc := (prepare_keeps c v).1
  unfold check
  generalize c.prepare v = q at hsc
  obtain ⟨d, r⟩ := q
  cases r with
  | error e => exact hsc ▸ hc
  | ok w =>
    dsimp only at hsc ⊢
    obtain ⟨-, hc', -⟩ := compileRule_of_coherent (c := { d with session := d.session.bind name w })
      (hsc ▸ hc) expr
    generalize ({ d with session := d.session.bind name w } : ExprChecker).compileRule expr = q'
      at hc'
    obtain ⟨e, r'⟩ := q'
    dsimp only at hc'
    cases r' with
    | error se =>
      cases se with
      | lex le => cases le <;> exact hc'
      | parse pe => exact hc'
    | ok p =>
      dsimp only
      generalize e.session.run p = u
      obtain ⟨ss, r''⟩ := u
      cases r'' with
      | error err => exact hc'
      | ok result =>
        dsimp only
        split <;> exact hc'

/-! ## Two checkers alike -/

/-- Two checkers over one store at one clock, with one table of mappers, whose scopes agree off
  `D`, and whose kept programs are each what reading their texts gives. -/
structure Alike (D : String → Prop) (c₁ c₂ : ExprChecker) : Prop where
  session : c₁.session.AgreeOff D c₂.session
  mappers : c₁.mappers = c₂.mappers
  coherent₁ : CacheCoherent parse c₁.scripts
  coherent₂ : CacheCoherent parse c₂.scripts

theorem Alike.prepare_session (h : Alike D c₁ c₂) (v : Value)
    (hreads : ∀ p, snippetProgram c₁.mappers c₁.session.store v = some p → ∀ n ∈ p.freeNames, ¬ D n) :
    (c₁.prepare v).2 = (c₂.prepare v).2 ∧
      (c₁.prepare v).1.session.AgreeOff D (c₂.prepare v).1.session := by
  unfold ExprChecker.prepare
  rw [← h.mappers, ← h.session.store]
  dsimp only
  cases hm : c₁.mappers.lookup (TypeKey.of (c₁.session.store.resolve v)) with
  | none => exact ⟨rfl, h.session⟩
  | some m =>
    dsimp only
    cases hr : m.render c₁.session.store v with
    | error f => exact ⟨rfl, h.session⟩
    | ok snippet =>
      dsimp only
      -- both run the snippet, which reads no name of `D`
      obtain ⟨hres, hagree⟩ := h.session.materialize snippet fun p hp n hn =>
        h.session.scope n (hreads p (snippetProgram_eq hm hr hp) n hn)
      generalize c₁.session.materialize snippet = q₁ at hres hagree
      generalize c₂.session.materialize snippet = q₂ at hres hagree
      obtain ⟨t₁, r⟩ := q₁
      obtain ⟨t₂, r₂⟩ := q₂
      obtain rfl : r = r₂ := hres
      dsimp only at hagree ⊢
      split <;> exact ⟨rfl, hagree⟩

/-- Checkers alike off `D` prepare a value alike when the mapper's snippet reads no name of
  `D`, and are still alike after it. -/
theorem Alike.prepare (h : Alike D c₁ c₂) (v : Value)
    (hreads : ∀ p, snippetProgram c₁.mappers c₁.session.store v = some p → ∀ n ∈ p.freeNames, ¬ D n) :
    (c₁.prepare v).2 = (c₂.prepare v).2 ∧ Alike D (c₁.prepare v).1 (c₂.prepare v).1 := by
  obtain ⟨hr, hs⟩ := h.prepare_session v hreads
  obtain ⟨hsc₁, hm₁, -⟩ := prepare_keeps c₁ v
  obtain ⟨hsc₂, hm₂, -⟩ := prepare_keeps c₂ v
  exact ⟨hr, hs, by rw [hm₁, hm₂, h.mappers], hsc₁ ▸ h.coherent₁, hsc₂ ▸ h.coherent₂⟩

/-- Checkers alike off `D` check a rule that reads no name of `D` alike, and are still alike
  after it. -/
theorem Alike.check (h : Alike D c₁ c₂) (name : String) (v : Value) (expr : String)
    (hreads : ∀ n, CheckReads c₁.mappers c₁.session.store name v expr n → ¬ D n) :
    (c₁.check name v expr).2 = (c₂.check name v expr).2 ∧
      Alike D (c₁.check name v expr).1 (c₂.check name v expr).1 := by
  obtain ⟨hr, hp⟩ := h.prepare v fun p hp n hn => hreads n (.inl ⟨p, hp, hn⟩)
  unfold ExprChecker.check
  generalize c₁.prepare v = p₁ at hr hp
  generalize c₂.prepare v = p₂ at hr hp
  obtain ⟨d₁, r⟩ := p₁
  obtain ⟨d₂, r₂⟩ := p₂
  obtain rfl : r = r₂ := hr
  cases r with
  | error e => exact ⟨rfl, hp⟩
  | ok w =>
    dsimp only at hp ⊢
    -- both bind the value, then read the rule alike
    obtain ⟨hb, hbn⟩ := hp.session.bind name w
    obtain ⟨hr₁, hc₁, hs₁, hm₁⟩ := compileRule_of_coherent
      (c := { d₁ with session := d₁.session.bind name w }) hp.coherent₁ expr
    obtain ⟨hr₂, hc₂, hs₂, hm₂⟩ := compileRule_of_coherent
      (c := { d₂ with session := d₂.session.bind name w }) hp.coherent₂ expr
    generalize ({ d₁ with session := d₁.session.bind name w } : ExprChecker).compileRule expr = q₁
      at hr₁ hc₁ hs₁ hm₁
    generalize ({ d₂ with session := d₂.session.bind name w } : ExprChecker).compileRule expr = q₂
      at hr₂ hc₂ hs₂ hm₂
    obtain ⟨e₁, r'⟩ := q₁
    obtain ⟨e₂, r₂'⟩ := q₂
    dsimp only at hr₁ hr₂ hs₁ hs₂ hm₁ hm₂ hc₁ hc₂
    obtain rfl : r' = r₂' := hr₁.trans hr₂.symm
    have he : Alike D e₁ e₂ :=
      ⟨by rw [hs₁, hs₂]; exact hb, by rw [hm₁, hm₂, hp.mappers], hc₁, hc₂⟩
    cases r' with
    | error se =>
      cases se with
      | lex le => cases le <;> exact ⟨rfl, he⟩
      | parse pe => exact ⟨rfl, he⟩
    | ok p =>
      dsimp only
      -- the rule reads the field's name, just bound alike, and names off `D`
      have hfree : ∀ n ∈ p.freeNames, e₁.session.scope.get n = e₂.session.scope.get n := by
        intro n hn
        rw [hs₁, hs₂]
        by_cases hnn : n = name
        · rw [hnn]
          exact hbn
        · exact hb.scope n (hreads n (.inr ⟨p, hr₁.symm, hn, hnn⟩))
      obtain ⟨hrr, hra⟩ := he.session.run p hfree
      generalize e₁.session.run p = u₁ at hrr hra
      generalize e₂.session.run p = u₂ at hrr hra
      obtain ⟨t₁, r''⟩ := u₁
      obtain ⟨t₂, r₂''⟩ := u₂
      obtain rfl : r'' = r₂'' := hrr
      have hf : Alike D { e₁ with session := t₁ } { e₂ with session := t₂ } :=
        ⟨hra, he.mappers, he.coherent₁, he.coherent₂⟩
      cases r'' with
      | error err => exact ⟨rfl, hf⟩
      | ok result =>
        dsimp only at hra ⊢
        rw [hra.store]
        cases t₂.store.truth result <;> exact ⟨rfl, hf⟩

end ExprChecker

end FieldRules.Rule

namespace FieldRules.Validation

open Rule Lang

/-! ## Outcomes and the state they come to -/

/-- The state an outcome ends or stops in. -/
def WalkOutcome.state : WalkOutcome → WalkState
  | .ok s => s
  | .error (_, s) => s

@[simp] theorem WalkOutcome.state_ok (s : WalkState) : WalkOutcome.state (.ok s) = s := rfl

@[simp] theorem WalkOutcome.state_error (e : CheckError) (s : WalkState) :
    WalkOutcome.state (.error (e, s)) = s := rfl

/-- Outcomes in lockstep stay in lockstep under a relation that the first's state meets, when
  every related pair meets it or the first is gone. -/
theorem Lockstep.imp {R R' : WalkState → WalkState → Prop} {Gone Gone' : WalkOutcome → Prop}
    {o₁ o₂ : WalkOutcome} (h : Lockstep R Gone o₁ o₂)
    (hR : ∀ s₂, R o₁.state s₂ → R' o₁.state s₂ ∨ Gone' o₁) (hgone : Gone o₁ → Gone' o₁) :
    Lockstep R' Gone' o₁ o₂ := by
  rcases o₁ with ⟨e₁, s₁⟩ | s₁ <;> rcases o₂ with ⟨e₂, s₂⟩ | s₂
  · rcases h with ⟨rfl, hr⟩ | hg
    · rcases hR s₂ hr with hr' | hg'
      · exact .inl ⟨rfl, hr'⟩
      · exact .inr hg'
    · exact .inr (hgone hg)
  · exact hgone h
  · exact hgone h
  · rcases h with hr | hg
    · exact hR s₂ hr
    · exact .inr (hgone hg)

/-! ## One field, one walk -/

/-- A result of one of a field's rules on the value they see. -/
def CheckResult.OfRule (spec : FieldSpec) (value : Value) (r : CheckResult) : Prop :=
  r.name = spec.name ∧ r.value = value ∧ r.typeText = spec.typeText ∧
    ((∃ e, spec.tags.expr = some e ∧ r.expr = rewriteShorthand spec.name e) ∨
      spec.tags.regexp = some r.expr)

/-- Two walk states whose checkers are alike off `D`, whose kept patterns are each what
  compiling their texts gives, and whose results are related by `ρ`. -/
structure WalkState.Alike (D : String → Prop) (ρ : List CheckResult → List CheckResult → Prop)
    (s₁ s₂ : WalkState) : Prop where
  checker : ExprChecker.Alike D s₁.checker s₂.checker
  patterns₁ : CacheCoherent compilePattern s₁.patterns.entries
  patterns₂ : CacheCoherent compilePattern s₂.patterns.entries
  results : ρ s₁.results s₂.results

namespace WalkContext

variable (cx : WalkContext)

@[simp] theorem keep_checker (st : WalkState) (r : CheckResult) :
    (cx.keep st r).checker = st.checker := by
  unfold keep
  split <;> rfl

@[simp] theorem keep_patterns (st : WalkState) (r : CheckResult) :
    (cx.keep st r).patterns = st.patterns := by
  unfold keep
  split <;> rfl

/-- A field step passes the state on, stops in it, or runs the field's rules on the value they
  see: the expression rule, then the pattern rule. -/
theorem fieldStep_cases (name : String) (spec : FieldSpec) (x : Value) (st : WalkState) :
    cx.fieldStep name spec x st = .ok st ∨ (∃ e, cx.fieldStep name spec x st = .error (e, st)) ∨
      cx.fieldStep name spec x st = cx.checkExpr spec (fieldTarget cx.store x) st >>=
        cx.checkPattern spec (fieldTarget cx.store x) := by
  unfold fieldStep
  split
  · exact .inl rfl
  rw [checkField_eq]
  split
  · exact .inl rfl
  split
  · exact .inr (.inl ⟨_, rfl⟩)
  cases cx.leftAlone spec.tags (fieldTarget cx.store x) with
  | error e => exact .inr (.inl ⟨e, rfl⟩)
  | ok alone =>
    cases alone
    · exact .inr (.inr rfl)
    · exact .inl rfl

/-- Running a pattern rule leaves the checker alone. -/
theorem checkPattern_checker (spec : FieldSpec) (value : Value) (st : WalkState) :
    (cx.checkPattern spec value st).state.checker = st.checker := by
  unfold checkPattern
  split
  · rfl
  · cases cx.store.matchText value with
    | error f => rfl
    | ok text =>
      simp only [bind, Except.bind, Except.mapError]
      generalize st.patterns.search _ text = q
      obtain ⟨pc, r⟩ := q
      cases r <;> simp

theorem checkExpr_checker (spec : FieldSpec) (value : Value) (st : WalkState) :
    (cx.checkExpr spec value st).state.checker = match spec.tags.expr with
      | none => st.checker
      | some e => (st.checker.check spec.name value (rewriteShorthand spec.name e)).1 := by
  unfold checkExpr
  cases spec.tags.expr with
  | none => rfl
  | some e =>
    dsimp only
    generalize st.checker.check spec.name value (rewriteShorthand spec.name e) = q
    obtain ⟨c, r⟩ := q
    cases r <;> simp

/-- The checker after a field's rules: the one its expression rule leaves. -/
theorem rules_checker (spec : FieldSpec) (value : Value) (st : WalkState) :
    (WalkOutcome.state (cx.checkExpr spec value st >>= cx.checkPattern spec value)).checker =
      (cx.checkExpr spec value st).state.checker := by
  cases cx.checkExpr spec value st with
  | error p => rfl
  | ok t => exact cx.checkPattern_checker spec value t

/-- A field step keeps the mappers and the clock, keeps the cells of the store, and binds only
  the names the field's expression rule binds, when the kept programs are what reading their
  texts gives. -/
theorem later_fieldStep (name : String) (spec : FieldSpec) (x : Value) (st : WalkState) :
    ExprChecker.Later (fun m => (∃ e, spec.tags.expr = some e ∧
        CheckBinds st.checker.mappers st.checker.session.store spec.name (fieldTarget cx.store x)
          (rewriteShorthand spec.name e) m) ∨ ¬ CacheCoherent parse st.checker.scripts)
      st.checker (cx.fieldStep name spec x st).state.checker := by
  rcases cx.fieldStep_cases name spec x st with h | ⟨e, h⟩ | h <;> rw [h]
  · exact ExprChecker.Later.refl _ _
  · exact ExprChecker.Later.refl _ _
  · rw [rules_checker, checkExpr_checker]
    split
    · exact ExprChecker.Later.refl _ _
    · rename_i e he
      exact (ExprChecker.later_check _ _ _ _).mono fun m hm => hm.imp_left fun hb => ⟨e, he, hb⟩

theorem keep_results (st : WalkState) (r : CheckResult) :
    (cx.keep st r).results = r :: st.results ∨ (cx.keep st r).results = st.results := by
  unfold keep
  split
  · exact .inl rfl
  · exact .inr rfl

/-- What a walk state keeps while a field's rules run alone: kept programs and patterns that are
  what reading their texts gives, and the results there, behind new ones of the field's rules. -/
def RulesAlone (spec : FieldSpec) (value : Value) (st t : WalkState) : Prop :=
  CacheCoherent parse t.checker.scripts ∧ CacheCoherent compilePattern t.patterns.entries ∧
    ∃ rs, t.results = rs ++ st.results ∧ ∀ r ∈ rs, r.OfRule spec value

theorem RulesAlone.keep {spec : FieldSpec} {value : Value} {st t : WalkState}
    (h : RulesAlone spec value st t) (r : CheckResult) (hr : r.OfRule spec value) :
    RulesAlone spec value st (cx.keep t r) := by
  obtain ⟨hc, hp, rs, hrs, hof⟩ := h
  refine ⟨by simpa using hc, by simpa using hp, ?_⟩
  rcases cx.keep_results t r with hk | hk <;> rw [hk, hrs]
  · exact ⟨r :: rs, rfl, by simpa [hr] using hof⟩
  · exact ⟨rs, rfl, hof⟩

/-- Running a field's rules alone keeps kept programs and patterns what reading their texts
  gives, and puts results of the field's rules in front of those there. -/
theorem rules_alone (spec : FieldSpec) (value : Value) {st : WalkState}
    (hc : CacheCoherent parse st.checker.scripts)
    (hp : CacheCoherent compilePattern st.patterns.entries) :
    RulesAlone spec value st
      (WalkOutcome.state (cx.checkExpr spec value st >>= cx.checkPattern spec value)) := by
  have hnil : RulesAlone spec value st st := ⟨hc, hp, [], rfl, by simp⟩
  -- the expression rule, alone
  have hexpr : RulesAlone spec value st (cx.checkExpr spec value st).state := by
    unfold checkExpr
    split
    · exact hnil
    · rename_i e he
      have hc' := ExprChecker.check_coherent hc spec.name value (rewriteShorthand spec.name e)
      dsimp only
      generalize st.checker.check spec.name value (rewriteShorthand spec.name e) = q at hc'
      obtain ⟨c, r⟩ := q
      have hst : RulesAlone spec value st { st with checker := c } := ⟨hc', hp, [], rfl, by simp⟩
      cases r with
      | error err => exact hst
      | ok b => exact hst.keep cx _ ⟨rfl, rfl, rfl, .inl ⟨e, he, rfl⟩⟩
  cases hx : cx.checkExpr spec value st with
  | error q => rw [hx] at hexpr; exact hexpr
  | ok t =>
    -- then the pattern rule, alone
    rw [hx, WalkOutcome.state_ok] at hexpr
    show RulesAlone spec value st (cx.checkPattern spec value t).state
    unfold checkPattern
    split
    · exact hexpr
    · rename_i p hpat
      cases cx.store.matchText value with
      | error f => exact hexpr
      | ok text =>
        obtain ⟨-, hpc⟩ := PatternCache.search_of_coherent hexpr.2.1 p text
        simp only [bind, Except.bind, Except.mapError]
        generalize t.patterns.search p text = q at hpc
        obtain ⟨pc, r⟩ := q
        have hst : RulesAlone spec value st { t with patterns := pc } :=
          ⟨hexpr.1, hpc, hexpr.2.2⟩
        cases r with
        | error err => exact hst
        | ok b => exact hst.keep cx _ ⟨rfl, rfl, rfl, .inr hpat⟩

/-! ## One field, two walks -/

variable {cx₁ cx₂ : WalkContext} {D : String → Prop}
  {ρ : List CheckResult → List CheckResult → Prop} {s₁ s₂ : WalkState} {spec : FieldSpec}
  {value : Value}

theorem keep_alike (hshow : cx₁.options.showSuccesses = cx₂.options.showSuccesses)
    (h : WalkState.Alike D ρ s₁ s₂) (r : CheckResult) (hr : ∀ a b, ρ a b → ρ (r :: a) (r :: b)) :
    WalkState.Alike D ρ (cx₁.keep s₁ r) (cx₂.keep s₂ r) := by
  unfold keep
  rw [hshow]
  split
  · exact ⟨h.checker, h.patterns₁, h.patterns₂, hr _ _ h.results⟩
  · exact h

/-- A field's expression rule that reads no name of `D`, run from states alike off `D`, keeps
  them alike; results of the field's rules must keep `ρ`. -/
theorem checkExpr_alike (hshow : cx₁.options.showSuccesses = cx₂.options.showSuccesses)
    (h : WalkState.Alike D ρ s₁ s₂)
    (hreads : ∀ e, spec.tags.expr = some e → ∀ n, CheckReads s₁.checker.mappers
      s₁.checker.session.store spec.name value (rewriteShorthand spec.name e) n → ¬ D n)
    (hρ : ∀ r a b, r.OfRule spec value → ρ a b → ρ (r :: a) (r :: b)) :
    Lockstep (WalkState.Alike D ρ) (fun _ => False) (cx₁.checkExpr spec value s₁)
      (cx₂.checkExpr spec value s₂) := by
  unfold checkExpr
  split
  · exact Lockstep.ok h
  · rename_i e he
    obtain ⟨hr, hc⟩ := h.checker.check spec.name value (rewriteShorthand spec.name e) (hreads e he)
    dsimp only
    generalize s₁.checker.check spec.name value (rewriteShorthand spec.name e) = q₁ at hr hc
    generalize s₂.checker.check spec.name value (rewriteShorthand spec.name e) = q₂ at hr hc
    obtain ⟨c₁, r⟩ := q₁
    obtain ⟨c₂, r₂⟩ := q₂
    obtain rfl : r = r₂ := hr
    have ha : WalkState.Alike D ρ { s₁ with checker := c₁ } { s₂ with checker := c₂ } :=
      ⟨hc, h.patterns₁, h.patterns₂, h.results⟩
    cases r with
    | error err => exact Lockstep.error ha
    | ok b =>
      exact Lockstep.ok (keep_alike hshow ha _ fun a b' =>
        hρ _ a b' ⟨rfl, rfl, rfl, .inl ⟨e, he, rfl⟩⟩)

/-- A field's pattern rule, run from states alike off `D` over one store, keeps them alike. -/
theorem checkPattern_alike (hshow : cx₁.options.showSuccesses = cx₂.options.showSuccesses)
    (hstore : cx₁.store = cx₂.store) (h : WalkState.Alike D ρ s₁ s₂)
    (hρ : ∀ r a b, r.OfRule spec value → ρ a b → ρ (r :: a) (r :: b)) :
    Lockstep (WalkState.Alike D ρ) (fun _ => False) (cx₁.checkPattern spec value s₁)
      (cx₂.checkPattern spec value s₂) := by
  unfold checkPattern
  split
  · exact Lockstep.ok h
  · rename_i p hp
    rw [← hstore]
    cases cx₁.store.matchText value with
    | error f => exact Lockstep.error h
    | ok text =>
      obtain ⟨hr₁, hc₁⟩ := PatternCache.search_of_coherent h.patterns₁ p text
      obtain ⟨hr₂, hc₂⟩ := PatternCache.search_of_coherent h.patterns₂ p text
      simp only [bind, Except.bind, Except.mapError]
      generalize s₁.patterns.search p text = q₁ at hr₁ hc₁
      generalize s₂.patterns.search p text = q₂ at hr₂ hc₂
      obtain ⟨pc₁, r⟩ := q₁
      obtain ⟨pc₂, r₂⟩ := q₂
      obtain rfl : r = r₂ := hr₁.trans hr₂.symm
      have ha : WalkState.Alike D ρ { s₁ with patterns := pc₁ } { s₂ with patterns := pc₂ } :=
        ⟨h.checker, hc₁, hc₂, h.results⟩
      cases r with
      | error err => exact Lockstep.error ha
      | ok b => exact Lockstep.ok (keep_alike hshow ha _ fun a b' => hρ _ a b' ⟨rfl, rfl, rfl, .inr hp⟩)

/-- A field whose expression rule reads no name of `D`, checked from states alike off `D`,
  keeps them alike; results of the field's rules must keep `ρ`. -/
theorem fieldStep_alike (h : WalkState.Alike D ρ s₁ s₂) (name : String) (spec : FieldSpec)
    (x : Value)
    (hreads : ∀ e, spec.tags.expr = some e → ∀ n, CheckReads s₁.checker.mappers
      s₁.checker.session.store spec.name (fieldTarget cx.store x) (rewriteShorthand spec.name e) n →
      ¬ D n)
    (hρ : ∀ r a b, r.OfRule spec (fieldTarget cx.store x) → ρ a b → ρ (r :: a) (r :: b)) :
    Lockstep (WalkState.Alike D ρ) (fun _ => False) (cx.fieldStep name spec x s₁)
      (cx.fieldStep name spec x s₂) := by
  unfold fieldStep
  split
  · exact Lockstep.ok h
  rw [checkField_eq, checkField_eq]
  split
  · exact Lockstep.ok h
  split
  · exact Lockstep.error h
  cases cx.leftAlone spec.tags (fieldTarget cx.store x) with
  | error e => exact Lockstep.error h
  | ok alone =>
    cases alone
    · exact Lockstep.bind (checkExpr_alike rfl h hreads hρ)
        (fun _ _ ht => checkPattern_alike rfl rfl ht hρ) fun _ hg => hg.elim
    · exact Lockstep.ok h

end WalkContext

end FieldRules.Validation
