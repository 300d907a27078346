import Mathlib
import FieldRules.Lang.Eval

/-! # What a program reads and writes

A program reads the scope only at the names its identifiers use and no earlier `let` of its
own binds (`Program.freeNames`); member names, function names and object keys are no reads.
It reads the clock only through `now` and `today`. Two runs over one store whose scopes agree
on those names, and whose clocks agree if the program calls either function, give the same
value or the same error (`runStatements_congr`, from `Env.eval_congr` one expression at a time).

A program writes the scope only by its lets: the scope after a run is the scope before with the
lets of the statements that completed set in statement order, each to the value its
expression took (`Completes`), and nothing else changed. A failing statement undoes no earlier
binding (`runStatements_scope`). `Program.run_frame` states both. -/

namespace FieldRules.Lang

/-! ## Scopes -/

namespace Scope

theorem lookup_rebind (n m : String) (v : Value) :
    ∀ l : List (String × Value),
      (l.map fun (k, x) => if k == n then (k, v) else (k, x)).lookup m =
        if m = n then (if l.any (·.1 == n) then some v else none) else l.lookup m
  | [] => by simp
  | (k, x) :: l => by
    have ih := lookup_rebind n m v l
    by_cases hk : k = n
    · subst hk
      by_cases hm : m = k
      · subst hm; simp
      · simp_all [List.lookup, beq_eq_false_iff_ne.2 hm]
    · by_cases hm : m = n
      · subst hm
        simp only [List.map_cons, List.lookup, List.any_cons, if_true]
        grind
      · simp_all [List.lookup]

theorem lookup_append_single {n m : String} {v : Value} :
    ∀ {l : List (String × Value)}, l.any (·.1 == n) = false →
      (l ++ [(n, v)]).lookup m = if m = n then some v else l.lookup m
  | [], _ => by by_cases hm : m = n <;> simp_all [List.lookup, beq_eq_false_iff_ne.2]
  | (k, x) :: l, h => by
    simp only [List.any_cons, Bool.or_eq_false_iff, beq_eq_false_iff_ne] at h
    have ih := lookup_append_single (m := m) (v := v) h.2
    by_cases hm : m = k
    · subst hm; simp [List.lookup, h.1]
    · simp_all [List.lookup, beq_eq_false_iff_ne.2 hm]

/-- Setting a name changes what that name gives and nothing else. -/
theorem get_set (sc : Scope) (n : String) (v : Value) (m : String) :
    (sc.set n v).get m = if m = n then v else sc.get m := by
  unfold set get
  split
  · rename_i h
    rw [lookup_rebind]
    by_cases hm : m = n <;> simp [hm, h]
  · rename_i h
    rw [lookup_append_single (Bool.eq_false_iff.2 h)]
    by_cases hm : m = n <;> simp [hm]

@[simp] theorem get_set_self (sc : Scope) (n : String) (v : Value) : (sc.set n v).get n = v := by
  simp [get_set]

@[simp] theorem get_set_of_ne (sc : Scope) {n m : String} (h : m ≠ n) (v : Value) :
    (sc.set n v).get m = sc.get m := by
  simp [get_set, h]

end Scope

/-! ## Names read and functions called -/

mutual

/-- The names an expression reads: those of its identifiers. Member names, function names and
  object keys are not read. -/
def Expr.names : Expr → List String
  | .lit _ => []
  | .var n => [n]
  | .member o _ => o.names
  | .index o k => o.names ++ k.names
  | .binary _ l r => l.names ++ r.names
  | .unary _ a => a.names
  | .call _ args => Expr.listNames args
  | .array items => Expr.listNames items
  | .object entries => Expr.entryNames entries

def Expr.listNames : List Expr → List String
  | [] => []
  | e :: es => e.names ++ Expr.listNames es

def Expr.entryNames : List (String × Expr) → List String
  | [] => []
  | (_, e) :: es => e.names ++ Expr.entryNames es

end

mutual

/-- The names of the functions an expression calls. -/
def Expr.calls : Expr → List String
  | .lit _ | .var _ => []
  | .member o _ => o.calls
  | .index o k => o.calls ++ k.calls
  | .binary _ l r => l.calls ++ r.calls
  | .unary _ a => a.calls
  | .call f args => f :: Expr.listCalls args
  | .array items => Expr.listCalls items
  | .object entries => Expr.entryCalls entries

def Expr.listCalls : List Expr → List String
  | [] => []
  | e :: es => e.calls ++ Expr.listCalls es

def Expr.entryCalls : List (String × Expr) → List String
  | [] => []
  | (_, e) :: es => e.calls ++ Expr.entryCalls es

end

/-- The functions that read the clock. -/
def readsClock (f : String) : Bool := f == "now" || f == "today"

/-- A library function other than `now` and `today` gives the same answer at every clock
  reading. -/
theorem Builtin.apply_clock {b : Builtin} (hb : readsClock b.name = false) (s : Store) (c₁ c₂ : Int)
    (vs : List Value) : b.apply s c₁ vs = b.apply s c₂ vs := by
  cases b <;> first | rfl | simp [readsClock, Builtin.name] at hb

theorem Builtin.ofName?_name {f : String} {b : Builtin} (h : Builtin.ofName? f = some b) :
    b.name = f := by
  simpa using List.find?_some h

section Congr

variable {store : Store} {sc₁ sc₂ : Scope} {c₁ c₂ : Int}

mutual

/-- Two environments over one store that agree on the names an expression reads, and on the
  clock if it calls `now` or `today`, give it the same value or the same error. -/
theorem Env.eval_congr : ∀ e : Expr, (∀ n ∈ e.names, sc₁.get n = sc₂.get n) →
    (e.calls.any readsClock → c₁ = c₂) →
    Env.eval ⟨store, sc₁, c₁⟩ e = Env.eval ⟨store, sc₂, c₂⟩ e
  | .lit _, _, _ => rfl
  | .var n, hn, _ => by simp [Env.eval, hn n (by simp [Expr.names])]
  | .member o _, hn, hc => by
    simp only [Env.eval, Env.eval_congr o (by simpa [Expr.names] using hn)
      (fun h => hc (by simpa [Expr.calls] using h))]
  | .index o k, hn, hc => by
    simp only [Env.eval, Env.eval_congr o (fun n h => hn n (by simp [Expr.names, h]))
      (fun h => hc (by simp_all [Expr.calls])),
      Env.eval_congr k (fun n h => hn n (by simp [Expr.names, h]))
      (fun h => hc (by simp_all [Expr.calls]))]
  | .binary op l r, hn, hc => by
    have hl := Env.eval_congr l (fun n h => hn n (by simp [Expr.names, h]))
      (fun h => hc (by simp_all [Expr.calls]))
    have hr := Env.eval_congr r (fun n h => hn n (by simp [Expr.names, h]))
      (fun h => hc (by simp_all [Expr.calls]))
    cases op <;> simp only [Env.eval, Env.truth, hl, hr]
  | .unary op a, hn, hc => by
    have ha := Env.eval_congr a (by simpa [Expr.names] using hn)
      (fun h => hc (by simpa [Expr.calls] using h))
    cases op <;> simp only [Env.eval, Env.truth, ha]
  | .call f args, hn, hc => by
    have hargs := Env.evalList_congr args (by simpa [Expr.names] using hn)
      (fun h => hc (by simp_all [Expr.calls]))
    simp only [Env.eval, hargs]
    cases hb : Builtin.ofName? f with
    | none => rfl
    | some b =>
      by_cases hclock : readsClock f
      · rw [hc (by simp [Expr.calls, hclock])]
      · have hb' : readsClock b.name = false := by rw [Builtin.ofName?_name hb]; simpa using hclock
        simp only [Builtin.apply_clock hb' store c₁ c₂]
  | .array items, hn, hc => by
    simp only [Env.eval, Env.evalList_congr items (by simpa [Expr.names] using hn)
      (fun h => hc (by simpa [Expr.calls] using h))]
  | .object entries, hn, hc => by
    simp only [Env.eval, Env.evalEntries_congr entries (by simpa [Expr.names] using hn)
      (fun h => hc (by simpa [Expr.calls] using h))]

theorem Env.evalList_congr : ∀ es : List Expr, (∀ n ∈ Expr.listNames es, sc₁.get n = sc₂.get n) →
    ((Expr.listCalls es).any readsClock → c₁ = c₂) →
    Env.evalList ⟨store, sc₁, c₁⟩ es = Env.evalList ⟨store, sc₂, c₂⟩ es
  | [], _, _ => rfl
  | e :: es, hn, hc => by
    simp only [Env.evalList, Env.eval_congr e (fun n h => hn n (by simp [Expr.listNames, h]))
      (fun h => hc (by simp_all [Expr.listCalls])),
      Env.evalList_congr es (fun n h => hn n (by simp [Expr.listNames, h]))
      (fun h => hc (by simp_all [Expr.listCalls]))]

theorem Env.evalEntries_congr : ∀ es : List (String × Expr),
    (∀ n ∈ Expr.entryNames es, sc₁.get n = sc₂.get n) →
    ((Expr.entryCalls es).any readsClock → c₁ = c₂) →
    Env.evalEntries ⟨store, sc₁, c₁⟩ es = Env.evalEntries ⟨store, sc₂, c₂⟩ es
  | [], _, _ => rfl
  | (k, e) :: es, hn, hc => by
    simp only [Env.evalEntries, Env.eval_congr e (fun n h => hn n (by simp [Expr.entryNames, h]))
      (fun h => hc (by simp_all [Expr.entryCalls])),
      Env.evalEntries_congr es (fun n h => hn n (by simp [Expr.entryNames, h]))
      (fun h => hc (by simp_all [Expr.entryCalls]))]

end

end Congr

/-! ## Runs of statements -/

/-- Sets each name in turn. -/
def Scope.setAll (sc : Scope) (bs : List (String × Value)) : Scope :=
  bs.foldl (fun s b => s.set b.1 b.2) sc

@[simp] theorem Scope.setAll_nil (sc : Scope) : sc.setAll [] = sc := rfl

@[simp] theorem Scope.setAll_cons (sc : Scope) (n : String) (v : Value) (bs : List (String × Value)) :
    sc.setAll ((n, v) :: bs) = (sc.set n v).setAll bs := rfl

/-- The expression a statement evaluates. -/
def Statement.expr : Statement → Expr
  | .bind _ e | .eval e => e

/-- The names statements read from the scope they start in: those their expressions read,
  less the names an earlier `let` among them binds. -/
def freeNamesOf : List Statement → List String
  | [] => []
  | .bind n e :: rest => e.names ++ (freeNamesOf rest).filter (· != n)
  | .eval e :: rest => e.names ++ freeNamesOf rest

/-- The names a program reads from the scope it runs in. -/
def Program.freeNames (p : Program) : List String := freeNamesOf p.statements

/-- Whether a statement calls `now` or `today`. -/
def Statement.readsClock (s : Statement) : Bool := s.expr.calls.any FieldRules.Lang.readsClock

/-- Whether a program calls `now` or `today`. -/
def Program.readsClock (p : Program) : Bool := p.statements.any Statement.readsClock

/-- Runs over one store from scopes that agree on the names the statements read, and at clock
  readings that agree if they call `now` or `today`, end with the same store and the same value
  or error. -/
theorem runStatements_congr (c₁ c₂ : Int) : ∀ (ss : List Statement) (store : Store) (sc₁ sc₂ : Scope)
    (last : Value), (∀ n ∈ freeNamesOf ss, sc₁.get n = sc₂.get n) →
    (ss.any Statement.readsClock → c₁ = c₂) →
    (runStatements c₁ store sc₁ ss last).1 = (runStatements c₂ store sc₂ ss last).1 ∧
      (runStatements c₁ store sc₁ ss last).2.2 = (runStatements c₂ store sc₂ ss last).2.2
  | [], _, _, _, _, _, _ => ⟨rfl, rfl⟩
  | .bind n e :: rest, store, sc₁, sc₂, _, hn, hc => by
    have he : Env.eval ⟨store, sc₁, c₁⟩ e = Env.eval ⟨store, sc₂, c₂⟩ e :=
      Env.eval_congr e (fun m h => hn m (by simp [freeNamesOf, h]))
      (fun h => hc (by simp [Statement.readsClock, Statement.expr, h]))
    simp only [runStatements, he]
    split
    · exact ⟨rfl, rfl⟩
    · refine runStatements_congr c₁ c₂ rest _ _ _ _ (fun m hm => ?_)
        (fun h => hc (by simp_all))
      by_cases hmn : m = n
      · subst hmn; simp
      · rw [Scope.get_set_of_ne _ hmn, Scope.get_set_of_ne _ hmn]
        exact hn m (by simp [freeNamesOf, hm, hmn])
  | .eval e :: rest, store, sc₁, sc₂, _, hn, hc => by
    have he : Env.eval ⟨store, sc₁, c₁⟩ e = Env.eval ⟨store, sc₂, c₂⟩ e :=
      Env.eval_congr e (fun m h => hn m (by simp [freeNamesOf, h]))
      (fun h => hc (by simp [Statement.readsClock, Statement.expr, h]))
    simp only [runStatements, he]
    split
    · exact ⟨rfl, rfl⟩
    · exact runStatements_congr c₁ c₂ rest _ _ _ _
        (fun m hm => hn m (by simp [freeNamesOf, hm])) (fun h => hc (by simp_all))

/-- `Completes clock store sc ss bs`: the statements `ss`, run in order from `store` and `sc`,
  all complete, and their lets bind `bs` in order: each let's name with the value its
  expression takes in the scope the earlier lets left, given identity in the store they left. -/
inductive Completes (clock : Int) : Store → Scope → List Statement → List (String × Value) → Prop
  | nil {store : Store} {sc : Scope} : Completes clock store sc [] []
  | eval {store : Store} {sc : Scope} {e : Expr} {ss : List Statement} {bs : List (String × Value)}
      {u : Value} : Env.eval ⟨store, sc, clock⟩ e = .ok u → Completes clock store sc ss bs →
      Completes clock store sc (.eval e :: ss) bs
  | bind {store : Store} {sc : Scope} {n : String} {e : Expr} {ss : List Statement}
      {bs : List (String × Value)} {u : Value} : Env.eval ⟨store, sc, clock⟩ e = .ok u →
      Completes clock (store.withIdentity u).1 (sc.set n (store.withIdentity u).2) ss bs →
      Completes clock store sc (.bind n e :: ss) ((n, (store.withIdentity u).2) :: bs)

/-- A run leaves the scope it started in with the lets of the statements that completed set in
  order, and nothing else changed: a failing statement undoes no earlier binding. All statements
  complete exactly when the run succeeds. -/
theorem runStatements_scope (clock : Int) : ∀ (ss : List Statement) (store : Store) (sc : Scope)
    (last : Value), ∃ k ≤ ss.length,
      ((runStatements clock store sc ss last).2.2.isOk ↔ k = ss.length) ∧
      ∃ bs, Completes clock store sc (ss.take k) bs ∧
        (runStatements clock store sc ss last).2.1 = sc.setAll bs
  | [], _, _, _ => ⟨0, Nat.le_refl _, iff_of_true rfl rfl, [], .nil, rfl⟩
  | .bind n e :: rest, store, sc, _ => by
    simp only [runStatements]
    split
    · exact ⟨0, by simp, by simp [Except.isOk, Except.toBool], [], .nil, rfl⟩
    · rename_i u he
      obtain ⟨k, hk, hok, bs, hbs, hsc⟩ := runStatements_scope clock rest
        (store.withIdentity u).1 (sc.set n (store.withIdentity u).2) (store.withIdentity u).2
      exact ⟨k + 1, by simp [hk], by simp [hok], _, .bind he hbs, by simp [hsc]⟩
  | .eval e :: rest, store, sc, _ => by
    simp only [runStatements]
    split
    · exact ⟨0, by simp, by simp [Except.isOk, Except.toBool], [], .nil, rfl⟩
    · rename_i u he
      obtain ⟨k, hk, hok, bs, hbs, hsc⟩ := runStatements_scope clock rest store sc u
      exact ⟨k + 1, by simp [hk], by simp [hok], bs, .eval he hbs, hsc⟩

/-- A program reads only the names it does not bind itself, and the clock only through `now`
  and `today`: from scopes and clock readings that agree there it gives the same value or error.
  It writes the scope only by the lets that complete, in statement order, also when a later
  statement fails. -/
theorem Program.run_frame (p : Program) (store : Store) {c₁ c₂ : Int} {sc₁ sc₂ : Scope}
    (hsc : ∀ n ∈ p.freeNames, sc₁.get n = sc₂.get n) (hc : p.readsClock → c₁ = c₂) :
    (p.run store c₁ sc₁).2.2 = (p.run store c₂ sc₂).2.2 ∧
      ∃ k ≤ p.statements.length, ((p.run store c₁ sc₁).2.2.isOk ↔ k = p.statements.length) ∧
        ∃ bs, Completes c₁ store sc₁ (p.statements.take k) bs ∧
          (p.run store c₁ sc₁).2.1 = sc₁.setAll bs :=
  ⟨(runStatements_congr c₁ c₂ p.statements store sc₁ sc₂ .none hsc hc).2,
    runStatements_scope c₁ p.statements store sc₁ .none⟩

/-- `let total = price + 1; total * qty` reads `price` and `qty` only: a scope that also binds
  an unrelated name, at another clock reading, gives the same answer. -/
theorem Program.run_frame_sample :
    let p : Program := ⟨[.bind "total" (.binary .add (.var "price") (.lit (.int 1))),
      .eval (.binary .mul (.var "total") (.var "qty"))]⟩
    let sc₁ : Scope := ⟨[("qty", .int 3), ("price", .int 4), ("note", .str "other")]⟩
    let sc₂ : Scope := ⟨[("price", .int 4), ("qty", .int 3)]⟩
    (∀ n ∈ p.freeNames, sc₁.get n = sc₂.get n) ∧ (p.readsClock → (0 : Int) = 5) ∧
      (p.run {} 0 sc₁).2.2 = (p.run {} 5 sc₂).2.2 ∧
      ∃ k ≤ p.statements.length, ((p.run {} 0 sc₁).2.2.isOk ↔ k = p.statements.length) ∧
        ∃ bs, Completes 0 {} sc₁ (p.statements.take k) bs ∧ (p.run {} 0 sc₁).2.1 = sc₁.setAll bs := by
  intro p sc₁ sc₂
  have hsc : ∀ n ∈ p.freeNames, sc₁.get n = sc₂.get n := by
    intro n hn
    simp [p, Program.freeNames, freeNamesOf, Expr.names] at hn
    rcases hn with rfl | rfl <;> rfl
  have hc : p.readsClock → (0 : Int) = 5 := fun h => absurd h (by decide)
  exact ⟨hsc, hc, Program.run_frame p {} hsc hc⟩

end FieldRules.Lang
