import Mathlib
import FieldRules.Validation.Validator

/-! # Walking a value graph: termination and cycles

The walk of a value graph ends by its definition: it enters a shared value only when the value
is not on its path, and each entry leaves fewer cells off the path. This module proves what the
walk finds on the way.

The value graph has the labels of the store's cells as nodes, and an edge from a label to each
shared value that walking its cell comes to first (links). A wrapper edge passes through
wrappers alone (handles, proxies, live weak references, a __wrapped__ attribute) and meets no
container. The main theorem, walk_detects_cycles, says that the walk detects exactly the
cycles reachable from the root: without one it reports none and walks a shared value in full at
the end of every path to it; with one, and no ring of wrappers alone, it stops, for a field's
error or a cycle; and a cycle it reports is at a container on a reachable cycle.

Every proof about the walk goes through one induction principle, walk_induct_links, for a
property of the walk as a function of its path, carried by the links in play. Soundness
(walk_sound) carries where the walk stands (OnPath): each label on the path leads to each label
in play, so meeting one again closes a cycle, and a walk that passes leaves everything below it
clear of the path and of cycles (Clear). Meeting a value again follows its wrappers to a
container; without wrapper rings the labels seen on the way stay distinct, so the store's size
bounds them (metAgain_cycle_of_no_ring). A walk depends on its path only below what it walks
(walk_path_congr), which makes a shared value's walk the same on every path to it. -/

namespace FieldRules.Rule

/-! ## What a computation may stop with -/

/-- A computation whose errors all pass `good`. -/
def ErrorsIn {ε α : Type} (good : ε → Prop) (r : Except ε α) : Prop :=
  ∀ e, r = .error e → good e

namespace ErrorsIn

variable {ε ε' α β : Type} {good : ε → Prop}

@[simp] theorem ok (x : α) : ErrorsIn good (.ok x : Except ε α) := by
  intro e h; cases h

@[simp] theorem error_iff (e : ε) :
    ErrorsIn good (.error e : Except ε α) ↔ good e := by
  simp [ErrorsIn]

@[simp] theorem pure_ok (x : α) : ErrorsIn good (pure x : Except ε α) := ok x

@[simp] theorem throw_iff (e : ε) :
    ErrorsIn good (throw e : Except ε α) ↔ good e := by
  simp [ErrorsIn, throw, throwThe, MonadExceptOf.throw]

@[simp] theorem bind_iff (a : Except ε α) (k : α → Except ε β) :
    ErrorsIn good (a >>= k) ↔ ErrorsIn good a ∧ ∀ x, a = .ok x → ErrorsIn good (k x) := by
  cases a <;> simp [ErrorsIn, bind, Except.bind]

@[simp] theorem map_iff (f : α → β) (a : Except ε α) :
    ErrorsIn good (f <$> a) ↔ ErrorsIn good a := by
  cases a <;> simp [ErrorsIn, Functor.map, Except.map]

@[simp] theorem except_map_iff (f : α → β) (a : Except ε α) :
    ErrorsIn good (a.map f) ↔ ErrorsIn good a := map_iff f a

@[simp] theorem mapError_iff (f : ε' → ε) (a : Except ε' α) :
    ErrorsIn good (a.mapError f) ↔ ErrorsIn (fun e => good (f e)) a := by
  cases a <;> simp [ErrorsIn, Except.mapError]

@[simp] theorem of_true (r : Except ε α) : ErrorsIn (fun _ => True) r := fun _ _ => trivial

@[simp] theorem ite_iff (c : Prop) [Decidable c] (a b : Except ε α) :
    ErrorsIn good (if c then a else b) ↔ (c → ErrorsIn good a) ∧ (¬ c → ErrorsIn good b) := by
  by_cases c <;> simp [*]

theorem mono {good' : ε → Prop} {r : Except ε α} (h : ErrorsIn good r)
    (hg : ∀ e, good e → good' e) : ErrorsIn good' r :=
  fun e he => hg e (h e he)

end ErrorsIn

/-- An error that running a field's rules may stop with: any but a cycle or an access error. -/
@[simp] def CheckError.FromRule : CheckError → Prop
  | .cycle _ | .access _ => False
  | _ => True

@[simp] theorem ErrorsIn.mapError_host {α : Type} (r : Except Fault α) :
    ErrorsIn CheckError.FromRule (r.mapError .host) := by
  cases r <;> simp [Except.mapError]

theorem ExprChecker.prepare_fromRule (c : ExprChecker) (v : Value) :
    ErrorsIn CheckError.FromRule (c.prepare v).2 := by
  unfold prepare
  dsimp only
  repeat' split
  all_goals simp

@[simp] theorem ExprChecker.check_fromRule (c : ExprChecker) (name : String) (v : Value)
    (expr : String) : ErrorsIn CheckError.FromRule (c.check name v expr).2 := by
  unfold check
  dsimp only
  split
  · rename_i e he
    have := c.prepare_fromRule v
    rw [he] at this
    simpa using this
  · repeat' split
    all_goals simp

theorem compilePattern_fromRule (p : String) : ErrorsIn CheckError.FromRule (compilePattern p) := by
  unfold compilePattern
  repeat' split
  all_goals simp

@[simp] theorem PatternCache.search_fromRule (pc : PatternCache) (p text : String) :
    ErrorsIn CheckError.FromRule (pc.search p text).2 := by
  unfold PatternCache.search
  split
  · simp
  · split
    · rename_i e he
      simpa [he] using compilePattern_fromRule p
    · simp

end FieldRules.Rule

namespace FieldRules

/-- The value in a store cell; none for a label without one. -/
def Store.cell (s : Store) (l : Nat) : Value := (s.get? l).getD .none

end FieldRules

namespace FieldRules.Validation

open Rule

/-! ## The value graph -/

mutual

/-- The shared values the walk of a value comes to first: the labels met along the edges the
  walk follows (items, keys before values, wrapper targets, declared record fields), before it
  enters any of them. -/
def links : Value → List Nat
  | .shared l => [l]
  | .list xs | .tuple xs | .set xs | .frozenSet xs | .deque xs => linksAll xs
  | .dict es => linksEntries es
  | .handle t | .proxy t => links t
  | .weakRef (some t) => links t
  | .object _ attrs => linksWrapped attrs
  | .record c slots =>
    match fieldSpecs c with
    | .error _ => []
    | .ok specs => linksFields specs slots
  | _ => []

def linksAll : List Value → List Nat
  | [] => []
  | x :: xs => links x ++ linksAll xs

def linksEntries : List (Value × Value) → List Nat
  | [] => []
  | (k, x) :: es => links k ++ links x ++ linksEntries es

def linksWrapped : List (String × Value) → List Nat
  | [] => []
  | (n, x) :: rest => if n == "__wrapped__" then links x else linksWrapped rest

def linksFields : List FieldSpec → List Value → List Nat
  | _ :: specs, x :: xs => links x ++ linksFields specs xs
  | _, _ => []

end

/-- An edge of the value graph: walking the value in cell `l` comes to `l'`. -/
def Edge (s : Store) (l l' : Nat) : Prop := l' ∈ links (s.cell l)

/-- A wrapper edge: the value in cell `l` leads to `l'` through wrappers alone, no container. -/
def WrapperEdge (s : Store) (l l' : Nat) : Prop := wrapperRoute (s.cell l) = some (.inr l')

/-- The shared values a walk of `root` can come to. -/
def Reaches (s : Store) (root : Value) (l : Nat) : Prop :=
  ∃ l₀ ∈ links root, Relation.ReflTransGen (Edge s) l₀ l

/-! ## Wrappers and the graph -/

/-- What a value's route says of its links: a route to a shared value is its only link, and a
  value whose route leads nowhere has none. -/
theorem links_of_wrapperRoute (v : Value) :
    (∀ w, wrapperRoute v = some (.inr w) → links v = [w]) ∧
      (wrapperRoute v = none → links v = []) := by
  refine wrapperRoute.induct
    (fun v => (∀ w, wrapperRoute v = some (.inr w) → links v = [w]) ∧
      (wrapperRoute v = none → links v = []))
    (fun attrs => (∀ w, wrappedRoute attrs = some (.inr w) → linksWrapped attrs = [w]) ∧
      (wrappedRoute attrs = none → linksWrapped attrs = []))
    ?_ ?_ ?_ ?_ ?_ ?_ ?_ ?_ ?_ ?_ v
  · intro l; simp [wrapperRoute, links]
  · intro t ih; simpa only [wrapperRoute, links] using ih
  · intro t ih; simpa only [wrapperRoute, links] using ih
  · intro t ih; simpa only [wrapperRoute, links] using ih
  · intro text attrs ih; simpa only [wrapperRoute, links] using ih
  · intro v h1 h2 h3 h4 h5 ht
    have hr : wrapperRoute v = some (.inl v.typeName) := by
      rw [wrapperRoute.eq_def]; split <;> simp_all
    simp [hr]
  · intro v h1 h2 h3 h4 h5 ht
    have hr : wrapperRoute v = none := by
      rw [wrapperRoute.eq_def]; split <;> simp_all
    have hl : links v = [] := by
      rw [links.eq_def]; split <;> simp_all [tracked, Value.kind]
    simp [hr, hl]
  · simp [wrappedRoute, linksWrapped]
  · intro n x rest hn ih
    simp only [wrappedRoute, linksWrapped]; rw [if_pos hn, if_pos hn]; exact ih
  · intro n x rest hn ih
    simp only [wrappedRoute, linksWrapped]; rw [if_neg hn, if_neg hn]; exact ih

section Graph

variable {s : Store} {root : Value} {l w x : Nat}

theorem Edge.of_get {inner : Value} (h : s.get? l = some inner)
    (hx : x ∈ links inner) : Edge s l x := by
  simpa [Edge, Store.cell, h] using hx

theorem Edge.not_of_get_none (h : s.get? l = none) : ¬ Edge s l x := by
  simp [Edge, Store.cell, h, links]

/-- A wrapper edge is the only edge out of its cell. -/
theorem WrapperEdge.edge_iff (h : WrapperEdge s l w) (x : Nat) :
    Edge s l x ↔ x = w := by
  simp [Edge, (links_of_wrapperRoute _).1 w h]

/-- Along a wrapper edge out of a cycle the cycle goes on. -/
theorem WrapperEdge.cycle (h : WrapperEdge s l w)
    (hc : Relation.TransGen (Edge s) l l) : Relation.TransGen (Edge s) w w := by
  obtain ⟨x, hx, hxl⟩ := Relation.TransGen.head'_iff.1 hc
  rw [h.edge_iff] at hx
  subst hx
  exact Relation.TransGen.tail' hxl ((h.edge_iff _).2 rfl)

/-- A label on a cycle has a cell. -/
theorem lt_size_of_cycle (hc : Relation.TransGen (Edge s) l l) :
    l < s.cells.size := by
  obtain ⟨x, hx, -⟩ := Relation.TransGen.head'_iff.1 hc
  cases h : s.get? l with
  | none => exact absurd hx (Edge.not_of_get_none h)
  | some inner => exact (Array.getElem?_eq_some_iff.1 h).1

/-- A value whose wrappers lead nowhere is on no cycle. -/
theorem not_cycle_of_route_none (h : wrapperRoute (s.cell l) = none) :
    ¬ Relation.TransGen (Edge s) l l := fun hc => by
  obtain ⟨x, hx, -⟩ := Relation.TransGen.head'_iff.1 hc
  simp [Edge, (links_of_wrapperRoute _).2 h] at hx

theorem WrapperEdge.edge (h : WrapperEdge s l w) : Edge s l w :=
  (h.edge_iff w).2 rfl

theorem Reaches.trans (hr : Reaches s root l)
    (h : Relation.ReflTransGen (Edge s) l x) : Reaches s root x :=
  let ⟨l₀, hl₀, hr'⟩ := hr; ⟨l₀, hl₀, hr'.trans h⟩

theorem Reaches.tail (hr : Reaches s root l)
    (h : Edge s l x) : Reaches s root x :=
  hr.trans (.single h)

/-- Wrapper edges out of a reachable cycle stay on reachable cycles. -/
theorem WrapperEdge.cycle_of_chain {l' : Nat}
    (h : Relation.ReflTransGen (WrapperEdge s) l l') (hc : Relation.TransGen (Edge s) l l)
    (hr : Reaches s root l) : Relation.TransGen (Edge s) l' l' ∧ Reaches s root l' := by
  induction h with
  | refl => exact ⟨hc, hr⟩
  | tail _ hw ih =>
    obtain ⟨hc', hr'⟩ := ih
    exact ⟨hw.cycle hc', hr'.tail hw.edge⟩

end Graph

/-! ## The walk, one step at a time -/

namespace WalkContext

variable (cx : WalkContext)

theorem walk_shared_mem {l : Nat} {path : List Nat} (h : l ∈ path) (st : WalkState) :
    cx.walk path (.shared l) st = cx.metAgain cx.store.cells.size l st := by
  rw [walk.eq_def]; simp [h]

theorem walk_shared_none {l : Nat} {path : List Nat} (h : l ∉ path) (hl : cx.store.get? l = none)
    (st : WalkState) : cx.walk path (.shared l) st = .ok st := by
  rw [walk.eq_def]; simp [h]; split <;> simp_all

theorem walk_shared_some {l : Nat} {path : List Nat} (h : l ∉ path) {inner : Value}
    (hl : cx.store.get? l = some inner) (st : WalkState) :
    cx.walk path (.shared l) st = cx.walk (l :: path) inner st := by
  rw [walk.eq_def]; simp [h]; split <;> simp_all

theorem walk_items {v : Value} {xs : List Value} (h : v.items? = some xs) (path : List Nat)
    (st : WalkState) : cx.walk path v st = cx.walkItems path xs st := by
  rw [walk.eq_def]
  cases v <;> simp_all [Value.items?]

theorem walk_dict (es : List (Value × Value)) (path : List Nat) (st : WalkState) :
    cx.walk path (.dict es) st = cx.walkEntries path es st := by
  rw [walk.eq_def]

theorem walk_unwrap {v t : Value} (h : v = .handle t ∨ v = .proxy t ∨ v = .weakRef (some t))
    (path : List Nat) (st : WalkState) : cx.walk path v st = cx.walk path t st := by
  rcases h with rfl | rfl | rfl <;> rw [walk.eq_def]

theorem walk_object (text : String) (attrs : List (String × Value)) (path : List Nat)
    (st : WalkState) : cx.walk path (.object text attrs) st = cx.walkWrapped path attrs st := by
  rw [walk.eq_def]

theorem walk_record_error {c : RecordClass} {f : Fault} (h : fieldSpecs c = .error f)
    (slots : List Value) (path : List Nat) (st : WalkState) :
    cx.walk path (.record c slots) st = .error (.host f, st) := by
  rw [walk.eq_def]; simp [h]

theorem walk_record_ok {c : RecordClass} {specs : List FieldSpec} (h : fieldSpecs c = .ok specs)
    (slots : List Value) (path : List Nat) (st : WalkState) :
    cx.walk path (.record c slots) st = cx.walkFields path c.name specs slots st := by
  rw [walk.eq_def]; simp [h]

theorem walkItems_cons (path : List Nat) (x : Value) (xs : List Value) (st : WalkState) :
    cx.walkItems path (x :: xs) st = (cx.walk path x st >>= cx.walkItems path xs) := by
  rw [walkItems.eq_def]

theorem walkEntries_cons (path : List Nat) (k x : Value) (es : List (Value × Value))
    (st : WalkState) : cx.walkEntries path ((k, x) :: es) st =
      (cx.walk path k st >>= cx.walk path x >>= cx.walkEntries path es) := by
  rw [walkEntries.eq_def]; simp only [bind_assoc]

theorem walkWrapped_cons (path : List Nat) (n : String) (x : Value)
    (rest : List (String × Value)) (st : WalkState) : cx.walkWrapped path ((n, x) :: rest) st =
      if n == "__wrapped__" then cx.walk path x st else cx.walkWrapped path rest st := by
  rw [walkWrapped.eq_def]

/-- Checking a field, case by case: a field without rules, or skipped by its directive, is
  passed by; a private one needs an addressable root; a field left alone for its value is passed
  by; else its expression rule runs, then its pattern rule. -/
theorem checkField_eq (name : String) (spec : FieldSpec) (raw : Value)
    (st : WalkState) :
    cx.checkField name spec raw st =
      if !spec.tags.hasRules || (cx.options.honorSerialization && spec.tags.directive.skip) then
        .ok st
      else if spec.isPrivate && !cx.addressable then
        .error (.access (.privateField spec.name name), st)
      else (cx.leftAlone spec.tags (fieldTarget cx.store raw)).mapError (·, st) >>= fun alone =>
        if alone then .ok st
        else cx.checkExpr spec (fieldTarget cx.store raw) st >>=
          cx.checkPattern spec (fieldTarget cx.store raw) := by
  unfold checkField
  dsimp only
  by_cases hr : (!spec.tags.hasRules || (cx.options.honorSerialization && spec.tags.directive.skip)) = true
  · rw [if_pos hr, if_pos hr]; rfl
  · rw [if_neg hr, if_neg hr]
    by_cases hp : (spec.isPrivate && !cx.addressable) = true
    · rw [if_pos hp, if_pos hp]; rfl
    · rw [if_neg hp, if_neg hp]; rfl

/-- The check of a record field that the walk makes before walking into it. -/
def fieldStep (recordName : String) (spec : FieldSpec) (x : Value) (st : WalkState) :
    WalkOutcome :=
  if cx.options.honorSerialization && spec.isPrivate then pure st
  else cx.checkField recordName spec x st

theorem walkFields_cons (path : List Nat) (recordName : String) (spec : FieldSpec)
    (specs : List FieldSpec) (x : Value) (xs : List Value) (st : WalkState) :
    cx.walkFields path recordName (spec :: specs) (x :: xs) st =
      (cx.fieldStep recordName spec x st >>= cx.walk path x >>=
        cx.walkFields path recordName specs xs) := by
  rw [walkFields.eq_def]
  by_cases h : (cx.options.honorSerialization && spec.isPrivate) = true <;>
    simp only [fieldStep, h, if_true, if_false, bind_assoc, Bool.false_eq_true]

section Principle

variable (Q : List Nat → List Nat → WalkState → (List Nat → WalkOutcome) → Prop)

/-- A property of a walk from a state, as a function of the path it starts from, that the links
  in play carry: it holds where a shared value is met again, entered or missing, for a result
  that is no walk at all, and it is kept by walking one thing after another. It then holds of
  every walk. -/
theorem walk_induct_links
    (hmem : ∀ P l st, l ∈ P → Q P [l] st (cx.walk · (.shared l) st))
    (hnone : ∀ P l st, l ∉ P → cx.store.get? l = none → Q P [l] st (cx.walk · (.shared l) st))
    (hsome : ∀ P l inner st, l ∉ P → cx.store.get? l = some inner →
      Q (l :: P) (links inner) st (cx.walk · inner st) → Q P [l] st (cx.walk · (.shared l) st))
    (hok : ∀ P st, Q P [] st fun _ => .ok st)
    (hhost : ∀ P c f st, fieldSpecs c = .error f → Q P [] st fun _ => .error (.host f, st))
    (hstep : ∀ P name spec x st, Q P [] st fun _ => cx.fieldStep name spec x st)
    (hbind : ∀ P L₁ L₂ st (a : List Nat → WalkOutcome)
      (k : List Nat → WalkState → WalkOutcome), Q P L₁ st a →
      (∀ st', Q P L₂ st' (k · st')) → Q P (L₁ ++ L₂) st fun P' => a P' >>= k P') :
    ∀ P v st, Q P (links v) st (cx.walk · v st) := by
  have hbind' : ∀ P L₂ st (a : WalkOutcome)
      (k : List Nat → WalkState → WalkOutcome), Q P [] st (fun _ => a) →
      (∀ st', Q P L₂ st' (k · st')) → Q P L₂ st fun P' => a >>= k P' :=
    fun P L₂ st a k ha hk => hbind P [] L₂ st (fun _ => a) k ha hk
  refine WalkContext.walk.induct cx
    (fun P v st => Q P (links v) st (cx.walk · v st))
    (fun P name specs xs st => Q P (linksFields specs xs) st (cx.walkFields · name specs xs st))
    (fun P attrs st => Q P (linksWrapped attrs) st (cx.walkWrapped · attrs st))
    (fun P es st => Q P (linksEntries es) st (cx.walkEntries · es st))
    (fun P xs st => Q P (linksAll xs) st (cx.walkItems · xs st))
    ?_ ?_ ?_ ?_ ?_ ?_ ?_ ?_ ?_ ?_ ?_ ?_ ?_ ?_ ?_ ?_ ?_ ?_ ?_ ?_ ?_ ?_ ?_ ?_ ?_ ?_
  -- a shared value: met again, missing, or entered
  · intro P st l h
    exact hmem P l st (by simpa using h)
  · intro P st l h hl
    exact hnone P l st (by simpa using h) hl
  · intro P st l h inner hl ih
    exact hsome P l inner st (by simpa using h) hl ih
  -- sequences and sets walk their items, a dictionary its entries, a wrapper its target
  · intro P st xs ih; rw [funext fun P' => walk_items cx (v := .list xs) rfl P' st]; exact ih
  · intro P st xs ih; rw [funext fun P' => walk_items cx (v := .tuple xs) rfl P' st]; exact ih
  · intro P st xs ih; rw [funext fun P' => walk_items cx (v := .set xs) rfl P' st]; exact ih
  · intro P st xs ih; rw [funext fun P' => walk_items cx (v := .frozenSet xs) rfl P' st]; exact ih
  · intro P st xs ih; rw [funext fun P' => walk_items cx (v := .deque xs) rfl P' st]; exact ih
  · intro P st es ih; rw [funext fun P' => walk_dict cx es P' st]; exact ih
  · intro P st t ih; rw [funext fun P' => walk_unwrap cx (Or.inl rfl) P' st]; exact ih
  · intro P st t ih; rw [funext fun P' => walk_unwrap cx (Or.inr (Or.inl rfl)) P' st]; exact ih
  · intro P st t ih; rw [funext fun P' => walk_unwrap cx (Or.inr (Or.inr rfl)) P' st]; exact ih
  · intro P st text attrs ih; rw [funext fun P' => walk_object cx text attrs P' st]; exact ih
  -- a record: its declaration fails, or its fields are checked and walked
  · intro P st c slots f hf
    have hl : links (.record c slots) = [] := by simp [links, hf]
    rw [hl, funext fun P' => walk_record_error cx hf slots P' st]
    exact hhost P c f st hf
  · intro P st c slots specs hs ih
    have hl : links (.record c slots) = linksFields specs slots := by simp [links, hs]
    rw [hl, funext fun P' => walk_record_ok cx hs slots P' st]
    exact ih
  -- any other value ends the walk
  · intro P v st h1 h2 h3 h4 h5 h6 h7 h8 h9 h10 h11 h12
    -- what is known of v is only that it has none of the shapes walked into
    have hends : (∀ P', cx.walk P' v st = .ok st) ∧ links v = [] := by
      clear hmem hnone hsome hok hhost hstep hbind hbind'
      refine ⟨fun P' => ?_, ?_⟩
      · rw [walk.eq_def]; split <;> simp_all
      · rw [links.eq_def]; split <;> simp_all
    rw [hends.2, funext hends.1]
    exact hok P st
  -- the fields of a record
  · intro P name spec specs x xs st _ ih1 ih2
    rw [funext fun P' => walkFields_cons cx P' name spec specs x xs st]
    exact hbind P _ _ _ _ _ (hbind' P _ _ _ _ (hstep P name spec x st) ih1) ih2
  · intro P name spec specs x xs st _ ih1 ih2
    rw [funext fun P' => walkFields_cons cx P' name spec specs x xs st]
    exact hbind P _ _ _ _ _ (hbind' P _ _ _ _ (hstep P name spec x st) ih1) ih2
  · intro P name specs xs st h
    rcases specs with _ | ⟨spec, specs⟩ <;> rcases xs with _ | ⟨x, xs⟩
    · rw [funext fun P' => (walkFields.eq_def cx P' name [] [] st)]; exact hok P st
    · rw [funext fun P' => (walkFields.eq_def cx P' name [] (x :: xs) st)]; exact hok P st
    · rw [funext fun P' => (walkFields.eq_def cx P' name (spec :: specs) [] st)]; exact hok P st
    · exact (h spec specs x xs rfl rfl).elim
  -- the first attribute named __wrapped__
  · intro P st; rw [funext fun P' => walkWrapped.eq_def cx P' [] st]; exact hok P st
  · intro P n x rest st hn ih
    show Q P (if n == "__wrapped__" then links x else linksWrapped rest) _ _
    simp only [funext fun P' => walkWrapped_cons cx P' n x rest st, hn, if_true]
    exact ih
  · intro P n x rest st hn ih
    show Q P (if n == "__wrapped__" then links x else linksWrapped rest) _ _
    simp only [funext fun P' => walkWrapped_cons cx P' n x rest st, hn, if_false,
      Bool.false_eq_true]
    exact ih
  -- entries, key before value, and items
  · intro P st; rw [funext fun P' => walkEntries.eq_def cx P' [] st]; exact hok P st
  · intro P k x es st ih1 ih2 ih3
    rw [funext fun P' => walkEntries_cons cx P' k x es st]
    exact hbind P _ _ _ _ _ (hbind P _ _ _ _ _ ih1 ih2) ih3
  · intro P st; rw [funext fun P' => walkItems.eq_def cx P' [] st]; exact hok P st
  · intro P x xs st ih1 ih2
    rw [funext fun P' => walkItems_cons cx P' x xs st]
    exact hbind P _ _ _ _ _ ih1 ih2

end Principle

end WalkContext

/-! ## Meeting a shared value again -/

namespace WalkContext

variable (cx : WalkContext)

theorem metAgain_succ (f l : Nat) (st : WalkState) :
    cx.metAgain (f + 1) l st =
      match wrapperRoute (cx.store.cell l) with
      | some (.inl name) => .error (.cycle name, st)
      | some (.inr w) => cx.metAgain f w st
      | none => .ok st := rfl

/-- Meeting a shared value again hands the state on as it is, whether it passes or stops. -/
theorem metAgain_state : ∀ (f l : Nat) (st : WalkState),
    cx.metAgain f l st = .ok st ∨ ∃ e, cx.metAgain f l st = .error (e, st)
  | 0, _, _ => .inr ⟨_, rfl⟩
  | f + 1, l, st => by
    rw [metAgain_succ]
    split
    · exact .inr ⟨_, rfl⟩
    · exact metAgain_state f _ st
    · exact .inl rfl

/-- A cycle error from meeting a value again names the container that a value is or wraps
  which the first one's wrappers lead to. -/
theorem metAgain_cycle : ∀ (f l : Nat) (st st' : WalkState) (n : String),
    cx.metAgain f l st = .error (.cycle n, st') →
      ∃ l', Relation.ReflTransGen (WrapperEdge cx.store) l l' ∧
        wrapperRoute (cx.store.cell l') = some (.inl n)
  | 0, _, _, _, _, h => by simp [metAgain] at h
  | f + 1, l, st, st', n, h => by
    rw [metAgain_succ] at h
    split at h
    · rename_i name hr
      simp only [Except.error.injEq, Prod.mk.injEq, CheckError.cycle.injEq] at h
      exact ⟨l, .refl, h.1 ▸ hr⟩
    · rename_i w hr
      obtain ⟨l', hw, hl'⟩ := metAgain_cycle f w st st' n h
      exact ⟨l', Relation.ReflTransGen.head hr hw, hl'⟩
    · simp at h

/-- Meeting again a value on a cycle never passes: its wrappers never lead nowhere. -/
theorem metAgain_ne_ok : ∀ (f : Nat) {l : Nat}, Relation.TransGen (Edge cx.store) l l →
    ∀ (st st' : WalkState), cx.metAgain f l st ≠ .ok st'
  | 0, _, _, _, _ => by simp [metAgain]
  | f + 1, l, hc, st, st' => by
    rw [metAgain_succ]
    split
    · simp
    · rename_i w hr
      exact metAgain_ne_ok f (WrapperEdge.cycle hr hc) st st'
    · rename_i hr
      exact absurd hc (not_cycle_of_route_none hr)

/-- Where every reachable cycle passes through a container, meeting again a value on a reachable
  cycle reports a cycle: its wrappers reach a container before they run out of labels. -/
theorem metAgain_cycle_of_no_ring {root : Value}
    (hring : ∀ x, Reaches cx.store root x → ¬ Relation.TransGen (WrapperEdge cx.store) x x)
    (st : WalkState) : ∀ (f : Nat) (seen : List Nat) (l : Nat), seen.Nodup →
      (∀ x ∈ seen, x < cx.store.cells.size) → l ∉ seen → cx.store.cells.size ≤ f + seen.length →
      (∀ x ∈ seen, Relation.TransGen (WrapperEdge cx.store) x l) →
      Relation.TransGen (Edge cx.store) l l → Reaches cx.store root l →
      ∃ n, cx.metAgain f l st = .error (.cycle n, st)
  | 0, seen, l, hnd, hvalid, hl, hf, _, hc, _ => by
    -- the label has a cell, so the labels seen and it, all distinct, outnumber the cells
    have hvalid' : ∀ x ∈ l :: seen, x < cx.store.cells.size :=
      List.forall_mem_cons.2 ⟨lt_size_of_cycle hc, hvalid⟩
    have hsub : l :: seen ⊆ List.range cx.store.cells.size := fun x hx =>
      List.mem_range.2 (hvalid' x hx)
    have hlen := ((List.nodup_cons.2 ⟨hl, hnd⟩).subperm hsub).length_le
    simp at hlen; omega
  | f + 1, seen, l, hnd, hvalid, hl, hf, hseen, hc, hr => by
    rw [metAgain_succ]
    split
    · exact ⟨_, rfl⟩
    · rename_i w hw'
      have hw : WrapperEdge cx.store l w := hw'
      -- a wrapper target already seen would close a ring of wrappers
      have hwl : w ∉ l :: seen := by
        intro hmem
        rcases List.mem_cons.1 hmem with rfl | hmem
        · exact hring w hr (.single hw)
        · exact hring w (hr.tail hw.edge) ((hseen w hmem).tail hw)
      refine metAgain_cycle_of_no_ring hring st f (l :: seen) w (List.nodup_cons.2 ⟨hl, hnd⟩)
        (List.forall_mem_cons.2 ⟨lt_size_of_cycle hc, hvalid⟩) hwl (by simp; omega)
        (List.forall_mem_cons.2 ⟨.single hw, fun x hx => (hseen x hx).tail hw⟩)
        (hw.cycle hc) (hr.tail hw.edge)
    · rename_i hn
      exact absurd hc (not_cycle_of_route_none hn)

end WalkContext

/-! ## What a walk keeps -/

namespace WalkContext

variable (cx : WalkContext) (I : WalkOutcome → Prop)

/-- A property of outcomes that every next step keeps from a state with it holds after the step. -/
theorem keeps_bind {a : WalkOutcome} {k : WalkState → WalkOutcome} (ha : I a)
    (hk : ∀ st, I (.ok st) → I (k st)) : I (a >>= k) := by
  cases a with
  | ok st => exact hk st ha
  | error p => exact ha

section Keeps

variable (hstop : ∀ e st, I (.ok st) → I (.error (e, st)))
  (hstep : ∀ name spec x st, I (.ok st) → I (cx.fieldStep name spec x st))
include hstop hstep

/-- A property of outcomes that stopping keeps, and that checking any field keeps, holds of the
  outcome of every walk from a state with it: a walk only checks fields, hands its state on and
  stops. -/
theorem walk_keeps : ∀ P v st, I (.ok st) → I (cx.walk P v st) := by
  refine cx.walk_induct_links (fun P _ st run => I (.ok st) → I (run P)) ?_ ?_ ?_ ?_ ?_ ?_ ?_
  · intro P l st hl h
    beta_reduce
    rw [walk_shared_mem cx hl]
    rcases cx.metAgain_state _ l st with he | ⟨e, he⟩ <;> rw [he]
    · exact h
    · exact hstop e st h
  · intro P l st hl hget h
    beta_reduce
    rw [walk_shared_none cx hl hget]
    exact h
  · intro P l inner st hl hget ih h
    beta_reduce at ih ⊢
    rw [walk_shared_some cx hl hget]
    exact ih h
  · intro P st h
    exact h
  · intro P c f st _ h
    exact hstop _ st h
  · intro P name spec x st h
    exact hstep name spec x st h
  · intro P L₁ L₂ st a k ha hk h
    exact keeps_bind I (ha h) fun st' h' => hk st' h'

/-- The same for the fields of a record, checked and walked in turn. -/
theorem walkFields_keeps (P : List Nat) (name : String) :
    ∀ specs xs st, I (.ok st) → I (cx.walkFields P name specs xs st)
  | [], _, st, h => by rw [walkFields.eq_def]; exact h
  | _ :: _, [], st, h => by rw [walkFields.eq_def]; exact h
  | spec :: specs, x :: xs, st, h => by
    rw [walkFields_cons]
    exact keeps_bind I (keeps_bind I (hstep name spec x st h)
      (walk_keeps cx I hstop hstep P x)) (walkFields_keeps P name specs xs)

theorem walkItems_keeps (P : List Nat) (xs : List Value) (st : WalkState) (h : I (.ok st)) :
    I (cx.walkItems P xs st) := by
  rw [← walk_items cx (v := .list xs) rfl]
  exact cx.walk_keeps I hstop hstep P _ st h

theorem walkEntries_keeps (P : List Nat) (es : List (Value × Value)) (st : WalkState)
    (h : I (.ok st)) : I (cx.walkEntries P es st) := by
  rw [← walk_dict]
  exact cx.walk_keeps I hstop hstep P _ st h

end Keeps

end WalkContext

/-! ## Where a walk stands -/

/-- Where a walk stands: the labels on its path and those in play are reachable from the root,
  and each label on the path leads to each in play. -/
structure OnPath (s : Store) (root : Value) (P L : List Nat) : Prop where
  path_reached : ∀ p ∈ P, Reaches s root p
  leads : ∀ p ∈ P, ∀ x ∈ L, Relation.TransGen (Edge s) p x
  reached : ∀ x ∈ L, Reaches s root x

/-- Nothing reachable from the labels in play is on the path or on a cycle. -/
def Clear (s : Store) (P L : List Nat) : Prop :=
  ∀ x ∈ L, ∀ y, Relation.ReflTransGen (Edge s) x y → y ∉ P ∧ ¬ Relation.TransGen (Edge s) y y

section Stand

variable {s : Store} {root : Value} {P L₁ L₂ : List Nat} {l : Nat} {inner : Value}

theorem OnPath.start : OnPath s root [] (links root) :=
  ⟨by simp, by simp, fun x hx => ⟨x, hx, .refl⟩⟩

theorem OnPath.left (h : OnPath s root P (L₁ ++ L₂)) : OnPath s root P L₁ :=
  ⟨h.path_reached, fun p hp x hx => h.leads p hp x (by simp [hx]),
    fun x hx => h.reached x (by simp [hx])⟩

theorem OnPath.right (h : OnPath s root P (L₁ ++ L₂)) : OnPath s root P L₂ :=
  ⟨h.path_reached, fun p hp x hx => h.leads p hp x (by simp [hx]),
    fun x hx => h.reached x (by simp [hx])⟩

/-- Entering a shared value puts it on the path, and its links come into play. -/
theorem OnPath.enter (h : OnPath s root P [l]) (hget : s.get? l = some inner) :
    OnPath s root (l :: P) (links inner) := by
  have hl : Reaches s root l := h.reached l (by simp)
  refine ⟨fun p hp => ?_, fun p hp x hx => ?_, fun x hx => hl.tail (Edge.of_get hget hx)⟩
  · rcases List.mem_cons.1 hp with rfl | hp
    · exact hl
    · exact h.path_reached p hp
  · rcases List.mem_cons.1 hp with rfl | hp
    · exact .single (Edge.of_get hget hx)
    · exact (h.leads p hp l (by simp)).tail (Edge.of_get hget hx)

theorem Clear.nil : Clear s P [] := by simp [Clear]

theorem Clear.append (h₁ : Clear s P L₁) (h₂ : Clear s P L₂) : Clear s P (L₁ ++ L₂) := by
  intro x hx
  rcases List.mem_append.1 hx with hx | hx
  · exact h₁ x hx
  · exact h₂ x hx

/-- A missing shared value off the path leads nowhere. -/
theorem Clear.of_none (hl : l ∉ P) (hget : s.get? l = none) : Clear s P [l] := by
  intro x hx y hy
  rw [List.mem_singleton.1 hx] at hy
  rcases Relation.ReflTransGen.cases_head hy with rfl | ⟨z, hz, -⟩
  · refine ⟨hl, fun hc => ?_⟩
    obtain ⟨z, hz, -⟩ := Relation.TransGen.head'_iff.1 hc
    exact Edge.not_of_get_none hget hz
  · exact (Edge.not_of_get_none hget hz).elim

/-- Leaving a shared value: when nothing below it met the path with it, it is clear itself. -/
theorem Clear.exit (hl : l ∉ P) (hget : s.get? l = some inner)
    (h : Clear s (l :: P) (links inner)) : Clear s P [l] := by
  have below : ∀ y, Relation.TransGen (Edge s) l y → y ∉ l :: P ∧ ¬ Relation.TransGen (Edge s) y y :=
    fun y hy => by
      obtain ⟨z, hz, hzy⟩ := Relation.TransGen.head'_iff.1 hy
      exact h z (by simpa [Edge, Store.cell, hget] using hz) y hzy
  intro x hx y hy
  rw [List.mem_singleton.1 hx] at hy
  rcases Relation.reflTransGen_iff_eq_or_transGen.1 hy with rfl | hy
  · exact ⟨hl, fun hc => (below _ hc).1 (List.mem_cons_self ..)⟩
  · exact ⟨fun hp => (below y hy).1 (List.mem_cons_of_mem _ hp), (below y hy).2⟩

end Stand

/-- An error that checking a field raises, or the fault of a record's declaration. -/
def FieldRaises (cx : WalkContext) (e : CheckError) : Prop :=
  (∃ name spec x st st', cx.fieldStep name spec x st = .error (e, st')) ∨
    ∃ c f, fieldSpecs c = .error f ∧ e = .host f

/-- An error a walk of a root may stop with: a field's, or that of meeting again a shared value
  on a cycle reachable from the root. -/
def Explained (cx : WalkContext) (root : Value) (e : CheckError) : Prop :=
  FieldRaises cx e ∨ ∃ l, Reaches cx.store root l ∧ Relation.TransGen (Edge cx.store) l l ∧
    ∃ st st', cx.metAgain cx.store.cells.size l st = .error (e, st')

theorem except_bind_eq_error {ε α β : Type} {a : Except ε α} {k : α → Except ε β} {e : ε} :
    a >>= k = .error e ↔ a = .error e ∨ ∃ x, a = .ok x ∧ k x = .error e := by
  cases a <;> simp [bind, Except.bind]

theorem except_bind_eq_ok {ε α β : Type} {a : Except ε α} {k : α → Except ε β} {y : β} :
    a >>= k = .ok y ↔ ∃ x, a = .ok x ∧ k x = .ok y := by
  cases a <;> simp [bind, Except.bind]

namespace WalkContext

variable (cx : WalkContext) (root : Value)

/-- What a walk stops with is explained, and a walk that passes leaves everything reachable
  from where it stood clear of the path and of cycles. -/
theorem walk_sound : ∀ P v st, OnPath cx.store root P (links v) →
    (∀ e s, cx.walk P v st = .error (e, s) → Explained cx root e) ∧
      (∀ st', cx.walk P v st = .ok st' → Clear cx.store P (links v)) := by
  refine cx.walk_induct_links (fun P L _ run => OnPath cx.store root P L →
    (∀ e s, run P = .error (e, s) → Explained cx root e) ∧
      (∀ st', run P = .ok st' → Clear cx.store P L))
    ?_ ?_ ?_ ?_ ?_ ?_ ?_
  · -- met again: the path leads round to it
    intro P l st hl h
    beta_reduce
    have hc : Relation.TransGen (Edge cx.store) l l := h.leads l hl l (by simp)
    refine ⟨fun e s he => .inr ⟨l, h.reached l (by simp), hc, st, s, ?_⟩, fun st' he => ?_⟩
    · rwa [walk_shared_mem cx hl] at he
    · rw [walk_shared_mem cx hl] at he
      exact (cx.metAgain_ne_ok _ hc st st' he).elim
  · -- missing: nothing below it
    intro P l st hl hget _
    beta_reduce
    refine ⟨fun e s he => ?_, fun _ _ => Clear.of_none hl hget⟩
    rw [walk_shared_none cx hl hget] at he
    cases he
  · -- entered: the path grows by it, and what its value leaves clear, it leaves clear
    intro P l inner st hl hget ih h
    beta_reduce at ih ⊢
    obtain ⟨herr, hok⟩ := ih (h.enter hget)
    refine ⟨fun e s he => herr e s ?_, fun st' he => Clear.exit hl hget (hok st' ?_)⟩
    · rwa [walk_shared_some cx hl hget] at he
    · rwa [walk_shared_some cx hl hget] at he
  · intro P st _
    exact ⟨fun _ _ he => (nomatch he), fun _ _ => Clear.nil⟩
  · intro P c f st hf _
    refine ⟨fun e s he => .inl (.inr ⟨c, f, hf, ?_⟩), fun _ he => nomatch he⟩
    simp only [Except.error.injEq, Prod.mk.injEq] at he
    exact he.1.symm
  · intro P name spec x st _
    exact ⟨fun e s he => .inl (.inl ⟨name, spec, x, st, s, he⟩), fun _ _ => Clear.nil⟩
  · -- one walk after another: an error is the first one's or the second's
    intro P L₁ L₂ _ a k ha hk h
    obtain ⟨herr₁, hok₁⟩ := ha h.left
    refine ⟨fun e s he => ?_, fun st' he => ?_⟩
    · rcases except_bind_eq_error.1 he with he | ⟨st, hst, he⟩
      · exact herr₁ e s he
      · exact (hk st h.right).1 e s he
    · obtain ⟨st, hst, he⟩ := except_bind_eq_ok.1 he
      exact (hok₁ st hst).append ((hk st h.right).2 st' he)

end WalkContext

/-! ## What a field's check may stop with -/

namespace WalkContext

variable (cx : WalkContext)

@[simp] theorem leftAlone_fromRule (tags : Tags) (value : Value) :
    ErrorsIn CheckError.FromRule (cx.leftAlone tags value) := by
  unfold leftAlone
  dsimp only
  repeat' split
  all_goals simp

theorem checkExpr_fromRule (spec : FieldSpec) (value : Value) (st : WalkState) :
    ErrorsIn (fun p : CheckError × WalkState => p.1.FromRule) (cx.checkExpr spec value st) := by
  unfold checkExpr
  split
  · simp
  · rename_i e _
    have h := st.checker.check_fromRule spec.name value (rewriteShorthand spec.name e)
    dsimp only
    generalize st.checker.check spec.name value (rewriteShorthand spec.name e) = q at h ⊢
    obtain ⟨c, r⟩ := q
    cases r <;> simp_all

theorem checkPattern_fromRule (spec : FieldSpec) (value : Value) (st : WalkState) :
    ErrorsIn (fun p : CheckError × WalkState => p.1.FromRule) (cx.checkPattern spec value st) := by
  unfold checkPattern
  split
  · simp
  · rename_i p _
    cases cx.store.matchText value with
    | error f => simp [bind, Except.bind, Except.mapError]
    | ok text =>
      have h := st.patterns.search_fromRule p text
      simp only [bind, Except.bind, Except.mapError]
      generalize st.patterns.search p text = q at h ⊢
      obtain ⟨pc, r⟩ := q
      cases r <;> simp_all

/-- A field's check stops with an error of its rules, or, reading a private field with rules
  from a root that is not addressable, with an access error. -/
theorem fieldStep_errors (recordName : String) (spec : FieldSpec) (x : Value) (st : WalkState) :
    ErrorsIn (fun p : CheckError × WalkState => p.1.FromRule ∨
        (p.1 = .access (.privateField spec.name recordName) ∧
        cx.options.honorSerialization = false ∧ cx.addressable = false ∧ spec.isPrivate = true ∧
        spec.tags.hasRules = true))
      (cx.fieldStep recordName spec x st) := by
  unfold fieldStep
  split
  · exact ErrorsIn.pure_ok st
  rename_i hskip
  rw [checkField_eq]
  split
  · exact ErrorsIn.ok st
  rename_i hrules
  split
  · rename_i hpriv
    simp only [Bool.and_eq_true, Bool.not_eq_true'] at hpriv hskip
    simp only [Bool.or_eq_true, Bool.not_eq_true', not_or] at hrules
    refine (ErrorsIn.error_iff _).2 (.inr ⟨rfl, ?_, hpriv.2, hpriv.1, ?_⟩)
    · cases h : cx.options.honorSerialization <;> simp_all
    · simpa using hrules.1
  · -- what remains runs the rules
    have hrest : ErrorsIn (fun p : CheckError × WalkState => p.1.FromRule)
        ((cx.leftAlone spec.tags (fieldTarget cx.store x)).mapError (·, st) >>= fun alone =>
          if alone then .ok st
          else cx.checkExpr spec (fieldTarget cx.store x) st >>=
            cx.checkPattern spec (fieldTarget cx.store x)) := by
      refine (ErrorsIn.bind_iff _ _).2 ⟨(ErrorsIn.mapError_iff _ _).2 (cx.leftAlone_fromRule _ _),
        fun alone _ => ?_⟩
      cases alone
      · exact (ErrorsIn.bind_iff _ _).2
          ⟨cx.checkExpr_fromRule _ _ st, fun t _ => cx.checkPattern_fromRule _ _ t⟩
      · exact ErrorsIn.ok st
    exact hrest.mono fun e he => .inl he

end WalkContext

theorem FieldRaises.ne_cycle {cx : WalkContext} {e : CheckError} (h : FieldRaises cx e)
    (n : String) : e ≠ .cycle n := by
  rintro rfl
  rcases h with ⟨name, spec, x, st, st', he⟩ | ⟨c, f, -, he⟩
  · rcases cx.fieldStep_errors name spec x st _ he with hr | ⟨hr, -⟩
    · exact hr
    · cases hr
  · cases he

/-! ## A shared value is walked in full wherever it is met -/

/-- Two paths that agree on every label reachable from the links in play. -/
def AgreeBelow (s : Store) (L P P' : List Nat) : Prop :=
  ∀ x, (∃ l₀ ∈ L, Relation.ReflTransGen (Edge s) l₀ x) → (x ∈ P ↔ x ∈ P')

section Agree

variable {s : Store} {P P' L₁ L₂ : List Nat} {l : Nat} {inner : Value}

theorem AgreeBelow.left (h : AgreeBelow s (L₁ ++ L₂) P P') : AgreeBelow s L₁ P P' :=
  fun x ⟨l₀, hl₀, hx⟩ => h x ⟨l₀, by simp [hl₀], hx⟩

theorem AgreeBelow.right (h : AgreeBelow s (L₁ ++ L₂) P P') : AgreeBelow s L₂ P P' :=
  fun x ⟨l₀, hl₀, hx⟩ => h x ⟨l₀, by simp [hl₀], hx⟩

theorem AgreeBelow.self (h : AgreeBelow s [l] P P') : l ∈ P ↔ l ∈ P' :=
  h l ⟨l, by simp, .refl⟩

/-- Entering a shared value on both paths keeps them agreeing below it. -/
theorem AgreeBelow.enter (h : AgreeBelow s [l] P P') (hget : s.get? l = some inner) :
    AgreeBelow s (links inner) (l :: P) (l :: P') := by
  intro x ⟨l₀, hl₀, hx⟩
  have hlx : Relation.ReflTransGen (Edge s) l x := .head (Edge.of_get hget hl₀) hx
  simpa using or_congr_right (h x ⟨l, by simp, hlx⟩)

end Agree

namespace WalkContext

variable (cx : WalkContext)

/-- A walk depends on its path only through the labels reachable from what it walks. -/
theorem walk_path_congr : ∀ P v st P', AgreeBelow cx.store (links v) P P' →
    cx.walk P v st = cx.walk P' v st := by
  refine cx.walk_induct_links (fun P L _ run => ∀ P', AgreeBelow cx.store L P P' → run P = run P')
    ?_ ?_ ?_ ?_ ?_ ?_ ?_
  · intro P l st hl P' h
    beta_reduce
    rw [walk_shared_mem cx hl, walk_shared_mem cx (h.self.1 hl)]
  · intro P l st hl hget P' h
    beta_reduce
    rw [walk_shared_none cx hl hget, walk_shared_none cx (mt h.self.2 hl) hget]
  · intro P l inner st hl hget ih P' h
    beta_reduce at ih ⊢
    rw [walk_shared_some cx hl hget, walk_shared_some cx (mt h.self.2 hl) hget]
    exact ih (l :: P') (h.enter hget)
  · intro _ _ _ _; rfl
  · intro _ _ _ _ _ _ _; rfl
  · intro _ _ _ _ _ _ _; rfl
  · intro P L₁ L₂ _ a k ha hk P' h
    beta_reduce
    rw [ha P' h.left]
    congr 1
    exact funext fun st => hk st P' h.right

/-! ## The walk detects exactly the cycles -/

/-- The walk of a value graph detects exactly its cycles. Where no cycle is reachable from the
  root, the walk reports none and stops only for a field's error, and a shared value met at
  the end of any path to it is walked as in full; where a cycle is reachable and every
  reachable cycle passes through a container, the walk stops, for a field's error or a cycle;
  and a cycle it reports is at a container on a reachable cycle, which a shared value there is
  or wraps. -/
theorem walk_detects_cycles (root : Value) (st : WalkState) :
    ((∀ l, Reaches cx.store root l → ¬ Relation.TransGen (Edge cx.store) l l) →
      (∀ e s, cx.walk [] root st = .error (e, s) → FieldRaises cx e ∧ ∀ n, e ≠ .cycle n) ∧
      ∀ P l st', Reaches cx.store root l → (∀ p ∈ P, Relation.TransGen (Edge cx.store) p l) →
        cx.walk P (.shared l) st' = cx.walk [] (.shared l) st') ∧
    ((∀ l, Reaches cx.store root l → ¬ Relation.TransGen (WrapperEdge cx.store) l l) →
      (∃ l, Reaches cx.store root l ∧ Relation.TransGen (Edge cx.store) l l) →
      ∃ e s, cx.walk [] root st = .error (e, s) ∧ (FieldRaises cx e ∨ ∃ n, e = .cycle n)) ∧
    (∀ n s, cx.walk [] root st = .error (.cycle n, s) →
      ∃ l, Reaches cx.store root l ∧ Relation.TransGen (Edge cx.store) l l ∧
        wrapperRoute (cx.store.cell l) = some (.inl n)) := by
  have hsound := cx.walk_sound root [] root st OnPath.start
  refine ⟨fun hacyclic => ⟨fun e s he => ?_, fun P l st' hl hP => ?_⟩,
    fun hring ⟨l, hl, hc⟩ => ?_, fun n s he => ?_⟩
  · -- acyclic: an error is a field's
    rcases hsound.1 e s he with hf | ⟨l, hl, hc, -⟩
    · exact ⟨hf, hf.ne_cycle⟩
    · exact (hacyclic l hl hc).elim
  · -- acyclic: no label below the shared value is on a path leading to it
    refine cx.walk_path_congr P (.shared l) st' [] fun x ⟨l₀, hl₀, hx⟩ => ?_
    rw [List.mem_singleton.1 hl₀] at hx
    simp only [List.not_mem_nil, iff_false]
    intro hxP
    exact hacyclic x (hl.trans hx) ((hP x hxP).trans_left hx)
  · -- a reachable cycle: the walk cannot pass
    cases hr : cx.walk [] root st with
    | ok st' =>
      obtain ⟨l₀, hl₀, hl⟩ := hl
      exact ((hsound.2 st' hr) l₀ hl₀ l hl).2 hc |>.elim
    | error p =>
      obtain ⟨e, s⟩ := p
      refine ⟨e, s, rfl, ?_⟩
      rcases hsound.1 e s hr with hf | ⟨l', hl', hc', st'', s', hm⟩
      · exact .inl hf
      · obtain ⟨n, hn⟩ := cx.metAgain_cycle_of_no_ring hring st'' cx.store.cells.size [] l'
          List.nodup_nil
          (by simp) (by simp) (by simp) (by simp) hc' hl'
        rw [hn] at hm
        simp only [Except.error.injEq, Prod.mk.injEq] at hm
        exact .inr ⟨n, hm.1.symm⟩
  · -- a reported cycle is at a container met again
    rcases hsound.1 _ _ he with hf | ⟨l, hl, hc, st', s', hm⟩
    · exact (hf.ne_cycle n rfl).elim
    · obtain ⟨l', hw, hr⟩ := cx.metAgain_cycle _ l st' s' n hm
      obtain ⟨hc', hl'⟩ := WrapperEdge.cycle_of_chain hw hc hl
      exact ⟨l', hl', hc', hr⟩

end WalkContext

/-- A list that holds itself stops the walk: its one cycle passes through the list. -/
theorem walk_detects_cycles_self_list :
    ∃ e s, (⟨Options.defaults, ⟨#[.list [.shared 0]]⟩, false⟩ : WalkContext).walk [] (.shared 0)
      default = .error (e, s) ∧ (FieldRaises ⟨Options.defaults, ⟨#[.list [.shared 0]]⟩, false⟩ e ∨
        ∃ n, e = .cycle n) := by
  have hedge : Edge ⟨#[.list [.shared 0]]⟩ 0 0 := by
    simp [Edge, Store.cell, Store.get?, links, linksAll]
  refine (WalkContext.walk_detects_cycles _ (.shared 0) default).2.1 (fun x _ h => ?_)
    ⟨0, ⟨0, by simp [links], .refl⟩, .single hedge⟩
  obtain ⟨y, hy, -⟩ := Relation.TransGen.head'_iff.1 h
  rcases x with _ | x <;> simp [WrapperEdge, Store.cell, Store.get?, wrapperRoute, tracked, Value.kind] at hy

end FieldRules.Validation
