/-
Fallible steps over an explicit state: guards, lookups and commit-or-keep.
A step either returns a value or a fault; a fault leaves no partial state
behind, which is what a rolled-back transaction does.
-/
import Mathlib.Tactic.Common

namespace Relational

open List

universe u v w

variable {ε : Type u} {α β : Type v} {σ : Type v}
variable {f : α → Except ε β} {b : β} {p : Prop} {fault raised : ε}
variable {value : Option α} {s : σ} {P : σ → Prop} {results : List α}
variable {x : Except ε α} {a : α}

theorem bind_ok :
    (x >>= f) = .ok b ↔ ∃ a, x = .ok a ∧ f a = .ok b := by
  cases x with
  | error | ok a => simp [bind, Except.bind]

theorem pure_ok {b : α} : (pure a : Except ε α) = .ok b ↔ a = b := by
  simp [pure, Except.pure]

/-- Refuse to continue unless the condition holds. -/
def require (p : Prop) [Decidable p] (fault : ε) : Except ε PUnit.{v + 1} :=
  if p then .ok ⟨⟩ else .error fault

theorem require_ok [Decidable p] {u : PUnit.{v + 1}} :
    require p fault = .ok u ↔ p := by
  unfold require
  by_cases hp : p <;> simp [hp]

@[simp] theorem require_pos [Decidable p] (hp : p) (fault : ε) :
    require.{u, v} p fault = .ok ⟨⟩ := if_pos hp

@[simp] theorem require_neg [Decidable p] (hp : ¬ p) (fault : ε) :
    require.{u, v} p fault = .error fault := if_neg hp

/-- Read an optional value that the caller needs. -/
def orFault (value : Option α) (fault : ε) : Except ε α :=
  match value with
  | some a => .ok a
  | none => .error fault

theorem orFault_ok :
    orFault value fault = .ok a ↔ value = some a := by
  cases value <;> simp [orFault]

@[simp] theorem orFault_some (a : α) (fault : ε) :
    orFault (some a) fault = .ok a := rfl

@[simp] theorem orFault_none (fault : ε) :
    orFault (none : Option α) fault = .error fault := rfl

@[simp] theorem ok_bind (a : α) (f : α → Except ε β) :
    ((Except.ok a : Except ε α) >>= f) = f a := rfl

@[simp] theorem error_bind (fault : ε) (f : α → Except ε β) :
    ((Except.error fault : Except ε α) >>= f) = .error fault := rfl

theorem require_bind_ok [Decidable p] {f : PUnit.{v + 1} → Except ε β} :
    (require p fault >>= f) = .ok b ↔ p ∧ f ⟨⟩ = .ok b := by
  by_cases hp : p <;> simp [hp]

theorem orFault_bind_ok :
    (orFault value fault >>= f) = .ok b ↔ ∃ a, value = some a ∧ f a = .ok b := by
  cases value <;> simp

/-! The same as steps of a proof. -/

theorem of_bind (hok : (x >>= f) = .ok b) :
    ∃ a, x = .ok a ∧ f a = .ok b := bind_ok.mp hok

theorem of_pure {b : α} (hok : (pure a : Except ε α) = .ok b) : a = b :=
  pure_ok.mp hok

theorem of_pure_pair {a' : α} {b' : β}
    (hok : (pure (a, b) : Except ε (α × β)) = .ok (a', b')) :
    a = a' ∧ b = b' := Prod.mk.inj (pure_ok.mp hok)

theorem of_require [Decidable p] {f : PUnit.{v + 1} → Except ε β}
    (hok : (require p fault >>= f) = .ok b) : p ∧ f ⟨⟩ = .ok b :=
  require_bind_ok.mp hok

/-- What follows a check that passed. -/
theorem passed [Decidable p] {f : PUnit.{v + 1} → Except ε β}
    (hok : (require p fault >>= f) = .ok b) : f ⟨⟩ = .ok b :=
  (of_require hok).2

theorem of_orFault (hok : (orFault value fault >>= f) = .ok b) :
    ∃ a, value = some a ∧ f a = .ok b := orFault_bind_ok.mp hok

theorem bind_error :
    (x >>= f) = .error fault ↔
      x = .error fault ∨ ∃ a, x = .ok a ∧ f a = .error fault := by
  cases x with
  | error | ok a => simp [bind, Except.bind]

theorem require_bind_error [Decidable p] {f : PUnit.{v + 1} → Except ε β} :
    (require p raised >>= f) = .error fault ↔
      (¬ p ∧ raised = fault) ∨ (p ∧ f ⟨⟩ = .error fault) := by
  by_cases hp : p <;> simp [hp]

theorem orFault_bind_error :
    (orFault value raised >>= f) = .error fault ↔
      (value = none ∧ raised = fault) ∨
        ∃ a, value = some a ∧ f a = .error fault := by
  cases value <;> simp

theorem snd_ok {x : Except ε (α × σ)} :
    (Prod.snd <$> x) = .ok s ↔ ∃ a, x = .ok (a, s) := by
  cases x with
  | error => simp [Functor.map, Except.map]
  | ok pair =>
    obtain ⟨a, _⟩ := pair
    simp [Functor.map, Except.map]

/-- Commit the resulting state, or keep the state before a faulting step. -/
def commit (before : σ) (outcome : Except ε σ) : σ :=
  match outcome with
  | .ok after => after
  | .error _ => before

/-- A property that every successful outcome keeps is kept by the commit. -/
theorem commit_preserves {before : σ} {outcome : Except ε σ}
    (hbefore : P before) (hok : ∀ after, outcome = .ok after → P after) :
    P (commit before outcome) := by
  cases outcome with
  | error => exact hbefore
  | ok after => exact hok after rfl

/-- Run a fallible state change once for each item, in order. -/
def eachOf {ι : Type w} (f : σ → ι → Except ε σ) : σ → List ι → Except ε σ
  | s, [] => .ok s
  | s, item :: rest => f s item >>= fun s' => eachOf f s' rest

/-- Items that leave the state alone may be left out of the loop. -/
theorem eachOf_filter {ι : Type w} {f : σ → ι → Except ε σ} {keep : ι → Bool}
    (hskip : ∀ s item, keep item = false → f s item = .ok s) (s : σ)
    (items : List ι) : eachOf f s (items.filter keep) = eachOf f s items := by
  induction items generalizing s with
  | nil => rfl
  | cons item _ ih =>
    cases hkeep : keep item with
    | false =>
      rw [filter_cons_of_neg (by simp [hkeep]), ih, eachOf,
        hskip s item hkeep, ok_bind]
    | true =>
      rw [filter_cons_of_pos hkeep, eachOf]
      congr 1
      funext s'
      exact ih s'

/-- What one iteration keeps, the loop keeps. -/
theorem eachOf_preserves {ι : Type w} {f : σ → ι → Except ε σ}
    (hstep : ∀ s item s', f s item = .ok s' → P s → P s') {s' : σ}
    {items : List ι} (hrun : eachOf f s items = .ok s') (hs : P s) : P s' := by
  induction items generalizing s with
  | nil =>
    cases hrun
    exact hs
  | cons item _ ih =>
    obtain ⟨mid, hhead, htail⟩ := of_bind hrun
    exact ih htail (hstep s item mid hhead hs)

/-- Keep the items of a list that pass a fallible test. -/
def filterOk {ι : Type} (test : ι → Except ε Bool) :
    List ι → Except ε (List ι)
  | [] => .ok []
  | item :: rest => do
    let keep ← test item
    let kept ← filterOk test rest
    pure (if keep then item :: kept else kept)

/-- The kept items are those on which the test answers yes. -/
theorem mem_filterOk {ι : Type} {test : ι → Except ε Bool} {items kept : List ι}
    (hok : filterOk test items = .ok kept) {item : ι} :
    item ∈ kept ↔ item ∈ items ∧ test item = .ok true := by
  induction items generalizing kept with
  | nil =>
    cases hok
    simp
  | cons _ _ ih =>
    obtain ⟨keep, htest, hok⟩ := of_bind hok
    obtain ⟨_, htail, hok⟩ := of_bind hok
    cases of_pure hok
    cases keep with
    | true =>
      rw [if_pos rfl, mem_cons, mem_cons, ih htail]
      constructor
      · rintro (rfl | ⟨hmem, hyes⟩)
        · exact ⟨.inl rfl, htest⟩
        · exact ⟨.inr hmem, hyes⟩
      · rintro ⟨rfl | hmem, hyes⟩
        · exact .inl rfl
        · exact .inr ⟨hmem, hyes⟩
    | false =>
      rw [if_neg Bool.false_ne_true, mem_cons, ih htail]
      constructor
      · rintro ⟨hmem, hyes⟩
        exact ⟨.inr hmem, hyes⟩
      · rintro ⟨rfl | hmem, hyes⟩
        · rw [htest] at hyes
          cases hyes
        · exact ⟨hmem, hyes⟩

/-- A test that answers on every item filters as its answers do. -/
theorem filterOk_eq {ι : Type} {test : ι → Except ε Bool} {p : ι → Bool}
    {items : List ι} (htest : ∀ item ∈ items, test item = .ok (p item)) :
    filterOk test items = .ok (items.filter p) := by
  induction items with
  | nil => rfl
  | cons item _ ih =>
    have hrest := ih fun other hmem => htest other (mem_cons_of_mem _ hmem)
    rw [filterOk, htest item mem_cons_self, hrest]
    cases hp : p item <;> simp [hp, pure, Except.pure]

/-- A loop of steps that all succeed collects their results. -/
theorem mapM_ok {ι : Type} {f : ι → Except ε α} {g : ι → α} {items : List ι}
    (hf : ∀ item ∈ items, f item = .ok (g item)) :
    items.mapM f = .ok (items.map g) := by
  induction items with
  | nil => rfl
  | cons item _ ih =>
    have hrest := ih fun other hmem => hf other (mem_cons_of_mem _ hmem)
    rw [mapM_cons, hf item mem_cons_self, hrest]
    rfl

/-- A loop of steps succeeds only when each of them does. -/
theorem exists_of_mapM_ok {ι : Type} {f : ι → Except ε α} {items : List ι}
    (hok : items.mapM f = .ok results) :
    ∀ item ∈ items, ∃ a, f item = .ok a := by
  induction items generalizing results with
  | nil => exact fun _ hmem => nomatch hmem
  | cons _ _ ih =>
    rw [mapM_cons] at hok
    obtain ⟨a, ha, hok⟩ := of_bind hok
    obtain ⟨_, hothers, _⟩ := of_bind hok
    intro other hmem
    rcases mem_cons.mp hmem with rfl | hmem
    · exact ⟨a, ha⟩
    · exact ih hothers other hmem

/-- What a loop of steps collects comes from the steps. -/
theorem of_mapM_ok {ι : Type} {f : ι → Except ε α} {items : List ι}
    (hok : items.mapM f = .ok results) :
    ∀ a ∈ results, ∃ item ∈ items, f item = .ok a := by
  induction items generalizing results with
  | nil =>
    cases of_pure hok
    exact fun _ hmem => absurd hmem not_mem_nil
  | cons item _ ih =>
    rw [mapM_cons] at hok
    obtain ⟨_, hfirst, hok⟩ := of_bind hok
    obtain ⟨_, hothers, hok⟩ := of_bind hok
    cases of_pure hok
    intro a hmem
    rcases mem_cons.mp hmem with rfl | hmem
    · exact ⟨item, mem_cons_self, hfirst⟩
    · obtain ⟨other, hother, hstep⟩ := ih hothers a hmem
      exact ⟨other, mem_cons_of_mem _ hother, hstep⟩

end Relational
