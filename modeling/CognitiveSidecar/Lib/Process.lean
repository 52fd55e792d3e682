/-
Processes over durable state.  A process reads the state, commits one
transaction at a time, waits while others work, may raise a fault, and may die
between any two of its commits; what it has committed stays.
-/
import Mathlib.Tactic.Common

namespace Relational

universe u

/-- How a process stops short of its result. -/
inductive Halt (ε : Type u)
  | fault (raised : ε)
  | crash

/-- A process is given the number of commits that it lives to make, and leaves
the state that its commits made. -/
def Process (σ ε α : Type) : Type :=
  Nat → σ → Except (Halt ε) (α × Nat) × σ

namespace Process

variable {σ ε α β : Type}

protected def pure (a : α) : Process σ ε α := fun lives s => (.ok (a, lives), s)

protected def bind (m : Process σ ε α) (f : α → Process σ ε β) :
    Process σ ε β := fun lives s =>
  match m lives s with
  | (.ok (a, left), s') => f a left s'
  | (.error halt, s') => (.error halt, s')

instance : Monad (Process σ ε) where
  pure := Process.pure
  bind := Process.bind

def fail (raised : ε) : Process σ ε α := fun _ s => (.error (.fault raised), s)

def read : Process σ ε σ := fun lives s => (.ok (s, lives), s)

/-- A value that is there, or a fault. -/
def ofExcept : Except ε α → Process σ ε α
  | .ok a => .pure a
  | .error raised => .fail raised

/-- One transaction: a fault rolls it back, and a dead process never makes it. -/
def commit (transaction : σ → Except ε (α × σ)) : Process σ ε α :=
  fun lives s =>
    match transaction s with
    | .error raised => (.error (.fault raised), s)
    | .ok (a, s') =>
      match lives with
      | 0 => (.error .crash, s)
      | left + 1 => (.ok (a, left), s')

/-- Some faults are caught, and what was committed before them stays; a crash
is not caught. -/
def orElse (caught : ε → Bool) (m handler : Process σ ε α) : Process σ ε α :=
  fun lives s =>
    match m lives s with
    | (.error (.fault raised), s') =>
      if caught raised then handler lives s'
      else (.error (.fault raised), s')
    | other => other

/-- Others work on the state while the process waits. -/
def await (others : σ → σ) : Process σ ε Unit :=
  fun lives s => (.ok ((), lives), others s)

/-- One process for each item, in order. -/
def forEach {ι : Type} (items : List ι) (body : ι → Process σ ε Unit) :
    Process σ ε Unit :=
  match items with
  | [] => .pure ()
  | item :: rest => .bind (body item) fun _ => forEach rest body

/-- What a process started in a state leaves, when it comes to its result and
when it halts before. -/
def Leaves (s : σ) (m : Process σ ε α) (post : α → σ → Prop)
    (halted : σ → Prop) : Prop :=
  ∀ lives, match m lives s with
    | (.ok (a, _), s') => post a s'
    | (.error _, s') => halted s'

variable {s : σ} {post : α → σ → Prop} {halted : σ → Prop}

theorem leaves_pure {a : α} (hpost : post a s) :
    Leaves s (pure a : Process σ ε α) post halted := fun _ => hpost

theorem leaves_bind {m : Process σ ε β} {f : β → Process σ ε α}
    {mid : β → σ → Prop} (hm : Leaves s m mid halted)
    (hf : ∀ b s', mid b s' → Leaves s' (f b) post halted) :
    Leaves s (m >>= f) post halted := by
  intro lives
  have hm := hm lives
  change match Process.bind m f lives s with
    | (.ok (a, _), s') => post a s'
    | (.error _, s') => halted s'
  unfold Process.bind
  split at hm
  · rename_i b left s' _
    exact hf b s' hm left
  · exact hm

theorem leaves_read {f : σ → Process σ ε α}
    (hf : Leaves s (f s) post halted) :
    Leaves s (read >>= f) post halted := hf

theorem leaves_await {others : σ → σ} {f : Unit → Process σ ε α}
    (hf : Leaves (others s) (f ()) post halted) :
    Leaves s (await others >>= f) post halted := hf

variable {f : β → Process σ ε α}

theorem leaves_ofExcept {x : Except ε β} (hhalted : halted s)
    (hf : ∀ b, x = .ok b → Leaves s (f b) post halted) :
    Leaves s (ofExcept x >>= f) post halted := by
  cases x with
  | error => exact fun _ => hhalted
  | ok b => exact hf b rfl

/-- A transaction rolls back, or is never made, or is committed. -/
theorem leaves_transaction {transaction : σ → Except ε (α × σ)}
    (hhalted : halted s)
    (hpost : ∀ a s', transaction s = .ok (a, s') → post a s') :
    Leaves s (commit transaction) post halted := by
  intro lives
  unfold commit
  cases htransaction : transaction s with
  | error => exact hhalted
  | ok pair =>
    cases lives with
    | zero => exact hhalted
    | succ => exact hpost pair.1 pair.2 htransaction

theorem leaves_commit {transaction : σ → Except ε (β × σ)} (hhalted : halted s)
    (hf : ∀ b s', transaction s = .ok (b, s') →
      Leaves s' (f b) post halted) :
    Leaves s (commit transaction >>= f) post halted :=
  leaves_bind (leaves_transaction hhalted fun _ _ hok => hok) hf

variable {m : Process σ ε α}

/-- A caught fault goes on from what was committed before it. -/
theorem leaves_orElse {caught : ε → Bool} {handler : Process σ ε α}
    {faulted : σ → Prop} (hm : Leaves s m post fun s' => halted s' ∧ faulted s')
    (hhandler : ∀ s', faulted s' → Leaves s' handler post halted) :
    Leaves s (orElse caught m handler) post halted := by
  intro lives
  have hm := hm lives
  unfold orElse
  generalize m lives s = outcome at hm
  obtain ⟨result, s'⟩ := outcome
  cases result with
  | ok => exact hm
  | error halt =>
    cases halt with
    | fault raised =>
      by_cases hcaught : caught raised = true
      · simp only [hcaught, if_true]
        exact hhandler s' hm.2 lives
      · simp only [hcaught]
        exact hm.1
    | crash => exact hm.1

/-- What each round keeps, the loop keeps. -/
theorem leaves_forEach {ι : Type} {items : List ι}
    {body : ι → Process σ ε Unit} {inv : σ → Prop} (hinv : inv s)
    (hbody : ∀ item ∈ items, ∀ s', inv s' →
      Leaves s' (body item) (fun _ => inv) halted) :
    Leaves s (forEach items body) (fun _ => inv) halted := by
  induction items generalizing s with
  | nil => exact leaves_pure hinv
  | cons item _ ih =>
    refine leaves_bind (hbody item List.mem_cons_self s hinv) ?_
    intro _ _ hs'
    exact ih hs' fun item hitem => hbody item (List.mem_cons_of_mem _ hitem)

theorem Leaves.mono {post' : α → σ → Prop} {halted' : σ → Prop}
    (hm : Leaves s m post halted) (hpost : ∀ a s', post a s' → post' a s')
    (hhalted : ∀ s', halted s' → halted' s') :
    Leaves s m post' halted' := by
  intro lives
  have hm := hm lives
  split at hm
  · exact hpost _ _ hm
  · exact hhalted _ hm

end Process

end Relational
