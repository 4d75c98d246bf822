import Attestation.Warning

/-!
Computations that ask questions and give warnings before they answer.

A dialogue says what is asked and how each possible answer is used, and leaves open who
answers. It may be played against a source of answers, or interpreted: every question becomes a
dialogue of another kind. Either way what was asked and what was warned of is kept in order.
-/

namespace Attestation

/-- A computation of an `α` that asks questions `q : Q` with answers in `A q`. -/
inductive Dialogue (Q : Type) (A : Q → Type) (α : Type) where
  | done (a : α)
  | warn (w : Warning) (next : Dialogue Q A α)
  | ask (q : Q) (next : A q → Dialogue Q A α)

namespace Dialogue

variable {Q Q' : Type} {A : Q → Type} {A' : Q' → Type} {α β σ : Type}

def bind : Dialogue Q A α → (α → Dialogue Q A β) → Dialogue Q A β
  | .done a, f => f a
  | .warn w next, f => .warn w (next.bind f)
  | .ask q next, f => .ask q fun a => (next a).bind f

instance : Monad (Dialogue Q A) where
  pure := .done
  bind := bind

/-- Gives one warning. -/
def report (w : Warning) : Dialogue Q A Unit := .warn w (.done ())

/-- Asks one question. -/
def question (q : Q) : Dialogue Q A (A q) := .ask q .done

/-- Answers every question by a dialogue of another kind. -/
def via (handle : (q : Q) → Dialogue Q' A' (A q)) : Dialogue Q A α → Dialogue Q' A' α
  | .done a => .done a
  | .warn w next => .warn w (next.via handle)
  | .ask q next => (handle q).bind fun a => (next a).via handle

/-- An answer with what led to it. -/
structure Played (Q α : Type) where
  value : α
  asked : List Q
  warnings : List Warning

/-- Plays a dialogue against a source of answers with a state. -/
def play (source : (q : Q) → σ → A q × σ) : Dialogue Q A α → σ → Played Q α × σ
  | .done a, s => (⟨a, [], []⟩, s)
  | .warn w next, s =>
    let (r, s) := next.play source s
    ({ r with warnings := w :: r.warnings }, s)
  | .ask q next, s =>
    let (a, s) := source q s
    let (r, s) := (next a).play source s
    ({ r with asked := q :: r.asked }, s)

/-- Turns every question into a dialogue of another kind, passing a state along. The questions
are kept with the answer. -/
def interpret (handle : (q : Q) → σ → Dialogue Q' A' (A q × σ)) :
    Dialogue Q A α → σ → Dialogue Q' A' (α × List Q × σ)
  | .done a, s => .done (a, [], s)
  | .warn w next, s => .warn w (next.interpret handle s)
  | .ask q next, s =>
    (handle q s).bind fun (a, s) =>
      ((next a).interpret handle s).bind fun (v, asked, s) => .done (v, q :: asked, s)

@[simp] theorem pure_eq_done (a : α) : (pure a : Dialogue Q A α) = .done a := rfl

@[simp] theorem done_bind (a : α) (f : α → Dialogue Q A β) : (done a).bind f = f a := rfl

@[simp] theorem bind_done (d : Dialogue Q A α) : d.bind .done = d := by
  induction d with
  | done a => rfl
  | warn w next ih => simp [bind, ih]
  | ask q next ih => simp [bind, ih]

end Dialogue

end Attestation
