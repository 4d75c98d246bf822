import Attestation.Dialogue
import Mathlib.Tactic.Lemma

/-!
Opening computations: what a step that succeeds says about the steps before it, what a dialogue
comes to that has nobody to ask, and what one comes to that is played against a source of answers.
-/

namespace Attestation

variable {ε α β : Type}

lemma Except.bind_eq_ok_iff {x : Except ε α} {f : α → Except ε β} {b : β} :
    x >>= f = .ok b ↔ ∃ a, x = .ok a ∧ f a = .ok b := by
  cases x with
  | error e => simp [bind, Except.bind]
  | ok a => simp [bind, Except.bind]

lemma Except.bind_eq_error_iff {x : Except ε α} {f : α → Except ε β} {e : ε} :
    x >>= f = .error e ↔ x = .error e ∨ ∃ a, x = .ok a ∧ f a = .error e := by
  cases x with
  | error e => simp [bind, Except.bind]
  | ok a => simp [bind, Except.bind]

lemma Except.map_eq_ok_iff {x : Except ε α} {f : α → β} {b : β} :
    x.map f = .ok b ↔ ∃ a, x = .ok a ∧ f a = b := by
  cases x with
  | error e => simp [Except.map]
  | ok a => simp [Except.map]

namespace Dialogue

variable {A : Empty → Type}

/-- What a dialogue comes to that has nobody to ask. -/
def outcome (d : Dialogue Empty A α) : Played Empty α := (d.play (fun q _ => nomatch q) ()).1

/-- The source of answers when there is nobody to ask. -/
def nobody (q : Empty) (_ : Unit) : A q × Unit := q.elim

lemma outcome_eq (d : Dialogue Empty A α) : d.outcome = (d.play nobody ()).1 :=
  congrArg (fun source => (d.play source ()).1) (funext fun q => q.elim)

@[simp] lemma value_done (a : α) : (done a : Dialogue Empty A α).outcome.value = a := rfl

@[simp] lemma value_warn (w : Warning) (d : Dialogue Empty A α) :
    (warn w d).outcome.value = d.outcome.value := rfl

lemma value_bind (d : Dialogue Empty A α) (f : α → Dialogue Empty A β) :
    (d.bind f).outcome.value = (f d.outcome.value).outcome.value := by
  induction d with
  | done a => rfl
  | warn w next ih => simpa [bind] using ih
  | ask q next => exact q.elim

section Play

variable {Q Q' σ τ : Type} {A : Q → Type} {A' : Q' → Type}

/-- What is played on goes on from where the first part ended. -/
lemma play_bind (source : (q : Q) → σ → A q × σ) (d : Dialogue Q A α) (f : α → Dialogue Q A β)
    (s : σ) :
    (d.bind f).play source s =
      let p := d.play source s
      let p' := (f p.1.value).play source p.2
      (⟨p'.1.value, p.1.asked ++ p'.1.asked, p.1.warnings ++ p'.1.warnings⟩, p'.2) := by
  induction d generalizing s with
  | done a => rfl
  | warn w next ih => simp [bind, play, ih]
  | ask q next ih => simp [bind, play, ih]

lemma value_play_bind (source : (q : Q) → σ → A q × σ) (d : Dialogue Q A α)
    (f : α → Dialogue Q A β) (s : σ) :
    ((d.bind f).play source s).1.value =
      ((f (d.play source s).1.value).play source (d.play source s).2).1.value := by
  rw [play_bind]

lemma asked_play_bind (source : (q : Q) → σ → A q × σ) (d : Dialogue Q A α)
    (f : α → Dialogue Q A β) (s : σ) :
    ((d.bind f).play source s).1.asked =
      (d.play source s).1.asked ++
        ((f (d.play source s).1.value).play source (d.play source s).2).1.asked := by
  rw [play_bind]

lemma warnings_play_bind (source : (q : Q) → σ → A q × σ) (d : Dialogue Q A α)
    (f : α → Dialogue Q A β) (s : σ) :
    ((d.bind f).play source s).1.warnings =
      (d.play source s).1.warnings ++
        ((f (d.play source s).1.value).play source (d.play source s).2).1.warnings := by
  rw [play_bind]

/-- The source of answers that a handler makes of another one. Both states go along. -/
def handled (handle : (q : Q) → σ → Dialogue Q' A' (A q × σ)) (source : (q : Q') → τ → A' q × τ)
    (q : Q) (x : σ × τ) : A q × (σ × τ) :=
  let p := (handle q x.1).play source x.2
  (p.1.value.1, p.1.value.2, p.2)

/-- To interpret a dialogue and play it is to play it against the handled source. -/
lemma play_interpret (handle : (q : Q) → σ → Dialogue Q' A' (A q × σ))
    (source : (q : Q') → τ → A' q × τ) (d : Dialogue Q A α) (s : σ) (t : τ) :
    let p := (d.interpret handle s).play source t
    let p' := d.play (handled handle source) (s, t)
    p.1.value = (p'.1.value, p'.1.asked, p'.2.1) ∧ p.2 = p'.2.2 := by
  induction d generalizing s t with
  | done a => exact ⟨rfl, rfl⟩
  | warn w next ih => exact ih s t
  | ask q next ih =>
    obtain ⟨hvalue, hstate⟩ := ih ((handle q s).play source t).1.value.1
      ((handle q s).play source t).1.value.2 ((handle q s).play source t).2
    simp only [interpret, play_bind, play, hvalue, hstate, handled, and_self]

/-- A handler that has no state. -/
def stateless (handle : (q : Q) → Dialogue Q' A' (A q)) (q : Q) (_ : Unit) :
    Dialogue Q' A' (A q × Unit) :=
  (handle q).bind fun a => .done (a, ())

/-- To answer questions without a state is to interpret them with a state that tells nothing. -/
lemma play_via (handle : (q : Q) → Dialogue Q' A' (A q)) (source : (q : Q') → τ → A' q × τ)
    (d : Dialogue Q A α) (t : τ) :
    let p := (d.via handle).play source t
    let p' := (d.interpret (stateless handle) ()).play source t
    p.1.value = p'.1.value.1 ∧ p.1.warnings = p'.1.warnings := by
  induction d generalizing t with
  | done a => exact ⟨rfl, rfl⟩
  | warn w next ih =>
    obtain ⟨hvalue, hwarnings⟩ := ih t
    exact ⟨hvalue, congrArg (w :: ·) hwarnings⟩
  | ask q next ih =>
    obtain ⟨hvalue, hwarnings⟩ :=
      ih ((handle q).play source t).1.value ((handle q).play source t).2
    simp only [via, interpret, stateless, play_bind, play, List.append_nil]
    exact ⟨hvalue, congrArg (((handle q).play source t).1.warnings ++ ·) hwarnings⟩

/-- Whatever is answered, every question has the property. -/
def Asks (P : Q → Prop) : Dialogue Q A α → Prop
  | .done _ => True
  | .warn _ next => next.Asks P
  | .ask q next => P q ∧ ∀ a, (next a).Asks P

/-- What every answer keeps holds at the end. -/
lemma state_play {source : (q : Q) → σ → A q × σ} {I : σ → Prop}
    (hI : ∀ q s, I s → I (source q s).2) (d : Dialogue Q A α) {s : σ} (hs : I s) :
    I (d.play source s).2 := by
  induction d generalizing s with
  | done a => exact hs
  | warn w next ih => exact ih hs
  | ask q next ih => exact ih _ (hI q s hs)

/-- Two sources that give the same answers to the questions of a dialogue, one of them as long as
an invariant holds that it keeps, lead to the same value. -/
lemma value_play_congr {source : (q : Q) → σ → A q × σ} {source' : (q : Q) → τ → A q × τ}
    {P : Q → Prop} {I : σ → Prop} (hI : ∀ q s, I s → I (source q s).2)
    (hsame : ∀ q s t, P q → I s → (source q s).1 = (source' q t).1) {d : Dialogue Q A α}
    (hd : d.Asks P) {s : σ} (hs : I s) (t : τ) :
    (d.play source s).1.value = (d.play source' t).1.value := by
  induction d generalizing s t with
  | done a => rfl
  | warn w next ih => exact ih hd hs t
  | ask q next ih =>
    simp only [play, hsame q s t hd.1 hs]
    exact ih _ (hd.2 _) (hI q s hs) _

end Play

end Dialogue

end Attestation
