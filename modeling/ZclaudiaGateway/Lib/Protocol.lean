import ZclaudiaGateway.Lib.EventMachine

/-!
# Protocols

A protocol says which acts of a party may follow which: a partial automaton with a start. `follow` is the state after a list
of acts, `none` once one of them was out of turn. `Advances` says that a step of a system with its acts moves a relation
between the protocol's states and the system's; a machine whose every step does so follows the protocol over every run.
-/

universe u v w

/-- A partial automaton over the acts `α`. -/
structure Protocol (κ : Type u) (α : Type v) where
  start : κ
  next : κ → α → Option κ

namespace Protocol

variable {κ : Type u} {α : Type v} (P : Protocol κ α)

/-- The state after a list of acts. -/
def follow : κ → List α → Option κ
  | q, [] => some q
  | q, a :: as => (P.next q a).bind (fun q' => follow q' as)

/-- The acts come in turn. -/
def Conforms (as : List α) : Prop := ∃ q, P.follow P.start as = some q

@[simp] theorem follow_nil (q : κ) : P.follow q [] = some q := rfl

theorem follow_cons (q : κ) (a : α) (as : List α) : P.follow q (a :: as) = (P.next q a).bind (fun q' => P.follow q' as) := rfl

@[simp] theorem follow_singleton (q : κ) (a : α) : P.follow q [a] = P.next q a := by
  rw [follow_cons]
  cases P.next q a <;> rfl

theorem follow_append (q : κ) (as as' : List α) : P.follow q (as ++ as') = (P.follow q as).bind (fun q' => P.follow q' as') := by
  induction as generalizing q with
  | nil => rfl
  | cons a as ih =>
    rw [List.cons_append, follow_cons, follow_cons]
    cases P.next q a with
    | none => rfl
    | some q' => exact ih q'

/-! ## Systems that follow a protocol -/

variable {σ : Type w} (R : κ → σ → Prop)

/-- From every state of the protocol that goes with `s`, the acts lead to one that goes with `t`. -/
def Advances (s : σ) (as : List α) (t : σ) : Prop := ∀ q, R q s → ∃ q', P.follow q as = some q' ∧ R q' t

variable {P R}

theorem Advances.refl (s : σ) : P.Advances R s [] s := fun q hq => ⟨q, rfl, hq⟩

theorem Advances.trans {s t u : σ} {as as' : List α} (h : P.Advances R s as t) (h' : P.Advances R t as' u) :
    P.Advances R s (as ++ as') u := by
  intro q hq
  obtain ⟨q1, hfollow, hq1⟩ := h q hq
  obtain ⟨q2, hfollow', hq2⟩ := h' q1 hq1
  refine ⟨q2, ?_, hq2⟩
  rw [follow_append, hfollow, Option.bind_some, hfollow']

end Protocol
