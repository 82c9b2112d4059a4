import Mathlib.Data.List.Basic

/-!
# A bounded queue with one server

Items are offered to a queue, which takes them while it has room; a server takes the first one,
works on it and applies it to a state. `Ledger` is the account of such a system: what was accepted
is what was finished, then what the server holds, then the queue, in this order; and the state is
what the finished items make of the first one. A system keeps the account by the rules for the three
things that can happen (`Ledger.offer`, `Ledger.take`, `Ledger.finish`). So working through a queue
later comes to the same as applying the accepted items at once (`Ledger.drained`); and where items
overwrite the state or leave it, the last one that overwrites decides (`foldl_overwrite`).
-/

namespace Fifo

variable {α β σ : Type*} {cap : ℕ} {apply : σ → α → σ} {init state : σ}
  {queue accepted done : List α} {busy : Option α}

/-- The account of a queue with room for `cap` items and one server. -/
structure Ledger (cap : ℕ) (apply : σ → α → σ) (init : σ) (queue : List α) (busy : Option α)
    (state : σ) (accepted done : List α) : Prop where
  bounded : queue.length ≤ cap
  order : accepted = done ++ (busy.toList ++ queue)
  state_eq : state = done.foldl apply init

theorem Ledger.empty : Ledger cap apply init [] none init [] [] :=
  ⟨Nat.zero_le cap, rfl, rfl⟩

/-- An item is accepted where there is room. -/
theorem Ledger.offer (h : Ledger cap apply init queue busy state accepted done)
    (hroom : queue.length < cap) (x : α) :
    Ledger cap apply init (queue ++ [x]) busy state (accepted ++ [x]) done where
  bounded := by
    rw [List.length_append]
    exact hroom
  order := by rw [h.order, List.append_assoc, List.append_assoc]
  state_eq := h.state_eq

/-- An idle server takes the first item. -/
theorem Ledger.take {x : α} (h : Ledger cap apply init (x :: queue) none state accepted done) :
    Ledger cap apply init queue (some x) state accepted done where
  bounded := Nat.le_trans (Nat.le_succ _) h.bounded
  order := h.order
  state_eq := h.state_eq

/-- The server is done with its item, and has applied it. -/
theorem Ledger.finish {x : α} (h : Ledger cap apply init queue (some x) state accepted done) :
    Ledger cap apply init queue none (apply state x) accepted (done ++ [x]) where
  bounded := h.bounded
  order := by
    rw [h.order, List.append_assoc]
    rfl
  state_eq := by rw [List.foldl_append, ← h.state_eq, List.foldl_cons, List.foldl_nil]

/-- **When nothing is left**, the state is what the accepted items make of the first one. -/
theorem Ledger.drained (h : Ledger cap apply init [] none state accepted done) :
    state = accepted.foldl apply init := by
  have hdone : accepted = done := by
    rw [h.order]
    exact List.append_nil done
  rw [hdone, h.state_eq]

/-- Where every item overwrites the state or leaves it, the last one that overwrites it decides. -/
theorem foldl_overwrite (set : α → Option β) (b : β) (xs : List α) :
    xs.foldl (fun b x => (set x).getD b) b = ((xs.filterMap set).getLast?).getD b := by
  induction xs generalizing b with
  | nil => rfl
  | cons x xs ih =>
    rw [List.foldl_cons, ih]
    cases hx : set x with
    | none => rw [List.filterMap_cons_none hx, Option.getD_none]
    | some c =>
      rw [List.filterMap_cons_some hx, Option.getD_some, List.getLast?_cons, Option.getD_some]

end Fifo
