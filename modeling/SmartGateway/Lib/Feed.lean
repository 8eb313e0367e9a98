import Mathlib.Data.List.Basic

/-! # Feeding a transducer

A transducer reads one symbol at a time, and may emit something at each. Feeding it a list
collects what it emits; the state carries across a cut, so feeding two parts one after the other
is feeding them at once.
-/

/-- What a transducer emits on some symbols, and its state after them. -/
def feed {σ α β : Type} (step : σ → α → Option β × σ) : σ → List α → List β × σ
  | s, [] => ([], s)
  | s, a :: rest =>
    ((step s a).1.toList ++ (feed step (step s a).2 rest).1, (feed step (step s a).2 rest).2)

section Feed

variable {σ α β : Type} (step : σ → α → Option β × σ)

theorem feed_cons (s : σ) (a : α) (rest : List α) :
    feed step s (a :: rest) =
      ((step s a).1.toList ++ (feed step (step s a).2 rest).1,
        (feed step (step s a).2 rest).2) := rfl

/-- Feeding two parts is feeding them one after the other. -/
theorem feed_append (s : σ) (first rest : List α) :
    feed step s (first ++ rest) =
      ((feed step s first).1 ++ (feed step (feed step s first).2 rest).1,
        (feed step (feed step s first).2 rest).2) := by
  induction first generalizing s with
  | nil => rfl
  | cons a first ih =>
    rw [List.cons_append, feed_cons, ih, feed_cons, List.append_assoc]

end Feed
