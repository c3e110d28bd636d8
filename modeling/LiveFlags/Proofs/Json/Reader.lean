import LiveFlags.Json.Reader

/-!
# Running readers

A reader is a function of the text that is left. What a sequence of two readers makes of a text
follows from what the first one makes of it (`bind_of_ok`), and whoever knows the outcome of the
sequence knows that both have come through (`bind_eq_ok_iff`). The readers of single characters are
described by their outcome on a text that begins with a given character.
-/

namespace LiveFlags.Json.Reader

variable {α β : Type}

theorem bind_apply (r : Reader α) (f : α → Reader β) (cs : List Char) :
    (r >>= f) cs = (r cs).bind fun m => f m.1 m.2 :=
  rfl

theorem bind_of_ok {r : Reader α} {cs rest : List Char} {a : α} (h : r cs = .ok (a, rest))
    (f : α → Reader β) : (r >>= f) cs = f a rest := by
  rw [bind_apply, h]
  rfl

theorem bind_eq_ok_iff {r : Reader α} {f : α → Reader β} {cs rest : List Char} {b : β} :
    (r >>= f) cs = .ok (b, rest) ↔
      ∃ a mid, r cs = .ok (a, mid) ∧ f a mid = .ok (b, rest) := by
  rw [bind_apply]
  cases r cs with
  | error fault => simp [Except.bind]
  | ok m => simp [Except.bind, Prod.ext_iff, and_assoc]

theorem peek_apply (cs : List Char) :
    peek cs = .ok ((cs.dropWhile isSpace).head?, cs.dropWhile isSpace) :=
  rfl

theorem peek_cons {c : Char} (h : isSpace c = false) (cs : List Char) :
    peek (c :: cs) = .ok (some c, c :: cs) := by
  simp [peek_apply, h]

/-- Blanks are consumed at once. -/
theorem dropWhile_isSpace_idem (cs : List Char) :
    (cs.dropWhile isSpace).dropWhile isSpace = cs.dropWhile isSpace := by
  induction cs with
  | nil => rfl
  | cons c cs ih =>
    cases hc : isSpace c with
    | true => simpa [hc] using ih
    | false => simp [hc]

theorem advance_cons (c : Char) (cs : List Char) : advance (c :: cs) = .ok ((), cs) :=
  rfl

theorem itemsLeft_apply (cs : List Char) : itemsLeft cs = .ok (cs.length + 1, cs) :=
  rfl

end LiveFlags.Json.Reader
