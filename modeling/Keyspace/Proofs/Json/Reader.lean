/-
# Running readers

What the pieces of a reader do with the bytes in front of them: every lemma here says
which value a step takes and what it leaves, so that a longer reader is run step by step.

A written value is read back from the front of a text only if what follows cannot
belong to it. In a JSON text a value is followed by the end, by a comma, or by a bracket
that closes a list or a map.
-/

import Mathlib
import Keyspace.Json.Form

namespace Keyspace.Json

/-- What follows cannot belong to a value: it is the end, or begins with a comma or with a closing
bracket. -/
def Delimited (rest : List UInt8) : Prop :=
  ∀ b ∈ rest.head?, b = ascii ',' ∨ b = ascii ']' ∨ b = ascii '\x7d'

theorem delimited_nil : Delimited [] := nofun

theorem delimited_comma (rest : List UInt8) : Delimited (ascii ',' :: rest) := by
  simp [Delimited]

theorem delimited_bracket (rest : List UInt8) : Delimited (ascii ']' :: rest) := by
  simp [Delimited]

theorem delimited_brace (rest : List UInt8) : Delimited (ascii '\x7d' :: rest) := by
  simp [Delimited]

namespace Reader

variable {α β : Type} {b : UInt8} {input rest : List UInt8}

/-- After a value was taken the rest is read. -/
theorem bind_ok {reader : Reader α} {value : α} (h : reader input = .ok (value, rest))
    (next : α → Reader β) : (reader >>= next) input = next value rest := by
  show (reader input >>= fun result => next result.1 result.2) = _
  rw [h]
  rfl

/-- Making something of the value that is read leaves the rest of the text alone. -/
theorem map_apply (f : α → β) (reader : Reader α) (input : List UInt8) :
    (f <$> reader) input = (fun result => (f result.1, result.2)) <$> reader input := by
  rw [map_eq_pure_bind]
  show (reader input >>= fun result => pure (f result.1, result.2)) = _
  rw [map_eq_pure_bind]

theorem map_ok {reader : Reader α} {value : α} (h : reader input = .ok (value, rest))
    (f : α → β) : (f <$> reader) input = .ok (f value, rest) := by
  rw [map_apply, h]
  rfl

/-- Reading a whole text and making something of the value is reading it as that. -/
theorem decode_map (f : α → β) (reader : Reader α) (input : List UInt8) :
    (f <$> reader).decode input = f <$> reader.decode input := by
  rw [decode, decode, map_apply]
  cases reader input with
  | error error => rfl
  | ok result =>
      show (if _ then _ else _) = f <$> (if _ then _ else _)
      split_ifs <;> rfl

/-- The same holds of reading the front of a text. -/
theorem decodeFront_map (f : α → β) (reader : Reader α) (input : List UInt8) :
    (f <$> reader).decodeFront input = f <$> reader.decodeFront input := by
  rw [decodeFront, decodeFront, map_apply]
  cases reader input <;> rfl

/-- A byte that is no blank is shown as it stands. -/
theorem peek_cons (hb : isBlank b = false) (rest : List UInt8) :
    peek (b :: rest) = .ok (some b, b :: rest) := by
  rw [peek, List.dropWhile_cons_of_neg (by simp [hb])]
  rfl

theorem skip_cons (b : UInt8) (rest : List UInt8) : skip (b :: rest) = .ok ((), rest) := rfl

theorem token_cons (hb : isBlank b = false) (rest : List UInt8) :
    token b (b :: rest) = .ok ((), rest) := by
  rw [token, bind_ok (peek_cons hb rest)]
  exact (congrFun (if_pos rfl) _).trans rfl

/-! ## Lists and maps -/

theorem nextElement_close (first : Bool) (rest : List UInt8) :
    nextElement first (ascii ']' :: rest) = .ok (false, ascii ']' :: rest) := by
  rw [nextElement, bind_ok (peek_cons rfl rest)]
  rfl

theorem nextElement_first (hb : isBlank b = false) (hne : b ≠ ascii ']') (rest : List UInt8) :
    nextElement true (b :: rest) = .ok (true, b :: rest) := by
  rw [nextElement, bind_ok (peek_cons hb rest)]
  exact (congrFun (if_neg hne) _).trans rfl

theorem nextElement_comma (hb : isBlank b = false) (hne : b ≠ ascii ']') (rest : List UInt8) :
    nextElement false (ascii ',' :: b :: rest) = .ok (true, b :: rest) := by
  rw [nextElement, bind_ok (peek_cons rfl _)]
  show (skip >>= _) _ = _
  rw [bind_ok (skip_cons _ _), bind_ok (peek_cons hb rest)]
  exact (congrFun (if_neg hne) _).trans rfl

theorem nextMember_close (first : Bool) (rest : List UInt8) :
    nextMember first (ascii '\x7d' :: rest) = .ok (false, ascii '\x7d' :: rest) := by
  rw [nextMember, bind_ok (peek_cons rfl rest)]
  rfl

theorem nextMember_first (rest : List UInt8) :
    nextMember true (ascii '"' :: rest) = .ok (true, ascii '"' :: rest) := by
  rw [nextMember, bind_ok (peek_cons rfl rest)]
  rfl

theorem nextMember_comma (rest : List UInt8) :
    nextMember false (ascii ',' :: ascii '"' :: rest) = .ok (true, ascii '"' :: rest) := by
  rw [nextMember, bind_ok (peek_cons rfl _)]
  show (skip >>= _) _ = _
  rw [bind_ok (skip_cons _ _), bind_ok (peek_cons rfl rest)]
  rfl

end Reader

end Keyspace.Json
