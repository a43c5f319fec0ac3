import WordSift.Server.Request
import Mathlib

/-!
# Reading takes bytes from the front of the stream

Every reader of the library only ever drops bytes from the front of the stream it reads
(`Shrinks`): a code byte, a run of bytes, and whatever is built from them by binding, mapping,
choosing and catching. Reading a request starts with its code byte, so a request that is read
takes at least one byte (`Request.takes_read`). This is what lets the server give its
loop one turn per byte of input: it never runs out of turns before the requests run out.
-/

namespace WordSift.Msgpack

/-- A reader that only drops bytes from the front: what it leaves is no longer than what it
was given. -/
def Shrinks {α : Type} (m : Reader α) : Prop :=
  ∀ s a s', m.run s = .ok (a, s') → s'.length ≤ s.length

/-- A reader that takes at least one byte from the front whenever it succeeds. -/
def Takes {α : Type} (m : Reader α) : Prop :=
  ∀ s a s', m.run s = .ok (a, s') → s'.length < s.length

section Combinators

variable {α β : Type}

theorem Shrinks.pure (a : α) : Shrinks (Pure.pure a : Reader α) := by
  intro s b s' h
  cases h
  exact Nat.le_refl _

theorem Shrinks.throw (e : Fault) : Shrinks (MonadExcept.throw e : Reader α) := by
  intro s b s' h
  cases h

theorem Shrinks.bind {m : Reader α} {f : α → Reader β} (hm : Shrinks m)
    (hf : ∀ a, Shrinks (f a)) : Shrinks (m >>= f) := by
  intro s b s'' h
  rw [StateT.run_bind] at h
  cases hrun : m.run s with
  | error e =>
    rw [hrun] at h
    cases h
  | ok p =>
    obtain ⟨a, s'⟩ := p
    rw [hrun] at h
    exact (hf a s' b s'' h).trans (hm s a s' hrun)

/-- A reader that takes a byte, followed by one that puts none back, takes a byte. -/
theorem Takes.bind {m : Reader α} {f : α → Reader β} (hm : Takes m)
    (hf : ∀ a, Shrinks (f a)) : Takes (m >>= f) := by
  intro s b s'' h
  rw [StateT.run_bind] at h
  cases hrun : m.run s with
  | error e =>
    rw [hrun] at h
    cases h
  | ok p =>
    obtain ⟨a, s'⟩ := p
    rw [hrun] at h
    exact Nat.lt_of_le_of_lt (hf a s' b s'' h) (hm s a s' hrun)

theorem Shrinks.map {m : Reader α} (f : α → β) (hm : Shrinks m) : Shrinks (f <$> m) := by
  rw [map_eq_pure_bind]
  exact hm.bind fun a => Shrinks.pure (f a)

theorem run_tryCatch (m : Reader α) (c : Fault → Reader α) (s : Bytes) :
    (tryCatch m c).run s = match m.run s with
      | .ok p => .ok p
      | .error e => (c e).run s := by
  cases h : m.run s <;> simp only [StateT.run] at h ⊢ <;>
    simp [tryCatch, MonadExcept.tryCatch, tryCatchThe, MonadExceptOf.tryCatch, Except.tryCatch, h]

/-- A caught failure reads again from where the failed reader started. -/
theorem Shrinks.tryCatch {m : Reader α} {c : Fault → Reader α} (hm : Shrinks m)
    (hc : ∀ e, Shrinks (c e)) : Shrinks (tryCatch m c) := by
  intro s b s' h
  rw [run_tryCatch] at h
  cases hrun : m.run s with
  | error e =>
    rw [hrun] at h
    exact hc e s b s' h
  | ok p =>
    rw [hrun] at h
    cases h
    exact hm s b s' hrun

end Combinators

/-! ### The readers of values -/

theorem code_run_cons (b : UInt8) (rest : Bytes) : code.run (b :: rest) = .ok (b, rest) :=
  rfl

theorem code_run_nil : code.run [] = .error .ended :=
  rfl

/-- Reading a code byte takes exactly that byte. -/
theorem eq_cons_of_code_run {s s' : Bytes} {b : UInt8} (h : code.run s = .ok (b, s')) :
    s = b :: s' := by
  cases s with
  | nil => cases h
  | cons c rest =>
    rw [code_run_cons] at h
    cases h
    rfl

theorem takes_code : Takes code := by
  intro s b s' h
  rw [eq_cons_of_code_run h, List.length_cons]
  exact Nat.lt_succ_self _

theorem shrinks_code : Shrinks code :=
  fun s b s' h => Nat.le_of_lt (takes_code s b s' h)

theorem take_run (n : Nat) (s : Bytes) :
    (take n).run s =
      if n = 0 then .ok ([], s) else if s.isEmpty then .error .ended
      else if s.length < n then .error .cut else .ok (s.take n, s.drop n) := by
  simp only [take, StateT.run_bind, StateT.run_get, pure_bind]
  split_ifs <;> rfl

theorem shrinks_take (n : Nat) : Shrinks (take n) := by
  intro s a s' h
  rw [take_run] at h
  split_ifs at h <;> cases h
  · exact Nat.le_refl _
  · simp

theorem shrinks_unsigned (k : Nat) : Shrinks (unsigned k) :=
  (shrinks_take k).bind fun _ => Shrinks.pure _

theorem shrinks_signed (k : Nat) : Shrinks (signed k) :=
  (shrinks_unsigned k).bind fun _ => Shrinks.pure _

theorem shrinks_mapLength (c : UInt8) : Shrinks (mapLength c) := by
  unfold mapLength
  split_ifs
  · exact Shrinks.pure _
  · exact Shrinks.pure _
  · exact (shrinks_unsigned 2).map _
  · exact (shrinks_unsigned 4).map _
  · exact Shrinks.throw _

theorem shrinks_arrayLength (c : UInt8) : Shrinks (arrayLength c) := by
  unfold arrayLength
  split_ifs
  · exact Shrinks.pure _
  · exact Shrinks.pure _
  · exact (shrinks_unsigned 2).map _
  · exact (shrinks_unsigned 4).map _
  · exact Shrinks.throw _

theorem shrinks_bytesLength (c : UInt8) : Shrinks (bytesLength c) := by
  unfold bytesLength
  split_ifs
  · exact Shrinks.pure _
  · exact Shrinks.pure _
  · exact (shrinks_unsigned 1).map _
  · exact (shrinks_unsigned 2).map _
  · exact (shrinks_unsigned 4).map _
  · exact Shrinks.throw _

theorem shrinks_textAfter (c : UInt8) : Shrinks (textAfter c) := by
  refine (shrinks_bytesLength c).bind fun n => ?_
  cases n with
  | none => exact Shrinks.pure _
  | some n => exact shrinks_take n

theorem shrinks_text : Shrinks text :=
  shrinks_code.bind shrinks_textAfter

theorem shrinks_intAfter (c : UInt8) : Shrinks (intAfter c) := by
  unfold intAfter
  split_ifs
  all_goals first
    | exact Shrinks.pure _
    | exact Shrinks.throw _
    | exact shrinks_signed _
    | exact (shrinks_unsigned _).map _

theorem shrinks_int : Shrinks int :=
  shrinks_code.bind shrinks_intAfter

theorem shrinks_extLength (c : UInt8) : Shrinks (extLength c) := by
  unfold extLength
  split_ifs
  all_goals first
    | exact Shrinks.pure _
    | exact shrinks_unsigned _

/-- Passing over values never puts bytes back; the induction is on the fuel, which both
`skip` and `skipMany` spend. -/
theorem shrinks_skip_skipMany (fuel : Nat) :
    Shrinks (skip fuel) ∧ ∀ n, Shrinks (skipMany fuel n) := by
  induction fuel with
  | zero =>
    refine ⟨Shrinks.throw _, fun n => ?_⟩
    rw [skipMany]
    exact Shrinks.throw _
  | succ fuel ih =>
    refine ⟨?_, fun n => ?_⟩
    · rw [skip]
      refine shrinks_code.bind fun c => ?_
      split_ifs
      · exact Shrinks.pure _
      · refine (shrinks_mapLength c).bind fun n => ?_
        cases n with
        | none => exact Shrinks.pure _
        | some n => exact ih.2 _
      · refine (shrinks_arrayLength c).bind fun n => ?_
        cases n with
        | none => exact Shrinks.pure _
        | some n => exact ih.2 _
      · exact (shrinks_textAfter c).bind fun _ => Shrinks.pure _
      · exact (shrinks_extLength c).bind fun n => (shrinks_take (n + 1)).bind fun _ => Shrinks.pure _
      · cases fixedWidth c with
        | none => exact Shrinks.throw _
        | some w => exact (shrinks_take w).bind fun _ => Shrinks.pure _
    · cases n with
      | zero => exact Shrinks.pure _
      | succ n =>
        rw [skipMany]
        exact ih.1.bind fun _ => ih.2 n

end WordSift.Msgpack

namespace WordSift.Server

open Msgpack

theorem shrinks_texts (n : Nat) : Shrinks (texts n) := by
  induction n with
  | zero => exact Shrinks.pure _
  | succ n ih => exact shrinks_text.bind fun _ => ih.bind fun _ => Shrinks.pure _

theorem shrinks_wordsInto (r : Request) : Shrinks (wordsInto r) := by
  refine shrinks_code.bind fun c => (shrinks_arrayLength c).bind fun n => ?_
  cases n with
  | none => exact Shrinks.pure _
  | some n => exact (shrinks_texts n).bind fun _ => Shrinks.pure _

theorem shrinks_fieldInto (fuel : Nat) (r : Request) (name : Bytes) :
    Shrinks (fieldInto fuel r name) := by
  unfold fieldInto
  split_ifs
  · exact shrinks_text.bind fun _ => Shrinks.pure _
  · exact shrinks_text.bind fun _ => Shrinks.pure _
  · exact shrinks_wordsInto r
  · exact shrinks_text.bind fun _ => Shrinks.pure _
  · exact shrinks_int.bind fun _ => Shrinks.pure _
  · exact (shrinks_skip_skipMany fuel).1.bind fun _ => Shrinks.pure _

theorem shrinks_entriesInto (fuel n : Nat) (r : Request) : Shrinks (entriesInto fuel n r) := by
  induction n generalizing r with
  | zero => exact Shrinks.pure _
  | succ n ih =>
    exact shrinks_text.bind fun name => (shrinks_fieldInto fuel r name).bind fun r' => ih r'

theorem shrinks_ofFields : Shrinks ofFields :=
  shrinks_text.bind fun _ => shrinks_text.bind fun _ => (shrinks_wordsInto _).bind fun _ =>
    shrinks_text.bind fun _ => shrinks_int.bind fun _ => Shrinks.pure _

/-- Reading a request takes its code byte, then reads a map of fields, or else an array of
them, never putting a byte back. -/
theorem Request.takes_read (fuel : Nat) : Takes (Request.read fuel) := by
  unfold Request.read
  refine takes_code.bind fun c => Shrinks.tryCatch ((shrinks_mapLength c).bind fun n => ?_)
    fun e => ?_
  · cases n with
    | none => exact Shrinks.pure _
    | some n => exact shrinks_entriesInto fuel n {}
  · refine ((shrinks_arrayLength c).tryCatch fun _ => Shrinks.throw _).bind fun n => ?_
    rcases n with _ | _ | _ | _ | _ | _ | _ | n
    all_goals first
      | exact Shrinks.pure _
      | exact shrinks_ofFields
      | exact Shrinks.throw _

end WordSift.Server
