/-
# What is written

Writing everything goes through the planned acceptances one by one. Those that
take something or interrupt are used up on the way, and what they take is the
bytes from the front, each once; the first that takes nothing or fails for
good ends the writing (`Writes`, `writes_writeAll`). Nothing else of the
transport changes.

One write is one of the four lemmas on its answers; the induction is that of
`writeAll`.

Key definitions: `Acceptance.Willing`, `Transport.Wrote`, `Transport.Refuses`,
`Transport.Writes`.
Key theorems: `Transport.writes_writeAll`.
-/
import SpeechWire.Transport

namespace SpeechWire

/-- Whether a write takes something, or may simply be made again. -/
def Acceptance.Willing : Acceptance → Prop
  | .upTo limit => 0 < limit
  | .failure cause => cause.isInterrupted = true

instance : (acceptance : Acceptance) → Decidable acceptance.Willing
  | .upTo limit => inferInstanceAs (Decidable (0 < limit))
  | .failure cause => inferInstanceAs (Decidable (cause.isInterrupted = true))

namespace Transport

variable {t t' after : Transport} {bytes : List UInt8} {failure : IoFailure}

/-! ### What writes do to a transport -/

/-- From `t` to `t'` writes took `bytes` and did nothing else; what was planned
for them was willing. -/
structure Wrote (t : Transport) (bytes : List UInt8) (t' : Transport) : Prop where
  used : ∃ used, (∀ acceptance ∈ used, acceptance.Willing) ∧ t.writes = used ++ t'.writes
  eq : t' = { t with writes := t'.writes, written := t.written ++ bytes }

/-- The next write on `t` ends the writing with `cause` and leaves `t'`: it
fails in a way that is no interruption, or it takes nothing. -/
inductive Refuses (t : Transport) : IoFailure → Transport → Prop
  | fails {cause : IoFailure} {rest : List Acceptance} (hw : t.writes = .failure cause :: rest)
    (hcause : cause.isInterrupted = false) : Refuses t cause { t with writes := rest }
  | stalls {rest : List Acceptance} (hw : t.writes = .upTo 0 :: rest) :
    Refuses t .writeZero { t with writes := rest }

theorem Wrote.nil (t : Transport) : Wrote t [] t :=
  ⟨⟨[], by simp⟩, by rw [List.append_nil]⟩

/-- What is planned first is used up, and the bytes are taken. -/
theorem Wrote.single {acceptance : Acceptance} {rest : List Acceptance}
    (hw : t.writes = acceptance :: rest) (ha : acceptance.Willing) (bytes : List UInt8) :
    Wrote t bytes { t with writes := rest, written := t.written ++ bytes } :=
  ⟨⟨[acceptance], by simpa using ha, hw⟩, rfl⟩

theorem Wrote.append {t'' : Transport} {a b : List UInt8} (h : Wrote t a t')
    (h' : Wrote t' b t'') : Wrote t (a ++ b) t'' := by
  obtain ⟨used, hused, hw⟩ := h.used
  obtain ⟨used', hused', hw'⟩ := h'.used
  refine ⟨⟨used ++ used', ?_, ?_⟩, ?_⟩
  · intro acceptance ha
    rcases List.mem_append.1 ha with ha | ha
    · exact hused acceptance ha
    · exact hused' acceptance ha
  · rw [hw, hw', List.append_assoc]
  · rw [h'.eq, h.eq, List.append_assoc]

/-- A refusal uses up what was planned for it, and does nothing else. -/
theorem Refuses.eq (h : Refuses t failure t') : t' = { t with writes := t'.writes } := by
  cases h <;> rfl

theorem Refuses.not_interrupted (h : Refuses t failure t') : failure.isInterrupted = false := by
  cases h with
  | fails _ hcause => exact hcause
  | stalls => rfl

theorem Wrote.written (h : Wrote t bytes t') : t'.written = t.written ++ bytes := by
  rw [h.eq]

theorem Wrote.reads (h : Wrote t bytes t') : t'.reads = t.reads := by
  rw [h.eq]

theorem Wrote.flushes (h : Wrote t bytes t') : t'.flushes = t.flushes := by
  rw [h.eq]

/-! ### One write -/

theorem wrote_of_write_interrupted (h : t.write bytes = (.error failure, after))
    (hi : failure.isInterrupted = true) : Wrote t [] after := by
  unfold write at h
  split at h
  · cases h
  · next hw =>
    cases h
    have hone := Wrote.single hw hi []
    rwa [List.append_nil] at hone
  · cases h

theorem refuses_of_write_error (h : t.write bytes = (.error failure, after))
    (hi : failure.isInterrupted = false) : Refuses t failure after := by
  unfold write at h
  split at h
  · cases h
  · next hw =>
    cases h
    exact .fails hw hi
  · cases h

theorem refuses_of_write_zero (hne : bytes ≠ []) (h : t.write bytes = (.ok 0, after)) :
    Refuses t .writeZero after := by
  have hlen := List.length_pos_iff.2 hne
  unfold write at h
  split at h
  · have hzero := Except.ok.inj (Prod.mk.inj h).1
    omega
  · cases h
  · next limit rest hw =>
    obtain ⟨hn, rfl⟩ := Prod.mk.inj h
    obtain rfl : limit = 0 := by
      have hzero := Except.ok.inj hn
      omega
    rw [List.take_zero, List.append_nil]
    exact .stalls hw

theorem wrote_of_write_succ {n : Nat} (h : t.write bytes = (.ok (n + 1), after)) :
    Wrote t (bytes.take (n + 1)) after := by
  unfold write at h
  split at h
  · next hw =>
    obtain ⟨hn, rfl⟩ := Prod.mk.inj h
    rw [← Except.ok.inj hn, List.take_length]
    exact ⟨⟨[], by simp⟩, rfl⟩
  · cases h
  · next limit rest hw =>
    obtain ⟨hn, rfl⟩ := Prod.mk.inj h
    have hmin := Except.ok.inj hn
    rw [← hmin, ← List.take_eq_take_min]
    have hlimit : 0 < limit := by omega
    exact .single hw hlimit _

/-! ### Writing everything -/

/-- How the writing of `bytes` on `t` can end: all of them are taken, or those
in front are and then the next write ends it. -/
inductive Writes (t : Transport) (bytes : List UInt8) : Except IoFailure Unit → Transport → Prop
  | all {after : Transport} (hwrote : Wrote t bytes after) : Writes t bytes (.ok ()) after
  | part {taken : List UInt8} {mid after : Transport} {cause : IoFailure} (hpart : taken <+: bytes)
    (hne : taken ≠ bytes) (hwrote : Wrote t taken mid) (hrefuses : Refuses mid cause after) :
    Writes t bytes (.error cause) after

theorem Wrote.writes {a b : List UInt8} {answer : Except IoFailure Unit} (h : Wrote t a t')
    (hw : Writes t' b answer after) : Writes t (a ++ b) answer after := by
  cases hw with
  | all hwrote => exact .all (h.append hwrote)
  | part hpart hne hwrote hrefuses =>
    have hne' : a ++ _ ≠ a ++ b := fun he => hne (List.append_cancel_left he)
    exact .part ((List.prefix_append_right_inj a).2 hpart) hne' (h.append hwrote) hrefuses

/-- **Writing takes each byte once and in order**, as far as it comes. -/
theorem writes_writeAll (bytes : List UInt8) (t : Transport) :
    Writes t bytes (t.writeAll bytes).1 (t.writeAll bytes).2 := by
  fun_induction writeAll bytes t with
  | case1 t => exact .all (.nil t)
  | case2 bytes t _ failure after he hi ih =>
    -- interrupted: the same bytes are offered again
    exact (wrote_of_write_interrupted he hi).writes ih
  | case3 bytes t hne failure after he hi =>
    exact .part List.nil_prefix (Ne.symm hne) (.nil t)
      (refuses_of_write_error he (Bool.eq_false_iff.2 hi))
  | case4 bytes t hne after he =>
    exact .part List.nil_prefix (Ne.symm hne) (.nil t) (refuses_of_write_zero hne he)
  | case5 bytes t _ n after he ih =>
    have hall := (wrote_of_write_succ he).writes ih
    rwa [List.take_append_drop] at hall

theorem Writes.reads {answer : Except IoFailure Unit} (h : Writes t bytes answer after) :
    after.reads = t.reads := by
  cases h with
  | all hwrote => exact hwrote.reads
  | part _ _ hwrote hrefuses => rw [hrefuses.eq, hwrote.reads]

theorem reads_writeAll (bytes : List UInt8) (t : Transport) :
    (t.writeAll bytes).2.reads = t.reads :=
  (writes_writeAll bytes t).reads

/-! ### Passing on -/

/-- A flush is counted, and nothing else but what is planned for flushes changes. -/
theorem flush_eq (t : Transport) :
    t.flush.2 = { t with flushes := t.flush.2.flushes, flushCalls := t.flushCalls + 1 } := by
  unfold flush
  split <;> rfl

theorem eq_of_flush {answer : Except IoFailure Unit} (h : t.flush = (answer, after)) :
    after = { t with flushes := after.flushes, flushCalls := t.flushCalls + 1 } := by
  have heq := t.flush_eq
  rwa [h] at heq

theorem reads_flush (t : Transport) : t.flush.2.reads = t.reads := by
  rw [flush_eq]

/-- How a flush ends is what is planned for it. -/
theorem flush_answer_eq (h : t.flushes = t'.flushes) : t.flush.1 = t'.flush.1 := by
  unfold flush
  rw [h]
  cases t'.flushes with
  | nil => rfl
  | cons flush rest => cases flush <;> rfl

end Transport
end SpeechWire
