import StatusDisplay.Defect

/-!
# Wire payloads

A payload is what one transfer sends: at most 256 bytes, grown a chunk at a time. A chunk goes in
whole or not at all, and one that does not fit is a defect of whoever sized the payload.
`appendAll_eq_ok_iff` says when a run of chunks fits.
-/

namespace StatusDisplay

/-- Bytes that travel together; an append takes all of them or none. -/
abbrev Chunk := List UInt8

/-- The most bytes that one transfer can hold. -/
def Payload.capacity : Nat := 256

/-- The bytes of one transfer. -/
structure Payload where
  bytes : List UInt8
  length_le : bytes.length ≤ Payload.capacity
  deriving DecidableEq, Repr

namespace Payload

/-- The payload without bytes. -/
def empty : Payload := ⟨[], by decide⟩

instance : Inhabited Payload := ⟨empty⟩

/-- Bytes in the payload. -/
def length (payload : Payload) : Nat := payload.bytes.length

/-- Adds a chunk at the end. -/
def append (payload : Payload) (chunk : Chunk) : Except Defect Payload :=
  if h : (payload.bytes ++ chunk).length ≤ capacity then .ok ⟨payload.bytes ++ chunk, h⟩
  else .error .payloadOverflow

/-- Adds chunks at the end, one after the other. -/
def appendAll (payload : Payload) (chunks : List Chunk) : Except Defect Payload :=
  chunks.foldlM append payload

/-- The payload made of just these chunks. -/
def ofChunks (chunks : List Chunk) : Except Defect Payload := empty.appendAll chunks

@[ext] theorem ext {p q : Payload} (h : p.bytes = q.bytes) : p = q := by
  cases p; cases q; simp_all

theorem append_eq_ok_iff {p q : Payload} {chunk : Chunk} :
    p.append chunk = .ok q ↔ q.bytes = p.bytes ++ chunk := by
  unfold append
  split
  case isTrue h => simp only [Except.ok.injEq, Payload.ext_iff]; exact eq_comm
  case isFalse h =>
    simp only [reduceCtorEq, false_iff]
    intro e
    exact h (e ▸ q.length_le)

theorem appendAll_nil (p : Payload) : p.appendAll [] = .ok p := rfl

theorem appendAll_cons (p : Payload) (chunk : Chunk) (chunks : List Chunk) :
    p.appendAll (chunk :: chunks) = (p.append chunk).bind (·.appendAll chunks) := rfl

/-- Chunks are appended exactly when what they make together fits. -/
theorem appendAll_eq_ok_iff {p q : Payload} {chunks : List Chunk} :
    p.appendAll chunks = .ok q ↔ q.bytes = p.bytes ++ chunks.flatten := by
  induction chunks generalizing p with
  | nil => simp [appendAll_nil, Payload.ext_iff, eq_comm]
  | cons chunk chunks ih =>
    rw [appendAll_cons]
    cases h : p.append chunk with
    | ok r =>
      rw [append_eq_ok_iff] at h
      simp [Except.bind, ih, h]
    | error d =>
      simp only [Except.bind, reduceCtorEq, false_iff]
      intro e
      have fits : (p.bytes ++ chunk).length ≤ capacity := by
        have := q.length_le
        simp only [e, List.flatten_cons, List.length_append] at this
        rw [List.length_append]
        omega
      rw [append, dif_pos fits] at h
      exact absurd h (by simp)

/-- Chunks that fit together are appended. -/
theorem appendAll_of_le {p : Payload} {chunks : List Chunk}
    (h : (p.bytes ++ chunks.flatten).length ≤ capacity) :
    p.appendAll chunks = .ok ⟨p.bytes ++ chunks.flatten, h⟩ :=
  appendAll_eq_ok_iff.2 rfl

/-- Chunks that fit together make a payload. -/
theorem ofChunks_of_le {chunks : List Chunk} (h : chunks.flatten.length ≤ capacity) :
    ofChunks chunks = .ok ⟨chunks.flatten, h⟩ :=
  appendAll_eq_ok_iff.2 (by simp [empty])

end Payload

end StatusDisplay
