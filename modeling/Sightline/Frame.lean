import Sightline.Bytes
import Sightline.Channel.Error

/-! Frames: a four-byte little-endian length, then that many bytes of payload, in both directions.

`Frame.encode` writes one, `Frame.split` is the reference reading of a whole byte string. Main
statement: a frame with any bytes after it splits into its payload and those bytes
(`splitOne_encoded_append`). -/

set_option autoImplicit false

namespace Sightline.Frame

def headerLength : Nat := 4

def encoded (payload : Bytes) : Bytes := Bytes.word payload.length ++ payload

def encode (payload : Bytes) : Except SendError Bytes :=
  if payload.length < Bytes.wordLimit then .ok (encoded payload)
  else .error (.payloadTooLarge payload.length)

def announced (a b c d : UInt8) : Nat := Bytes.ofWord a b c d

/-- Writes needed for a payload of `length` bytes over a stream that takes `mtu` bytes at a time;
a chunk size of zero counts as one. -/
def writeCount (length mtu : Nat) : Nat :=
  let chunk := max mtu 1
  (length + headerLength + (chunk - 1)) / chunk

theorem length_encoded (payload : Bytes) :
    (encoded payload).length = headerLength + payload.length := by
  simp [encoded, headerLength]

/-! ### The reference reading of a byte string -/

inductive Step where
  | frame (payload rest : Bytes)
  | incomplete
  | oversized (length : Nat)
  deriving DecidableEq, Repr

def splitOne (limit : Nat) : Bytes → Step
  | a :: b :: c :: d :: rest =>
    let length := announced a b c d
    if limit < length then .oversized length
    else if length ≤ rest.length then .frame (rest.take length) (rest.drop length)
    else .incomplete
  | _ => .incomplete

structure Split where
  frames : List Bytes
  rest : Bytes
  oversized : Option Nat
  deriving DecidableEq, Repr

theorem splitOne_rest_lt {limit : Nat} {bytes payload rest : Bytes}
    (h : splitOne limit bytes = .frame payload rest) : rest.length < bytes.length := by
  unfold splitOne at h
  split at h
  · simp only at h
    split at h
    · cases h
    · split at h
      · cases h
        simp only [List.length_cons, List.length_drop]
        omega
      · cases h
  · cases h

def split (limit : Nat) (bytes : Bytes) : Split :=
  match h : splitOne limit bytes with
  | .frame payload rest =>
    have := splitOne_rest_lt h
    let later := split limit rest
    { later with frames := payload :: later.frames }
  | .incomplete => ⟨[], bytes, none⟩
  | .oversized length => ⟨[], bytes, some length⟩
termination_by bytes.length

theorem splitOne_encoded_append (limit : Nat) (payload rest : Bytes)
    (fits : payload.length < Bytes.wordLimit) (allowed : payload.length ≤ limit) :
    splitOne limit (encoded payload ++ rest) = .frame payload rest := by
  have length : announced (UInt8.ofNat payload.length) (UInt8.ofNat (payload.length / 256))
      (UInt8.ofNat (payload.length / 65536)) (UInt8.ofNat (payload.length / 16777216))
      = payload.length := Bytes.ofWord_word payload.length fits
  simp only [encoded, Bytes.word, List.cons_append, List.nil_append, splitOne, length]
  rw [if_neg (by omega), if_pos (by simp)]
  simp

end Sightline.Frame
