import Mathlib.Data.List.Basic
import Mathlib.Tactic.Common

namespace AgentOps.Lib

/-- Authenticated encryption as in GCM: a key stream that only depends on the key and the IV is added to the text, and the
tag is that of the additional data and the ciphertext. -/
structure SealedBox (tagBytes : Nat) where
  stream : (key iv text : List UInt8) → List UInt8
  tag : (key iv aad ciphertext : List UInt8) → List UInt8
  stream_stream : ∀ key iv text, stream key iv (stream key iv text) = text
  length_stream : ∀ key iv text, (stream key iv text).length = text.length
  length_tag : ∀ key iv aad ciphertext, (tag key iv aad ciphertext).length = tagBytes

namespace SealedBox

variable {tagBytes : Nat} (box : SealedBox tagBytes) (key iv aad : List UInt8)

def encrypt (plaintext : List UInt8) : List UInt8 × List UInt8 :=
  (box.stream key iv plaintext, box.tag key iv aad (box.stream key iv plaintext))

def decrypt (ciphertext tag : List UInt8) : Option (List UInt8) :=
  if box.tag key iv aad ciphertext = tag then some (box.stream key iv ciphertext) else none

variable {box key iv aad} {aad' plaintext ciphertext tag : List UInt8}

/-- Only what has been encrypted with this additional data is opened. -/
theorem decrypt_eq_some : box.decrypt key iv aad ciphertext tag = some plaintext ↔
    box.encrypt key iv aad plaintext = (ciphertext, tag) := by
  unfold decrypt encrypt
  constructor
  · intro opened
    split at opened
    · rename_i valid
      rw [← Option.some.inj opened, box.stream_stream, valid]
    · cases opened
  · intro sealed
    obtain ⟨rfl, rfl⟩ := Prod.mk.inj sealed
    rw [if_pos rfl, box.stream_stream]

theorem length_encrypt : (box.encrypt key iv aad plaintext).1.length = plaintext.length := box.length_stream ..

theorem decrypt_own : box.decrypt key iv aad (box.encrypt key iv aad plaintext).1 (box.encrypt key iv aad plaintext).2 =
    some plaintext := decrypt_eq_some.mpr rfl

theorem decrypt_encrypt : box.decrypt key iv aad' (box.encrypt key iv aad plaintext).1 (box.encrypt key iv aad plaintext).2 =
    if box.tag key iv aad' (box.stream key iv plaintext) = box.tag key iv aad (box.stream key iv plaintext) then some plaintext
    else none := by
  unfold decrypt encrypt
  rw [box.stream_stream]

end SealedBox

end AgentOps.Lib
