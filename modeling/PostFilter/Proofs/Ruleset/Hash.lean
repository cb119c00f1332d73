import PostFilter.Ruleset.Fingerprint

/-!
# Rulesets — an edit of one byte changes the hash

Each round of the hash can be undone: the prime is odd, so it has an inverse modulo `2 ^ 64`, and an
exclusive or with the same byte takes itself back (`unround_round`). So a round tells apart the
states that it starts from, and from one state it tells apart the bytes. Texts that differ in one
byte lead to different states there, and no byte behind it brings the states together
(`ofBytes_edit_iff`).
-/

namespace PostFilter.Fingerprint

/-- The inverse of the factor of a round. -/
def primeInverse : UInt64 := 0xce965057aff6957b

theorem prime_mul_primeInverse : prime * primeInverse = 1 := by decide

/-- The state before a round, from the state behind it. -/
def unround (state : UInt64) (byte : UInt8) : UInt64 := state * primeInverse ^^^ byte.toUInt64

theorem unround_round (state : UInt64) (byte : UInt8) : unround (round state byte) byte = state :=
  calc (state ^^^ byte.toUInt64) * prime * primeInverse ^^^ byte.toUInt64
    _ = (state ^^^ byte.toUInt64) * (prime * primeInverse) ^^^ byte.toUInt64 := by
      rw [UInt64.mul_assoc]
    _ = state ^^^ byte.toUInt64 ^^^ byte.toUInt64 := by
      rw [prime_mul_primeInverse, UInt64.mul_one]
    _ = state := by rw [UInt64.xor_assoc, UInt64.xor_self, UInt64.xor_zero]

/-- A round tells states apart. -/
theorem round_left_inj {state state' : UInt64} (byte : UInt8) :
    round state byte = round state' byte ↔ state = state' := by
  refine ⟨fun h => ?_, congrArg (round · byte)⟩
  rw [← unround_round state byte, h, unround_round]

/-- A round tells bytes apart: undoing it with either byte leads to the same state. -/
theorem round_right_inj (state : UInt64) {a b : UInt8} :
    round state a = round state b ↔ a = b := by
  refine ⟨fun h => ?_, congrArg (round state)⟩
  have hundone : unround (round state b) a = unround (round state b) b := by
    rw [unround_round, ← h, unround_round]
  exact UInt8.toUInt64_inj.1 ((UInt64.xor_right_inj _).1 hundone)

/-- Rounds over the same bytes tell states apart. -/
theorem foldl_round_inj {state state' : UInt64} (bytes : List UInt8) :
    bytes.foldl round state = bytes.foldl round state' ↔ state = state' := by
  induction bytes generalizing state state' with
  | nil => exact Iff.rfl
  | cons byte bytes ih => exact ih.trans (round_left_inj byte)

/-- **An edit of one byte changes the hash.** -/
theorem ofBytes_edit_iff (before behind : List UInt8) (a b : UInt8) :
    ofBytes (before ++ [a] ++ behind) = ofBytes (before ++ [b] ++ behind) ↔ a = b := by
  have hedit (c : UInt8) : ofBytes (before ++ [c] ++ behind) =
      behind.foldl round (round (ofBytes before) c) := by
    rw [ofBytes, List.foldl_append, List.foldl_append]
    rfl
  rw [hedit, hedit, foldl_round_inj, round_right_inj]

end PostFilter.Fingerprint
