/-!
# Rulesets — fingerprints

A fingerprint is the 64-bit FNV-1a hash of a text's UTF-8 bytes: each byte is combined by exclusive
or, then the state is multiplied by a prime.
-/

namespace PostFilter.Fingerprint

/-- The state before the first byte. -/
def start : UInt64 := 0xcbf29ce484222325

/-- The factor of each round. -/
def prime : UInt64 := 0x100000001b3

/-- One round. -/
def round (state : UInt64) (byte : UInt8) : UInt64 := (state ^^^ byte.toUInt64) * prime

/-- The hash of bytes. -/
def ofBytes (bytes : List UInt8) : UInt64 := bytes.foldl round start

/-- The hash of a text. -/
def ofText (s : String) : UInt64 := ofBytes s.toUTF8.toList

end PostFilter.Fingerprint
