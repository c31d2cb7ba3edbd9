import HourlySnapshots.Digest.Sha256

/-!
# Keyed hashes

The hash of a message under a key: the key is filled with zeros to a block, or hashed first when it
is longer than one, and enters before the message and again around the hash.
-/

namespace HourlySnapshots.Digest

/-- A key as a block of 64 bytes. -/
def keyBlock (key : List UInt8) : List UInt8 :=
  let short := if 64 < key.length then sha256 key else key
  short ++ List.replicate (64 - short.length) 0

/-- The hash of a message under a key, 32 bytes. -/
def hmacSha256 (key message : List UInt8) : List UInt8 :=
  let block := keyBlock key
  let inner := sha256 (block.map (· ^^^ 0x36) ++ message)
  sha256 (block.map (· ^^^ 0x5c) ++ inner)

end HourlySnapshots.Digest
