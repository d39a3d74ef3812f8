import Tollgate.Digest.Sha2

namespace Tollgate

inductive Digest where
  | sha256
  | sha384
  | sha512
deriving DecidableEq, Repr

namespace Digest

def hash : Digest → Bytes → Bytes
  | sha256 => Sha2.digest Sha2.sha256
  | sha384 => Sha2.digest Sha2.sha384
  | sha512 => Sha2.digest Sha2.sha512

def blockBytes : Digest → Nat
  | sha256 => 64
  | sha384 | sha512 => 128

def blockKey (d : Digest) (key : Bytes) : Bytes :=
  let key := if key.length > d.blockBytes then d.hash key else key
  key ++ List.replicate (d.blockBytes - key.length) 0

def hmac (d : Digest) (key message : Bytes) : Bytes :=
  let key := d.blockKey key
  let inner := d.hash (key.map (· ^^^ 0x36) ++ message)
  d.hash (key.map (· ^^^ 0x5C) ++ inner)

end Digest

end Tollgate
