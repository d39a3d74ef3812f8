import Tollgate.Digest.Hmac

namespace Tollgate.Token

inductive Algorithm where
  | keyed (digest : Digest)
  | rsa
  | ellipticCurve
  | cipher (keySize : Nat)
  | direct

namespace Algorithm

def names : List (String × Algorithm) :=
  [("HS256", .keyed .sha256), ("HS384", .keyed .sha384), ("HS512", .keyed .sha512),
   ("RS256", .rsa), ("RS384", .rsa), ("RS512", .rsa), ("RSA1_5", .rsa), ("RSA-OAEP", .rsa),
   ("RSA-OAEP-256", .rsa), ("ES256", .ellipticCurve), ("ES384", .ellipticCurve),
   ("ES512", .ellipticCurve), ("ECDH-ES", .ellipticCurve), ("ECDH-ES+A128KW", .ellipticCurve),
   ("ECDH-ES+A192KW", .ellipticCurve), ("ECDH-ES+A256KW", .ellipticCurve), ("A128KW", .cipher 16),
   ("A192KW", .cipher 24), ("A256KW", .cipher 32), ("A128GCM", .cipher 16), ("A192GCM", .cipher 24),
   ("A256GCM", .cipher 32), ("A128CBC", .cipher 16), ("A192CBC", .cipher 24),
   ("A256CBC", .cipher 32), ("A128CBC-HS256", .cipher 32), ("A192CBC-HS384", .cipher 48),
   ("A256CBC-HS512", .cipher 64), ("dir", .direct)]

def named? (name : Text) : Option Algorithm :=
  (names.find? fun (known, _) => Text.lit known = name).map (·.2)

def digest? : Algorithm → Option Digest
  | keyed digest => some digest
  | _ => none

end Algorithm

end Tollgate.Token
