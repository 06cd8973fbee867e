import Gatehouse.Digest.Sha256
import Gatehouse.Text.Blank

/-!
# Fingerprints and preconditions

A fingerprint names the exact bytes of a file.  A writer who sends the
fingerprint of what it has read asks that nothing else be replaced; a blank one
asks for nothing.
-/

namespace Gatehouse

/-- Bytes in small hexadecimal digits. -/
def hexText (bytes : List UInt8) : String :=
  .ofList (bytes.flatMap fun byte =>
    [Nat.digitChar (byte.toNat / 16), Nat.digitChar (byte.toNat % 16)])

/-- The name of the exact bytes of a file. -/
def fingerprint (bytes : ByteArray) : String :=
  "W/\"sha256:" ++ hexText (Sha256.digest bytes) ++ "\""

/-- What a writer asks the current fingerprint to be, if it asks for anything. -/
def requiredFingerprint (condition : Option String) : Option String :=
  (condition.map Text.trim).filter fun token => token ≠ ""

/-- The current bytes are what a writer asks for. -/
def meetsPrecondition (current : ByteArray) (condition : Option String) : Bool :=
  (requiredFingerprint condition).all fun token => token == fingerprint current

end Gatehouse
