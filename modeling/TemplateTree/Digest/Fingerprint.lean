import TemplateTree.Digest.Blake3
import TemplateTree.Text.Hexadecimal

/-!
# Fingerprints

Files are told apart by the first half of their BLAKE3 hash, written in hexadecimal digits.
-/

namespace TemplateTree.Digest

def hex (bytes : List UInt8) : String :=
  String.ofList (bytes.flatMap Text.hexPair)

/-- The number of bytes of the hash that a fingerprint shows. -/
def fingerprintLength : Nat := 16

/-- The fingerprint of some content. -/
def fingerprint (content : List UInt8) : String :=
  hex ((Blake3.hash content).take fingerprintLength)

end TemplateTree.Digest
