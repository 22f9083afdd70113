/-!
# UTF-8

Bytes read as UTF-8. `decode` reads as far as the bytes are well formed and hands back the rest, so
that a caller can tell where the first ill-formed sequence stands; `encode` is the way back.
-/

namespace TemplateTree.Text.Utf8

def encode (text : List Char) : List UInt8 :=
  text.flatMap String.utf8EncodeChar

/-- The value of the six low bits of a byte, which a continuation byte contributes. -/
def payload (byte : UInt8) : Nat :=
  byte.toNat % 0x40

def isContinuation (byte : UInt8) : Bool :=
  0x80 ≤ byte && byte ≤ 0xBF

/-- Whether two bytes encode a character. -/
def isPair (first second : UInt8) : Bool :=
  0xC2 ≤ first && first ≤ 0xDF && isContinuation second

/-- Whether three bytes encode a character: no overlong form and no surrogate. -/
def isTriple (first second third : UInt8) : Bool :=
  0xE0 ≤ first && first ≤ 0xEF && isContinuation second && isContinuation third &&
    (first != 0xE0 || 0xA0 ≤ second) && (first != 0xED || second ≤ 0x9F)

/-- Whether four bytes encode a character: no overlong form and nothing above U+10FFFF. -/
def isQuadruple (first second third fourth : UInt8) : Bool :=
  0xF0 ≤ first && first ≤ 0xF4 && isContinuation second && isContinuation third &&
    isContinuation fourth && (first != 0xF0 || 0x90 ≤ second) && (first != 0xF4 || second ≤ 0x8F)

/-- The longest well-formed beginning of the bytes as text, and the bytes from the first ill-formed
sequence on. -/
def decode : List UInt8 → List Char × List UInt8
  | [] => ([], [])
  | first :: rest =>
    if first < 0x80 then
      let (text, left) := decode rest
      (Char.ofNat first.toNat :: text, left)
    else match rest with
      | [] => ([], [first])
      | second :: rest =>
        if isPair first second then
          let (text, left) := decode rest
          (Char.ofNat (first.toNat % 0x20 * 0x40 + payload second) :: text, left)
        else match rest with
          | [] => ([], [first, second])
          | third :: rest =>
            if isTriple first second third then
              let (text, left) := decode rest
              (Char.ofNat (first.toNat % 0x10 * 0x1000 + payload second * 0x40 + payload third) ::
                text, left)
            else match rest with
              | [] => ([], [first, second, third])
              | fourth :: rest =>
                if isQuadruple first second third fourth then
                  let (text, left) := decode rest
                  (Char.ofNat (first.toNat % 0x8 * 0x40000 + payload second * 0x1000 +
                    payload third * 0x40 + payload fourth) :: text, left)
                else ([], first :: second :: third :: fourth :: rest)

/-- The text that the bytes encode, if they are well formed to the end. -/
def decode? (bytes : List UInt8) : Option (List Char) :=
  let (text, left) := decode bytes
  if left.isEmpty then some text else none

/-- The number, from 1, of the line in which the first ill-formed sequence stands. -/
def lineOfFirstError (bytes : List UInt8) : Nat :=
  (decode bytes).1.count '\n' + 1

end TemplateTree.Text.Utf8
