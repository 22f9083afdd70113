import Mathlib.Data.List.Basic
import TemplateTree.Proofs.Text.Lines
import TemplateTree.Text.Utf8

/-!
# Well-formed bytes

What `Utf8.decode` finds in bytes, told by the bytes that encode a character: the text and the rest
that it answers with are those that make up the bytes, such that no character stands at the
beginning of the rest.
-/

namespace TemplateTree.Text.Utf8

variable {c : Char} {first second third fourth : UInt8} {bytes left rest : List UInt8}
  {text : List Char}

private theorem ofNat_eq_iff {number : Nat} {byte : UInt8} (small : number < 0x100) :
    UInt8.ofNat number = byte ↔ byte.toNat = number := by
  rw [← UInt8.toNat_inj, UInt8.toNat_ofNat', Nat.mod_eq_of_lt small, eq_comm]

theorem isContinuation_iff {byte : UInt8} :
    isContinuation byte = true ↔ 0x80 ≤ byte.toNat ∧ byte.toNat ≤ 0xBF := by
  simp [isContinuation, UInt8.le_iff_toNat_le]

theorem isPair_iff :
    isPair first second = true ↔
      (0xC2 ≤ first.toNat ∧ first.toNat ≤ 0xDF) ∧ 0x80 ≤ second.toNat ∧ second.toNat ≤ 0xBF := by
  simp [isPair, isContinuation_iff, UInt8.le_iff_toNat_le]

/-- Three bytes of a character by their numbers. -/
theorem isTriple_iff :
    isTriple first second third = true ↔
      (0xE0 ≤ first.toNat ∧ first.toNat ≤ 0xEF) ∧ (0x80 ≤ second.toNat ∧ second.toNat ≤ 0xBF) ∧
        (0x80 ≤ third.toNat ∧ third.toNat ≤ 0xBF) ∧ (first.toNat = 0xE0 → 0xA0 ≤ second.toNat) ∧
        (first.toNat = 0xED → second.toNat ≤ 0x9F) := by
  simp [isTriple, isContinuation_iff, UInt8.le_iff_toNat_le, ← UInt8.toNat_inj, and_assoc,
    Decidable.imp_iff_not_or]

/-- Four bytes of a character by their numbers. -/
theorem isQuadruple_iff :
    isQuadruple first second third fourth = true ↔
      (0xF0 ≤ first.toNat ∧ first.toNat ≤ 0xF4) ∧ (0x80 ≤ second.toNat ∧ second.toNat ≤ 0xBF) ∧
        (0x80 ≤ third.toNat ∧ third.toNat ≤ 0xBF) ∧ (0x80 ≤ fourth.toNat ∧ fourth.toNat ≤ 0xBF) ∧
        (first.toNat = 0xF0 → 0x90 ≤ second.toNat) ∧
        (first.toNat = 0xF4 → second.toNat ≤ 0x8F) := by
  simp [isQuadruple, isContinuation_iff, UInt8.le_iff_toNat_le, ← UInt8.toNat_inj, and_assoc,
    Decidable.imp_iff_not_or]

private theorem toNat_range (c : Char) :
    c.toNat < 0xD800 ∨ 0xDFFF < c.toNat ∧ c.toNat < 0x110000 := c.valid

/-- Bytes that stand for the character of a number. -/
inductive Encodes : List UInt8 → Nat → Prop where
  | single {first number} (small : first.toNat < 0x80) (value : number = first.toNat) :
      Encodes [first] number
  | pair {first second number} (fits : isPair first second = true)
      (value : number = first.toNat % 0x20 * 0x40 + payload second) :
      Encodes [first, second] number
  | triple {first second third number} (fits : isTriple first second third = true)
      (value : number = first.toNat % 0x10 * 0x1000 + payload second * 0x40 + payload third) :
      Encodes [first, second, third] number
  | quadruple {first second third fourth number}
      (fits : isQuadruple first second third fourth = true)
      (value : number = first.toNat % 0x8 * 0x40000 + payload second * 0x1000 +
        payload third * 0x40 + payload fourth) :
      Encodes [first, second, third, fourth] number

/-- The bytes of a character stand for it. -/
theorem encodes_encodeChar (c : Char) : Encodes (String.utf8EncodeChar c) c.toNat := by
  have value : c.val.toNat = c.toNat := rfl
  have range := toNat_range c
  simp only [String.utf8EncodeChar, value]
  generalize c.toNat = n at range
  have number (m : Nat) (small : m < 0x100) : (UInt8.ofNat m).toNat = m :=
    (ofNat_eq_iff small).1 rfl
  split
  · have first := number n (by omega)
    exact .single (by omega) (by omega)
  · split
    · have first := number (n / 64 % 32 + 192) (by omega)
      have second := number (n % 64 + 128) (by omega)
      refine .pair ?_ ?_
      · rw [isPair_iff]
        omega
      · rw [payload]
        omega
    · split
      · have first := number (n / 4096 % 16 + 224) (by omega)
        have second := number (n / 64 % 64 + 128) (by omega)
        have third := number (n % 64 + 128) (by omega)
        refine .triple ?_ ?_
        · rw [isTriple_iff]
          omega
        · rw [payload, payload]
          omega
      · have first := number (n / 262144 % 8 + 240) (by omega)
        have second := number (n / 4096 % 64 + 128) (by omega)
        have third := number (n / 64 % 64 + 128) (by omega)
        have fourth := number (n % 64 + 128) (by omega)
        refine .quadruple ?_ ?_
        · rw [isQuadruple_iff]
          omega
        · rw [payload, payload, payload]
          omega

/-- What bytes stand for is encoded by them. -/
theorem Encodes.encodeChar_eq {number : Nat} (encodes : Encodes bytes number) :
    String.utf8EncodeChar (Char.ofNat number) = bytes := by
  have value (valid : number.isValidChar) : (Char.ofNat number).val.toNat = number := by
    rw [Char.ofNat, dif_pos valid]
    rfl
  cases encodes with
  | single small same =>
    have valid : number.isValidChar := .inl (by omega)
    simp only [String.utf8EncodeChar, value valid]
    rw [if_pos (by omega), (ofNat_eq_iff (by omega)).2 same.symm]
  | pair fits same =>
    rw [isPair_iff] at fits
    rw [payload] at same
    have valid : number.isValidChar := .inl (by omega)
    simp only [String.utf8EncodeChar, value valid]
    rw [if_neg (by omega), if_pos (by omega), (ofNat_eq_iff (by omega)).2, (ofNat_eq_iff (by omega)).2]
    · omega
    · omega
  | triple fits same =>
    rw [isTriple_iff] at fits
    rw [payload, payload] at same
    have valid : number.isValidChar := by
      rw [Nat.isValidChar]
      omega
    simp only [String.utf8EncodeChar, value valid]
    rw [if_neg (by omega), if_neg (by omega), if_pos (by omega), (ofNat_eq_iff (by omega)).2,
      (ofNat_eq_iff (by omega)).2, (ofNat_eq_iff (by omega)).2]
    all_goals omega
  | quadruple fits same =>
    rw [isQuadruple_iff] at fits
    rw [payload, payload, payload] at same
    have valid : number.isValidChar := by
      rw [Nat.isValidChar]
      omega
    simp only [String.utf8EncodeChar, value valid]
    rw [if_neg (by omega), if_neg (by omega), if_neg (by omega), (ofNat_eq_iff (by omega)).2,
      (ofNat_eq_iff (by omega)).2, (ofNat_eq_iff (by omega)).2, (ofNat_eq_iff (by omega)).2]
    all_goals omega

/-- The bytes of a character are read as it, and then what follows them. -/
theorem Encodes.decode_append {number : Nat} (encodes : Encodes bytes number)
    (rest : List UInt8) :
    decode (bytes ++ rest) = (Char.ofNat number :: (decode rest).1, (decode rest).2) := by
  have long {byte : UInt8} (large : 0xC2 ≤ byte.toNat) : ¬byte < 0x80 := by
    rw [UInt8.lt_iff_toNat_lt]
    exact Nat.not_lt.2 (Nat.le_trans (by decide) large)
  have noPair {first second : UInt8} (large : 0xE0 ≤ first.toNat) :
      ¬isPair first second = true := by
    rw [isPair_iff]
    omega
  have noTriple {first second third : UInt8} (large : 0xF0 ≤ first.toNat) :
      ¬isTriple first second third = true := by
    rw [isTriple_iff]
    omega
  cases encodes with
  | single small value =>
    have short : _ < (0x80 : UInt8) := UInt8.lt_iff_toNat_lt.2 small
    rw [value, List.singleton_append, decode.eq_def]
    exact if_pos short
  | pair fits value =>
    have large := (isPair_iff.1 fits).1.1
    rw [value, List.cons_append, decode.eq_def]
    simp only [if_neg (long large), List.singleton_append, fits, if_true]
  | triple fits value =>
    have large := (isTriple_iff.1 fits).1.1
    have several := long (Nat.le_trans (by decide) large)
    rw [value, List.cons_append, decode.eq_def]
    simp only [if_neg several, List.cons_append, List.nil_append, if_neg (noPair large), fits, if_true]
  | quadruple fits value =>
    have large := (isQuadruple_iff.1 fits).1.1
    have several := long (Nat.le_trans (by decide) large)
    rw [value, List.cons_append, decode.eq_def]
    simp only [if_neg several, List.cons_append, List.nil_append,
      if_neg (noPair (Nat.le_trans (by decide) large)), if_neg (noTriple large), fits, if_true]

theorem decode_encodeChar_append (c : Char) (rest : List UInt8) :
    decode (String.utf8EncodeChar c ++ rest) = (c :: (decode rest).1, (decode rest).2) := by
  rw [(encodes_encodeChar c).decode_append rest, Char.ofNat_toNat]

/-- Nothing is read of bytes, unless they begin with those of a character. -/
theorem decode_eq_or_exists (bytes : List UInt8) :
    decode bytes = ([], bytes) ∨ ∃ c rest, bytes = String.utf8EncodeChar c ++ rest := by
  have begins {front : List UInt8} {number : Nat} (encodes : Encodes front number)
      (rest : List UInt8) : ∃ c more, front ++ rest = String.utf8EncodeChar c ++ more :=
    ⟨Char.ofNat number, rest, by rw [encodes.encodeChar_eq]⟩
  fun_cases decode bytes with
  | case1 | case3 | case5 | case7 | case9 => exact .inl rfl
  | case2 first rest small => exact .inr (begins (.single (UInt8.lt_iff_toNat_lt.1 small) rfl) rest)
  | case4 first _ second rest fits => exact .inr (begins (.pair fits rfl) rest)
  | case6 first _ second _ third rest fits => exact .inr (begins (.triple fits rfl) rest)
  | case8 first _ second _ third _ fourth rest fits =>
    exact .inr (begins (.quadruple fits rfl) rest)

/-- Bytes are read as a text and what is left of them, exactly when they are the bytes of this text
followed by what is left, and no character stands at the beginning of that. -/
theorem decode_eq_iff :
    decode bytes = (text, left) ↔
      bytes = encode text ++ left ∧ ∀ c, ¬String.utf8EncodeChar c <+: left := by
  induction text generalizing bytes with
  | nil =>
    constructor
    · intro read
      rcases decode_eq_or_exists bytes with nothing | ⟨c, rest, rfl⟩
      · rw [nothing] at read
        cases read
        refine ⟨rfl, ?_⟩
        rintro c ⟨rest, rfl⟩
        rw [decode_encodeChar_append] at nothing
        cases nothing
      · rw [decode_encodeChar_append] at read
        cases read
    · rintro ⟨rfl, ill⟩
      rcases decode_eq_or_exists bytes with nothing | ⟨c, rest, begins⟩
      · exact nothing
      · exact absurd ⟨rest, begins.symm⟩ (ill c)
  | cons c text inductionHypothesis =>
    have bytesOf : encode (c :: text) = String.utf8EncodeChar c ++ encode text := rfl
    constructor
    · intro read
      rcases decode_eq_or_exists bytes with nothing | ⟨d, rest, rfl⟩
      · rw [nothing] at read
        cases read
      · rw [decode_encodeChar_append] at read
        obtain ⟨starts, rfl⟩ := Prod.mk.inj read
        obtain ⟨rfl, rfl⟩ := List.cons.inj starts
        obtain ⟨whole, ill⟩ := inductionHypothesis.1 (rfl : decode rest = _)
        refine ⟨?_, ill⟩
        rw [bytesOf, List.append_assoc, ← whole]
    · rintro ⟨rfl, ill⟩
      have behind := inductionHypothesis.2 ⟨rfl, ill⟩
      rw [bytesOf, List.append_assoc, decode_encodeChar_append, behind]

theorem encodeChar_not_prefix_nil (c : Char) : ¬String.utf8EncodeChar c <+: [] := by
  rw [List.prefix_nil]
  exact String.utf8EncodeChar_ne_nil

/-- Bytes are a text exactly when they are its bytes. -/
theorem decode?_eq_some_iff : decode? bytes = some text ↔ bytes = encode text := by
  have whole : decode bytes = (text, []) ↔ bytes = encode text := by
    rw [decode_eq_iff, List.append_nil]
    exact and_iff_left encodeChar_not_prefix_nil
  rw [← whole, decode?]
  generalize decode bytes = read
  obtain ⟨found, left⟩ := read
  cases left <;> simp

/-- Bytes that are no text are the bytes of a text and others at whose beginning no character
stands. -/
theorem exists_of_decode?_eq_none (none : decode? bytes = none) :
    ∃ text left, bytes = encode text ++ left ∧ left ≠ [] ∧
      ∀ c, ¬String.utf8EncodeChar c <+: left := by
  obtain ⟨whole, ill⟩ := decode_eq_iff.1 (rfl : decode bytes = _)
  refine ⟨_, _, whole, ?_, ill⟩
  intro empty
  simp [decode?, empty] at none

/-- The byte of a line feed is that of no other character. -/
theorem lineFeed_mem_encodeChar : 0x0A ∈ String.utf8EncodeChar c ↔ c = '\n' := by
  have number : c = '\n' ↔ c.toNat = 0x0A := by
    rw [← Char.toNat_inj]
    rfl
  have feed : (0x0A : UInt8).toNat = 0x0A := rfl
  have encodes := encodes_encodeChar c
  generalize String.utf8EncodeChar c = bytes at encodes
  rw [number]
  cases encodes with
  | single small value =>
    rw [List.mem_singleton, ← UInt8.toNat_inj]
    omega
  | pair fits value =>
    rw [isPair_iff] at fits
    rw [payload] at value
    simp only [List.mem_cons, List.not_mem_nil, or_false, ← UInt8.toNat_inj]
    omega
  | triple fits value =>
    rw [isTriple_iff] at fits
    rw [payload, payload] at value
    simp only [List.mem_cons, List.not_mem_nil, or_false, ← UInt8.toNat_inj]
    omega
  | quadruple fits value =>
    rw [isQuadruple_iff] at fits
    rw [payload, payload, payload] at value
    simp only [List.mem_cons, List.not_mem_nil, or_false, ← UInt8.toNat_inj]
    omega

/-- The bytes of a text have a line feed for each of its line feeds. -/
theorem count_encode (text : List Char) : (encode text).count 0x0A = text.count '\n' := by
  induction text with
  | nil => rfl
  | cons c rest inductionHypothesis =>
    have split : encode (c :: rest) = String.utf8EncodeChar c ++ encode rest := rfl
    rw [split, List.count_append, inductionHypothesis, Nat.add_comm]
    by_cases feed : c = '\n'
    · rw [feed, List.count_cons_self]
      rfl
    · rw [List.count_cons_of_ne feed,
        List.count_eq_zero.2 fun inside => feed (lineFeed_mem_encodeChar.1 inside), Nat.add_zero]

/-- The bytes of a text end with a line feed exactly when the text does. -/
theorem getLast?_encode (text : List Char) :
    (encode text).getLast? = some 0x0A ↔ text.getLast? = some '\n' := by
  rcases List.eq_nil_or_concat text with rfl | ⟨front, last, rfl⟩
  · exact ⟨nofun, nofun⟩
  · have split : encode (front ++ [last]) = encode front ++ String.utf8EncodeChar last := by
      simp [encode]
    rw [List.concat_eq_append, split, List.getLast?_append_of_ne_nil _ String.utf8EncodeChar_ne_nil,
      List.getLast?_concat]
    constructor
    · intro ends
      rw [lineFeed_mem_encodeChar.1 (List.mem_of_getLast? ends)]
    · rintro ⟨⟩
      rfl

/-- The number of lines of a file, counted by its bytes: one for each line feed, and one for what
stands behind the last of them. -/
def lineCount (bytes : List UInt8) : Nat :=
  bytes.count 0x0A + if bytes = [] ∨ bytes.getLast? = some 0x0A then 0 else 1

/-- A text has as many lines as its bytes. -/
theorem lineCount_encode (text : List Char) :
    lineCount (encode text) = (lines text).length := by
  have empty : encode text = [] ↔ text = [] := by
    cases text with
    | nil => exact ⟨fun _ => rfl, fun _ => rfl⟩
    | cons c rest => simp [encode, String.utf8EncodeChar_ne_nil]
  have ends : encode text = [] ∨ (encode text).getLast? = some 0x0A ↔ EndsLine text :=
    or_congr empty (getLast?_encode text)
  rw [lineCount, length_lines, count_encode]
  exact congrArg (_ + ·) (if_congr ends rfl rfl)

/-- Bytes that follow others stand on a line of their own or on the last line of those. -/
theorem count_lt_lineCount (front : List UInt8) {left : List UInt8} (filled : left ≠ []) :
    front.count 0x0A < lineCount (front ++ left) := by
  rw [lineCount, List.count_append, List.getLast?_append_of_ne_nil _ filled]
  have whole : front ++ left ≠ [] := List.append_ne_nil_of_right_ne_nil front filled
  by_cases ends : left.getLast? = some 0x0A
  · have feed : 0 < left.count 0x0A := List.count_pos_iff.2 (List.mem_of_getLast? ends)
    omega
  · rw [if_neg (by simp [whole, ends])]
    omega

end TemplateTree.Text.Utf8
