/-!
# QueryGuard.Text.Hex

Hexadecimal text with small letters: numbers padded to a width, and byte strings, two digits a byte.
-/

namespace QueryGuard.Text.Hex

/-- The hexadecimal digits of `n`, with zeros in front up to `width` digits. -/
def padded (width n : Nat) : List Char :=
  let digits := Nat.toDigits 16 n
  List.replicate (width - digits.length) '0' ++ digits

/-- The two digits of a byte. -/
def ofByte (b : UInt8) : List Char := [Nat.digitChar (b.toNat / 16), Nat.digitChar (b.toNat % 16)]

/-- Writes a byte string. -/
def encode (bytes : List UInt8) : List Char := bytes.flatMap ofByte

/-- The value of a hexadecimal digit, small or capital. -/
def digitValue? (c : Char) : Option Nat :=
  (List.range 16).find? fun d => Nat.digitChar d == c.toLower

/-- Reads a byte string. -/
def decode? : List Char → Option (List UInt8)
  | [] => some []
  | high :: low :: rest => do
      return UInt8.ofNat (16 * (← digitValue? high) + (← digitValue? low)) :: (← decode? rest)
  | [_] => none

/-! ## reading what was written -/

/-- The value of the digit that stands for a number is that number. -/
theorem digitValue?_digitChar {n : Nat} (h : n < 16) :
    digitValue? (Nat.digitChar n) = some n := by
  have all : ∀ n ∈ List.range 16, digitValue? (Nat.digitChar n) = some n := by decide
  exact all n (List.mem_range.mpr h)

/-- Reading the text of a byte string gives the byte string back. -/
theorem decode?_encode (bytes : List UInt8) : decode? (encode bytes) = some bytes := by
  induction bytes with
  | nil => rfl
  | cons b bytes ih =>
      have hb : b.toNat < 256 := b.toNat_lt_size
      have high : b.toNat / 16 < 16 := by omega
      have low : b.toNat % 16 < 16 := by omega
      have whole : 16 * (b.toNat / 16) + b.toNat % 16 = b.toNat := by omega
      have step : encode (b :: bytes) =
          Nat.digitChar (b.toNat / 16) :: Nat.digitChar (b.toNat % 16) :: encode bytes := rfl
      rw [step, decode?, digitValue?_digitChar high, digitValue?_digitChar low, ih]
      have back : UInt8.ofNat (16 * (b.toNat / 16) + b.toNat % 16) = b := by
        rw [whole, UInt8.ofNat_toNat]
      simpa only [Option.pure_def, Option.bind_eq_bind, Option.bind_some, Option.some.injEq,
        List.cons.injEq, and_true] using back

/-- The sixteen digits. -/
def digits : List Char := "0123456789abcdef".toList

theorem digitChar_mem_digits {n : Nat} (h : n < 16) : Nat.digitChar n ∈ digits := by
  have all : ∀ n ∈ List.range 16, Nat.digitChar n ∈ digits := by decide
  exact all n (List.mem_range.mpr h)

/-- The text of a byte string has small digits only. -/
theorem forall_encode_mem_digits (bytes : List UInt8) : ∀ c ∈ encode bytes, c ∈ digits := by
  intro c hc
  obtain ⟨b, -, hb⟩ := List.mem_flatMap.mp hc
  have small : b.toNat < 256 := b.toNat_lt_size
  obtain rfl | hb := List.mem_cons.mp hb
  · exact digitChar_mem_digits (by omega)
  · rw [List.mem_singleton.mp hb]
    exact digitChar_mem_digits (by omega)

/-- The text of a byte string has two digits a byte. -/
theorem length_encode (bytes : List UInt8) : (encode bytes).length = 2 * bytes.length := by
  induction bytes with
  | nil => rfl
  | cons b bytes ih =>
      simp only [encode, List.flatMap_cons, List.length_append, List.length_cons] at ih ⊢
      rw [ih]
      simp only [ofByte, List.length_cons, List.length_nil]
      omega

end QueryGuard.Text.Hex
