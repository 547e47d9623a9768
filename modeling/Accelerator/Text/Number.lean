/-! Decimal numbers as they are read from settings, and hexadecimal ones as they are
shown. -/

namespace Accelerator

inductive NumberError where
  | empty
  | invalidDigit
  | tooLarge
  | tooSmall
deriving DecidableEq, Repr

namespace NumberError

def message : NumberError → String
  | empty => "cannot parse integer from empty string"
  | invalidDigit => "invalid digit found in string"
  | tooLarge => "number too large to fit in target type"
  | tooSmall => "number too small to fit in target type"

end NumberError

def digit? (c : Char) : Option Nat :=
  if '0' ≤ c ∧ c ≤ '9' then some (c.toNat - '0'.toNat) else none

/-- The number whose first digits have the value `acc`. Digits are read from the left, and
the first one that is none, or that leads past `limit`, decides the error. -/
def readDigits (limit : Nat) (past : NumberError) : Nat → List Char → Except NumberError Nat
  | acc, [] => .ok acc
  | acc, c :: cs =>
    match digit? c with
    | none => .error .invalidDigit
    | some d =>
      if acc * 10 + d ≤ limit then readDigits limit past (acc * 10 + d) cs else .error past

def readNat (limit : Nat) : List Char → Except NumberError Nat
  | [] => .error .empty
  | ['+'] => .error .invalidDigit
  | '+' :: cs => readDigits limit .tooLarge 0 cs
  | cs => readDigits limit .tooLarge 0 cs

/-- A whole number from `-limit - 1` to `limit`, with an optional sign. -/
def readInt (limit : Nat) : List Char → Except NumberError Int
  | ['-'] => .error .invalidDigit
  | '-' :: cs => (readDigits (limit + 1) .tooSmall 0 cs).map fun n => -(n : Int)
  | cs => (readNat limit cs).map fun n => (n : Int)

def hexDigit (d : Nat) : Char :=
  if d < 10 then Char.ofNat ('0'.toNat + d) else Char.ofNat ('a'.toNat + (d - 10))

/-- How many numbers can be written with `width` hexadecimal digits. -/
def hexCapacity : Nat → Nat
  | 0 => 1
  | width + 1 => hexCapacity width * 16

/-- The last `width` hexadecimal digits of `n`. -/
def hexDigits : Nat → Nat → List Char
  | 0, _ => []
  | width + 1, n => hexDigits width (n / 16) ++ [hexDigit (n % 16)]

def hexText (width n : Nat) : String :=
  String.ofList (hexDigits width n)

/-- As many digits as `n` needs, after `0x`. -/
def shortHexText (n : Nat) : String :=
  "0x" ++ String.ofList (Nat.toDigits 16 n)

def hexValue? (c : Char) : Option Nat :=
  if '0' ≤ c ∧ c ≤ '9' then some (c.toNat - '0'.toNat)
  else if 'a' ≤ c ∧ c ≤ 'f' then some (c.toNat - 'a'.toNat + 10) else none

/-- The number whose first hexadecimal digits have the value `acc`. -/
def readHexFrom? : Nat → List Char → Option Nat
  | acc, [] => some acc
  | acc, c :: cs =>
    match hexValue? c with
    | none => none
    | some d => readHexFrom? (acc * 16 + d) cs

def readHex? (cs : List Char) : Option Nat :=
  readHexFrom? 0 cs

theorem hexValue?_hexDigit {d : Nat} (h : d < 16) : hexValue? (hexDigit d) = some d := by
  have : ∀ d : Fin 16, hexValue? (hexDigit d) = some d.val := by decide
  exact this ⟨d, h⟩

@[simp] theorem length_hexDigits (width n : Nat) : (hexDigits width n).length = width := by
  induction width generalizing n with
  | zero => rfl
  | succ width ih => simp [hexDigits, ih]

theorem readHexFrom?_hexDigits_append {width n : Nat} (h : n < hexCapacity width) (acc : Nat)
    (cs : List Char) :
    readHexFrom? acc (hexDigits width n ++ cs) = readHexFrom? (acc * hexCapacity width + n) cs := by
  induction width generalizing n cs with
  | zero =>
    obtain rfl : n = 0 := Nat.lt_one_iff.mp h
    simp [hexDigits, hexCapacity]
  | succ width ih =>
    rw [hexCapacity, Nat.mul_comm] at h
    rw [hexDigits, List.append_assoc, ih (Nat.div_lt_of_lt_mul h), List.singleton_append,
      readHexFrom?, hexValue?_hexDigit (Nat.mod_lt n (by decide))]
    simp only
    congr 1
    rw [Nat.add_mul, Nat.mul_assoc, hexCapacity]
    omega

theorem readHex?_hexDigits {width n : Nat} (h : n < hexCapacity width) :
    readHex? (hexDigits width n) = some n := by
  simpa [readHex?, readHexFrom?] using readHexFrom?_hexDigits_append h 0 []

end Accelerator
