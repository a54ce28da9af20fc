/-! Reading whole numbers of a limited range. One sign may stand in front, only the digits of ASCII
count, and the first character that is wrong or leads out of the range decides the error. -/
namespace Curator.Text

/-- Why a text is not a whole number of the wanted range. -/
inductive IntegerError where
  | empty
  | invalidDigit
  | tooLarge
  | tooSmall
deriving DecidableEq, Repr

def IntegerError.message : IntegerError → String
  | .empty => "cannot parse integer from empty string"
  | .invalidDigit => "invalid digit found in string"
  | .tooLarge => "number too large to fit in target type"
  | .tooSmall => "number too small to fit in target type"

/-- How far a character stands behind the digit zero. -/
def digitOffset (character : Char) : Nat :=
  character.toNat - '0'.toNat

def digitValue? (character : Char) : Option Nat :=
  if character.isDigit then some (digitOffset character) else none

def hexValue? (character : Char) : Option Nat :=
  if character.isDigit then some (digitOffset character)
  else if 'a' ≤ character && character ≤ 'f' then some (character.toNat - 87)
  else if 'A' ≤ character && character ≤ 'F' then some (character.toNat - 55)
  else none

/-- Continue a number with further digits; more than `limit` is an overflow. -/
def readDigits (limit : Nat) (overflow : IntegerError) (value : Nat) :
    List Char → Except IntegerError Nat
  | [] => .ok value
  | character :: rest =>
    match digitValue? character with
    | none => .error .invalidDigit
    | some digit =>
      if limit < value * 10 + digit then .error overflow
      else readDigits limit overflow (value * 10 + digit) rest

/-- A number from 0 to `limit`. A minus sign is no digit, not even before a zero. -/
def readUnsigned (limit : Nat) : List Char → Except IntegerError Nat
  | [] => .error .empty
  | ['+'] | ['-'] => .error .invalidDigit
  | '+' :: digits => readDigits limit .tooLarge 0 digits
  | digits => readDigits limit .tooLarge 0 digits

/-- A number from `-bound` to `bound - 1`. -/
def readSigned (bound : Nat) : List Char → Except IntegerError Int
  | [] => .error .empty
  | ['+'] | ['-'] => .error .invalidDigit
  | '+' :: digits => (readDigits (bound - 1) .tooLarge 0 digits).map Int.ofNat
  | '-' :: digits => (readDigits bound .tooSmall 0 digits).map fun magnitude => -(magnitude : Int)
  | digits => (readDigits (bound - 1) .tooLarge 0 digits).map Int.ofNat

/-- What the digits stand for when there is no limit. -/
def digitsValue (value : Nat) (digits : List Char) : Nat :=
  digits.foldl (fun value character => value * 10 + digitOffset character) value

theorem le_digitsValue (value : Nat) (digits : List Char) : value ≤ digitsValue value digits := by
  induction digits generalizing value with
  | nil => exact Nat.le_refl _
  | cons character rest ih =>
    exact Nat.le_trans (show value ≤ value * 10 + digitOffset character by omega) (ih _)

/-- Reading succeeds exactly on digits whose value is within the limit. -/
theorem readDigits_eq_ok_iff {limit : Nat} {overflow : IntegerError} {value result : Nat}
    {digits : List Char} (within : value ≤ limit) :
    readDigits limit overflow value digits = .ok result ↔
      (∀ character ∈ digits, character.isDigit = true) ∧
        result = digitsValue value digits ∧ result ≤ limit := by
  induction digits generalizing value with
  | nil =>
    simp only [readDigits, digitsValue, List.foldl_nil, List.not_mem_nil, false_implies,
      implies_true, true_and, Except.ok.injEq]
    omega
  | cons character rest ih =>
    cases digit : character.isDigit with
    | false => simp [readDigits, digitValue?, digit]
    | true =>
      have grows := le_digitsValue (value * 10 + digitOffset character) rest
      simp only [readDigits, digitValue?, digit, if_true, List.forall_mem_cons, true_and]
      change _ ↔ _ ∧ result = digitsValue (value * 10 + digitOffset character) rest ∧ _
      split
      · rename_i beyond
        constructor
        · intro impossible
          exact absurd impossible (by simp)
        · intro ⟨_, same, small⟩
          omega
      · exact ih (by omega)

end Curator.Text
