import OpServer.BigEndianWords
import Mathlib.Data.List.TakeWhile

/-!
# Decimal numerals and strtol

A numeral is white space, a sign and decimal digits, of which only the digits
have to be there.  A scan takes the longest numeral that a text begins with.
`strtol` of ISO C, in base 10, converts what the scan takes and reports numbers
outside of a 64-bit `long` in `errno`.
-/

namespace OpServer

namespace Decimal

/-! ## Runs of characters of one kind -/

section Runs

variable {α : Type*} {kind : α → Bool} {run rest : List α}

/-- A text does not go on with a character of the kind. -/
def Stops (kind : α → Bool) (text : List α) : Prop :=
  ∀ character ∈ text.head?, kind character = false

theorem takeWhile_of_stops (stops : Stops kind rest) : rest.takeWhile kind = [] := by
  cases rest with
  | nil => rfl
  | cons character rest =>
      exact List.takeWhile_cons_of_neg (by simp [stops character rfl])

theorem dropWhile_of_stops (stops : Stops kind rest) : rest.dropWhile kind = rest := by
  cases rest with
  | nil => rfl
  | cons character rest =>
      exact List.dropWhile_cons_of_neg (by simp [stops character rfl])

theorem takeWhile_append_of_stops (all : ∀ character ∈ run, kind character)
    (stops : Stops kind rest) : (run ++ rest).takeWhile kind = run := by
  rw [List.takeWhile_append_of_pos all, takeWhile_of_stops stops, List.append_nil]

theorem dropWhile_append_of_stops (all : ∀ character ∈ run, kind character)
    (stops : Stops kind rest) : (run ++ rest).dropWhile kind = rest := by
  rw [List.dropWhile_append_of_pos all, dropWhile_of_stops stops]

theorem stops_dropWhile (kind : α → Bool) (text : List α) :
    Stops kind (text.dropWhile kind) := by
  intro character first
  have stopped := List.head?_dropWhile_not kind text
  rw [Option.mem_def] at first
  rw [first] at stopped
  simpa using stopped

end Runs

/-! ## Numerals -/

/-- `isspace` of the locale "C" -/
def isSpace (character : Byte) : Bool :=
  character == 32 || decide (9 ≤ character.toNat ∧ character.toNat ≤ 13)

def isDigit (character : Byte) : Bool :=
  decide (48 ≤ character.toNat ∧ character.toNat ≤ 57)

def digitValue (character : Byte) : Nat :=
  character.toNat - 48

inductive Sign
  | none
  | plus
  | minus
  deriving DecidableEq

def Sign.text : Sign → List Byte
  | none => []
  | plus => [43]
  | minus => [45]

def Sign.apply (sign : Sign) (magnitude : Nat) : Int :=
  match sign with
  | none | plus => magnitude
  | minus => -magnitude

/-- The parts of a numeral. -/
structure Numeral where
  spaces : List Byte
  sign : Sign
  digits : List Byte
  spaces_isSpace : ∀ character ∈ spaces, isSpace character
  digits_isDigit : ∀ character ∈ digits, isDigit character
  digits_ne_nil : digits ≠ []

namespace Numeral

def text (numeral : Numeral) : List Byte :=
  numeral.spaces ++ (numeral.sign.text ++ numeral.digits)

def magnitude (numeral : Numeral) : Nat :=
  numeral.digits.foldl (fun number character => 10 * number + digitValue character) 0

/-- The integer that a numeral denotes. -/
def number (numeral : Numeral) : Int :=
  numeral.sign.apply numeral.magnitude

end Numeral

/-- A text is a numeral for the given integer, from its first character to its
last. -/
def Denotes (text : List Byte) (number : Int) : Prop :=
  ∃ numeral : Numeral, numeral.text = text ∧ numeral.number = number

/-! ## Scanning -/

def splitSign : List Byte → Sign × List Byte
  | [] => (.none, [])
  | first :: rest =>
      if first = 43 then (.plus, rest)
      else if first = 45 then (.minus, rest)
      else (.none, first :: rest)

/-- The longest numeral that a text begins with, and the text behind it. -/
def scan (text : List Byte) : Option (Numeral × List Byte) :=
  let (sign, unsigned) := splitSign (text.dropWhile isSpace)
  if digits : unsigned.takeWhile isDigit ≠ [] then
    some (
      { spaces := text.takeWhile isSpace
        sign := sign
        digits := unsigned.takeWhile isDigit
        spaces_isSpace := fun _ member => List.mem_takeWhile_imp member
        digits_isDigit := fun _ member => List.mem_takeWhile_imp member
        digits_ne_nil := digits },
      unsigned.dropWhile isDigit)
  else none

/-! ## What a scan takes -/

theorem isSpace_of_isDigit {character : Byte} (digit : isDigit character) :
    isSpace character = false := by
  simp only [isDigit, decide_eq_true_eq] at digit
  have other : character ≠ 32 := by
    rintro rfl
    exact absurd digit (by decide)
  simp only [isSpace, Bool.or_eq_false_iff, beq_eq_false_iff_ne, decide_eq_false_iff_not]
  exact ⟨other, by omega⟩

theorem text_of_splitSign {text unsigned : List Byte} {sign : Sign}
    (split : splitSign text = (sign, unsigned)) : text = sign.text ++ unsigned := by
  cases text with
  | nil =>
      cases split
      rfl
  | cons first rest =>
      rw [splitSign] at split
      split_ifs at split with plus minus
      · cases split
        rw [plus]
        rfl
      · cases split
        rw [minus]
        rfl
      · cases split
        rfl

theorem splitSign_text (sign : Sign) {unsigned : List Byte} {first : Byte}
    (starts : unsigned.head? = some first) (digit : isDigit first) :
    splitSign (sign.text ++ unsigned) = (sign, unsigned) := by
  cases sign with
  | plus => rfl
  | minus => rfl
  | none =>
      obtain ⟨rest, rfl⟩ := List.head?_eq_some_iff.mp starts
      have notPlus : first ≠ 43 := by
        rintro rfl
        exact absurd digit (by decide)
      have notMinus : first ≠ 45 := by
        rintro rfl
        exact absurd digit (by decide)
      change splitSign (first :: rest) = _
      rw [splitSign, if_neg notPlus, if_neg notMinus]

namespace Numeral

variable (numeral : Numeral)

theorem exists_first_digit : ∃ first, numeral.digits.head? = some first ∧ isDigit first := by
  obtain ⟨first, rest, digits⟩ := List.exists_cons_of_ne_nil numeral.digits_ne_nil
  refine ⟨first, by rw [digits, List.head?_cons], ?_⟩
  apply numeral.digits_isDigit
  rw [digits]
  exact List.mem_cons_self

theorem stops_isSpace (rest : List Byte) :
    Stops isSpace (numeral.sign.text ++ (numeral.digits ++ rest)) := by
  obtain ⟨first, starts, digit⟩ := numeral.exists_first_digit
  intro character found
  cases signEq : numeral.sign with
  | none =>
      rw [signEq, Sign.text, List.nil_append, List.head?_append, starts, Option.some_or,
        Option.mem_some_iff] at found
      rw [← found]
      exact isSpace_of_isDigit digit
  | plus =>
      rw [signEq] at found
      cases found
      decide
  | minus =>
      rw [signEq] at found
      cases found
      decide

end Numeral

/-- A scan takes a numeral if the text behind it does not begin with a digit. -/
theorem scan_eq_some_iff {text rest : List Byte} {numeral : Numeral} :
    scan text = some (numeral, rest) ↔ text = numeral.text ++ rest ∧ Stops isDigit rest := by
  constructor
  · intro scanned
    obtain ⟨sign, unsigned, split⟩ :
        ∃ sign unsigned, splitSign (text.dropWhile isSpace) = (sign, unsigned) := ⟨_, _, rfl⟩
    simp only [scan, split] at scanned
    split_ifs at scanned with digits
    cases scanned
    refine ⟨?_, stops_dropWhile isDigit unsigned⟩
    calc text = text.takeWhile isSpace ++ text.dropWhile isSpace :=
          List.takeWhile_append_dropWhile.symm
      _ = text.takeWhile isSpace ++ (sign.text ++
            (unsigned.takeWhile isDigit ++ unsigned.dropWhile isDigit)) := by
          rw [text_of_splitSign split, List.takeWhile_append_dropWhile]
      _ = _ := by simp only [Numeral.text, List.append_assoc]
  · rintro ⟨rfl, stops⟩
    obtain ⟨first, starts, digit⟩ := numeral.exists_first_digit
    have spaces := takeWhile_append_of_stops numeral.spaces_isSpace (numeral.stops_isSpace rest)
    have unspaced := dropWhile_append_of_stops numeral.spaces_isSpace (numeral.stops_isSpace rest)
    have split : splitSign (numeral.sign.text ++ (numeral.digits ++ rest)) =
        (numeral.sign, numeral.digits ++ rest) := by
      apply splitSign_text numeral.sign _ digit
      rw [List.head?_append, starts, Option.some_or]
    have digits := takeWhile_append_of_stops numeral.digits_isDigit stops
    have behind := dropWhile_append_of_stops numeral.digits_isDigit stops
    simp only [scan, Numeral.text, List.append_assoc, spaces, unspaced, split, digits, behind]
    rw [dif_pos numeral.digits_ne_nil]

theorem scan_text (numeral : Numeral) : scan numeral.text = some (numeral, []) :=
  scan_eq_some_iff.mpr ⟨(List.append_nil _).symm, fun _ found => by cases found⟩

theorem Numeral.text_injective : Function.Injective Numeral.text := by
  intro first second same
  have scanned := scan_text first
  rw [same, scan_text, Option.some.injEq, Prod.mk.injEq] at scanned
  exact scanned.1.symm

theorem Denotes.unique {text : List Byte} {first second : Int} (left : Denotes text first)
    (right : Denotes text second) : first = second := by
  obtain ⟨numeral, rfl, rfl⟩ := left
  obtain ⟨other, same, rfl⟩ := right
  rw [Numeral.text_injective same]

theorem denotes_iff_scan {text : List Byte} {number : Int} :
    Denotes text number ↔ ∃ numeral, scan text = some (numeral, []) ∧ numeral.number = number := by
  constructor
  · rintro ⟨numeral, rfl, value⟩
    exact ⟨numeral, scan_text numeral, value⟩
  · rintro ⟨numeral, scanned, value⟩
    have same := (scan_eq_some_iff.mp scanned).1
    rw [List.append_nil] at same
    exact ⟨numeral, same.symm, value⟩

example : Denotes [32, 45, 48, 49, 50] (-12) :=
  denotes_iff_scan.mpr ⟨_, rfl, by decide⟩

theorem not_denotes_nil (number : Int) : ¬Denotes [] number := by
  rw [denotes_iff_scan]
  rintro ⟨numeral, scanned, -⟩
  cases scanned

/-! ## Conversion -/

/-- The characters of a string, without the NUL behind them. -/
structure CString where
  bytes : List Byte
  noNul : 0 ∉ bytes

/-- The character at a place in a string, given by what is left from there on. -/
def deref (place : List Byte) : Byte :=
  place.headD 0

/-- The result of `strtol`: the number, the text behind it, and `errno`. -/
structure Conversion where
  number : Int
  endptr : List Byte
  errno : Nat

def LONG_MAX : Int := 2 ^ 63 - 1

def LONG_MIN : Int := -2 ^ 63

def ERANGE : Nat := 34

/-- `strtol(nptr, &endptr, 10)`, with the `errno` that it finds -/
def strtol (errno : Nat) (nptr : List Byte) : Conversion :=
  match scan nptr with
  | none => ⟨0, nptr, errno⟩
  | some (numeral, endptr) =>
      if LONG_MAX < numeral.number then ⟨LONG_MAX, endptr, ERANGE⟩
      else if numeral.number < LONG_MIN then ⟨LONG_MIN, endptr, ERANGE⟩
      else ⟨numeral.number, endptr, errno⟩

theorem CString.deref_eq_zero_iff (string : CString) {place : List Byte}
    (inside : place <:+ string.bytes) : deref place = 0 ↔ place = [] := by
  cases place with
  | nil => exact iff_of_true rfl rfl
  | cons character rest =>
      have member : character ∈ string.bytes := inside.subset List.mem_cons_self
      have nonzero : character ≠ 0 := fun zero => string.noNul (zero ▸ member)
      exact iff_of_false nonzero (List.cons_ne_nil character rest)

section Strtol

variable (errno : Nat) {nptr : List Byte}

theorem strtol_endptr_of_scan {numeral : Numeral} {endptr : List Byte}
    (scanned : scan nptr = some (numeral, endptr)) : (strtol errno nptr).endptr = endptr := by
  simp only [strtol, scanned]
  split_ifs <;> rfl

theorem strtol_of_no_numeral (nothing : scan nptr = none) :
    strtol errno nptr = ⟨0, nptr, errno⟩ := by
  simp only [strtol, nothing]

theorem strtol_endptr_suffix (nptr : List Byte) : (strtol errno nptr).endptr <:+ nptr := by
  cases scanned : scan nptr with
  | none =>
      refine ⟨[], ?_⟩
      rw [List.nil_append, strtol_of_no_numeral errno scanned]
  | some taken =>
      obtain ⟨numeral, endptr⟩ := taken
      rw [strtol_endptr_of_scan errno scanned]
      exact ⟨numeral.text, (scan_eq_some_iff.mp scanned).1.symm⟩

/-- A numeral is converted, up to the limits of `long`. -/
theorem strtol_of_denotes {number : Int} (denotes : Denotes nptr number) :
    strtol errno nptr =
      if LONG_MAX < number then ⟨LONG_MAX, [], ERANGE⟩
      else if number < LONG_MIN then ⟨LONG_MIN, [], ERANGE⟩
      else ⟨number, [], errno⟩ := by
  obtain ⟨numeral, scanned, rfl⟩ := denotes_iff_scan.mp denotes
  simp only [strtol, scanned]

/-- Only a numeral, or the empty text, is converted to its end. -/
theorem strtol_endptr_eq_nil_iff :
    (strtol errno nptr).endptr = [] ↔ nptr = [] ∨ ∃ number, Denotes nptr number := by
  cases scanned : scan nptr with
  | none =>
      rw [strtol_of_no_numeral errno scanned]
      apply Iff.symm
      apply or_iff_left
      rintro ⟨number, denotes⟩
      obtain ⟨numeral, taken, -⟩ := denotes_iff_scan.mp denotes
      rw [scanned] at taken
      cases taken
  | some taken =>
      obtain ⟨numeral, endptr⟩ := taken
      rw [strtol_endptr_of_scan errno scanned]
      constructor
      · rintro rfl
        exact .inr ⟨numeral.number, denotes_iff_scan.mpr ⟨numeral, scanned, rfl⟩⟩
      · rintro (rfl | ⟨number, denotes⟩)
        · cases scanned
        · obtain ⟨other, whole, -⟩ := denotes_iff_scan.mp denotes
          rw [scanned, Option.some.injEq, Prod.mk.injEq] at whole
          exact whole.2

end Strtol

end Decimal

end OpServer
