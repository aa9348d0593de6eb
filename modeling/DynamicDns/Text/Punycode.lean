/-!
# Punycode

A label with characters beyond ASCII has a form in ASCII: its ASCII characters, a hyphen if there are
any, and then a number for each other character, by increasing scalar. A number counts the places and
scalars that are passed over since the last one. It is written in digits of base 36, least first; a
digit below the threshold of its place ends the number, and the thresholds follow the size of the
numbers so far.
-/

namespace DynamicDns.Punycode

/-! ### Numbers -/

/-- The digit of a value below 36. -/
def digit (n : Nat) : Char := if n < 26 then Char.ofNat (97 + n) else Char.ofNat (22 + n)

/-- The value of a digit, in any case. -/
def value? (c : Char) : Option Nat :=
  if c.isLower then some (c.toNat - 97)
  else if c.isUpper then some (c.toNat - 65)
  else if c.isDigit then some (c.toNat - 22)
  else none

/-- The threshold of a place. Places are counted in steps of 36. -/
def threshold (bias place : Nat) : Nat :=
  if place ≤ bias then 1 else if bias + 26 ≤ place then 26 else place - bias

theorem threshold_pos (bias place : Nat) : 0 < threshold bias place := by
  unfold threshold
  split
  · omega
  · split <;> omega

def numberFrom (bias place number : Nat) : List Char :=
  let least := threshold bias place
  if number < least then [digit number]
  else
    digit (least + (number - least) % (36 - least)) ::
      numberFrom bias (place + 36) ((number - least) / (36 - least))
termination_by number
decreasing_by
  have least_pos := threshold_pos bias place
  have quotient_le := Nat.div_le_self (number - threshold bias place) (36 - threshold bias place)
  omega

/-- Reads a number from a place on, where a digit has a weight, and shows what follows it. -/
def readNumber? (bias place weight number : Nat) : List Char → Option (Nat × List Char)
  | [] => none
  | c :: rest => do
    let value ← value? c
    let least := threshold bias place
    let number := number + value * weight
    if value < least then some (number, rest)
    else readNumber? bias (place + 36) (weight * (36 - least)) number rest

theorem length_lt_of_readNumber? {bias place weight number found : Nat} {text rest : List Char}
    (h : readNumber? bias place weight number text = some (found, rest)) :
    rest.length < text.length := by
  induction text generalizing place weight number with
  | nil => simp [readNumber?] at h
  | cons c tail ih =>
    simp only [readNumber?, Option.bind_eq_bind, Option.bind_eq_some_iff] at h
    obtain ⟨value, -, h⟩ := h
    split at h
    · simp only [Option.some.injEq, Prod.mk.injEq] at h
      simp [← h.2]
    · exact Nat.lt_succ_of_lt (ih h)

/-- Divides a number until it is small, counting the places that this stands for. -/
def reduce (number places : Nat) : Nat × Nat :=
  if 455 < number then reduce (number / 35) (places + 36) else (number, places)
termination_by number
decreasing_by exact Nat.div_lt_self (by omega) (by omega)

/-- The bias after a number by which so many characters are placed. -/
def adapt (number count : Nat) (first : Bool) : Nat :=
  let start := if first then number / 700 else number / 2
  let (rest, places) := reduce (start + start / count) 0
  places + 36 * rest / (rest + 38)

/-- The bias in front of the first number. -/
def firstBias : Nat := 72

/-- The first scalar beyond ASCII. -/
def firstScalar : Nat := 128

/-! ### Writing -/

/-- The state of a writer: how much was passed over since the last number, the bias, how many
characters are placed, and what is written. -/
structure Writer where
  passed : Nat
  bias : Nat
  placed : Nat
  first : Bool
  written : List Char

/-- Goes past a character of the label while characters of one scalar are placed. -/
def Writer.pass (scalar : Nat) (writer : Writer) (c : Char) : Writer :=
  if c.toNat < scalar then { writer with passed := writer.passed + 1 }
  else if c.toNat = scalar then
    { passed := 0
      bias := adapt writer.passed (writer.placed + 1) writer.first
      placed := writer.placed + 1
      first := false
      written := writer.written ++ numberFrom writer.bias 36 writer.passed }
  else writer

/-- Places the characters of each scalar in turn, from a scalar on. -/
def Writer.place (label : List Char) : List Nat → Nat → Writer → Writer
  | [], _, writer => writer
  | scalar :: later, start, writer =>
    let reached := writer.passed + (scalar - start) * (writer.placed + 1)
    let after := label.foldl (Writer.pass scalar) { writer with passed := reached }
    Writer.place label later (scalar + 1) { after with passed := after.passed + 1 }

/-- The scalars beyond ASCII of a label, each once, in increasing order. -/
def scalars (label : List Char) : List Nat :=
  (((label.map Char.toNat).filter (firstScalar ≤ ·)).mergeSort).eraseDups

def encode (label : List Char) : List Char :=
  let plain := label.filter (·.toNat < firstScalar)
  let start := plain ++ (if plain.isEmpty then [] else ['-'])
  (Writer.place label (scalars label) firstScalar
    ⟨0, firstBias, plain.length, true, start⟩).written

/-! ### Reading -/

/-- Places characters as the numbers say, from a position and a scalar on. -/
def readPlaces (bias position scalar : Nat) (first : Bool) (label text : List Char) :
    Option (List Char) :=
  if text = [] then some label
  else
    match _found : readNumber? bias 36 1 position text with
    | none => none
    | some (reached, rest) =>
      let count := label.length + 1
      let next := scalar + reached / count
      let place := reached % count
      if next.isValidChar then
        readPlaces (adapt (reached - position) count first) (place + 1) next false
          (label.take place ++ Char.ofNat next :: label.drop place) rest
      else none
termination_by text.length
decreasing_by exact length_lt_of_readNumber? _found

def decode? (text : List Char) : Option (List Char) :=
  let numbers := (text.reverse.takeWhile (· ≠ '-')).reverse
  let plain := text.take (text.length - numbers.length - 1)
  readPlaces firstBias 0 firstScalar true plain numbers

end DynamicDns.Punycode
