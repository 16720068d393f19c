import MonkeyScan.Text.Hex
import MonkeyScan.Toml.Fault
import MonkeyScan.Toml.Table

/-!
# `MonkeyScan.Toml.Scalar`: reading keys, strings, numbers and dates

Each reader looks at the front of a text and gives what it found with the
rest. A reader whose name ends in `?` answers `none` where its kind of value
does not start; the others fail with the reason.
-/

set_option autoImplicit false

namespace MonkeyScan.Toml

/-- What a reader found, and the text after it. -/
abbrev Reading (α : Type) := Except Fault (α × Text)

/-! ### Characters -/

/-- Whether `c` separates words on one line. -/
def isSpace (c : Char) : Bool :=
  c == ' ' || c == '\t'

/-- Whether `c` may stand in a key without quotes. -/
def isBareKeyChar (c : Char) : Bool :=
  c.isAlphanum || c == '-' || c == '_'

/-- Whether `c` may stand nowhere on a line: a control character of ASCII other
than the tab. -/
def isForbidden (c : Char) : Bool :=
  (c.toNat < 0x20 && c != '\t') || c.toNat == 0x7f

/-- Drops spaces and tabs. -/
def skipSpaces (t : Text) : Text :=
  t.dropWhile isSpace

/-! ### Strings -/

/-- What stands for one character after a backslash. -/
def shortEscape? : Char → Option Char
  | 'b' => some (Char.ofNat 0x08)
  | 't' => some '\t'
  | 'n' => some '\n'
  | 'f' => some (Char.ofNat 0x0c)
  | 'r' => some '\r'
  | '"' => some '"'
  | '\\' => some '\\'
  | _ => none

/-- The character whose code point has given hexadecimal digits. -/
def charOfHex? (digits : Text) : Option Char := do
  let n ← Text.hexNat? digits
  if n.isValidChar then some (Char.ofNat n) else none

/-- Puts a character, which may be missing, in front of a reading. -/
def Reading.cons (c : Option Char) (reading : Reading Text) : Reading Text :=
  match c, reading with
  | none, _ => .error .badEscape
  | some c, .ok (t, rest) => .ok (c :: t, rest)
  | some _, .error f => .error f

/-- A string on one line with escapes, after its opening quote. -/
def basicString : Text → Reading Text
  | [] => .error .unterminatedString
  | '"' :: rest => .ok ([], rest)
  | '\\' :: 'u' :: a :: b :: c :: d :: rest =>
    Reading.cons (charOfHex? [a, b, c, d]) (basicString rest)
  | '\\' :: 'U' :: a :: b :: c :: d :: e :: f :: g :: h :: rest =>
    Reading.cons (charOfHex? [a, b, c, d, e, f, g, h]) (basicString rest)
  | '\\' :: c :: rest => Reading.cons (shortEscape? c) (basicString rest)
  | c :: rest =>
    if isForbidden c then .error .controlCharacter else Reading.cons (some c) (basicString rest)

/-- A string on several lines with escapes, after its opening quotes. A
backslash at the end of a line drops the blanks and line breaks that follow;
`dropping` tells that this is under way. Up to two quotes may stand before the
closing ones. -/
def basicLines (dropping : Bool) : Text → Reading Text
  | [] => .error .unterminatedString
  | '"' :: '"' :: '"' :: '"' :: '"' :: rest => .ok (['"', '"'], rest)
  | '"' :: '"' :: '"' :: '"' :: rest => .ok (['"'], rest)
  | '"' :: '"' :: '"' :: rest => .ok ([], rest)
  | '\\' :: 'u' :: a :: b :: c :: d :: rest =>
    Reading.cons (charOfHex? [a, b, c, d]) (basicLines false rest)
  | '\\' :: 'U' :: a :: b :: c :: d :: e :: f :: g :: h :: rest =>
    Reading.cons (charOfHex? [a, b, c, d, e, f, g, h]) (basicLines false rest)
  | '\\' :: c :: rest =>
    if (skipSpaces (c :: rest)).head? = some '\n' then basicLines true rest
    else Reading.cons (shortEscape? c) (basicLines false rest)
  | c :: rest =>
    if dropping && (isSpace c || c == '\n') then basicLines true rest
    else if isForbidden c && c != '\n' then .error .controlCharacter
    else Reading.cons (some c) (basicLines false rest)

/-- A string on one line without escapes, after its opening apostrophe. -/
def literalString : Text → Reading Text
  | [] => .error .unterminatedString
  | '\'' :: rest => .ok ([], rest)
  | c :: rest =>
    if isForbidden c then .error .controlCharacter else Reading.cons (some c) (literalString rest)

/-- A string on several lines without escapes, after its opening apostrophes.
Up to two apostrophes may stand before the closing ones. -/
def literalLines : Text → Reading Text
  | [] => .error .unterminatedString
  | '\'' :: '\'' :: '\'' :: '\'' :: '\'' :: rest => .ok (['\'', '\''], rest)
  | '\'' :: '\'' :: '\'' :: '\'' :: rest => .ok (['\''], rest)
  | '\'' :: '\'' :: '\'' :: rest => .ok ([], rest)
  | c :: rest =>
    if isForbidden c && c != '\n' then .error .controlCharacter
    else Reading.cons (some c) (literalLines rest)

/-- Drops one line feed, which may follow the opening quotes of a string on
several lines. -/
def dropLineFeed : Text → Text
  | '\n' :: rest => rest
  | t => t

/-- A string of any of the four kinds. -/
def string? : Text → Option (Reading Text)
  | '"' :: '"' :: '"' :: rest => some (basicLines false (dropLineFeed rest))
  | '"' :: rest => some (basicString rest)
  | '\'' :: '\'' :: '\'' :: rest => some (literalLines (dropLineFeed rest))
  | '\'' :: rest => some (literalString rest)
  | _ => none

/-! ### Keys -/

/-- One part of a key. -/
def keyPart : Text → Reading Text
  | '"' :: rest => basicString rest
  | '\'' :: rest => literalString rest
  | t =>
    let bare := t.takeWhile isBareKeyChar
    if bare.isEmpty then .error .keyExpected else .ok (bare, t.dropWhile isBareKeyChar)

/-- The parts of a key that follow a part, each behind a point. The number
bounds how many there are. -/
def keyParts : Nat → Text → Except Fault (KeyPath × Text)
  | 0, t => .ok ([], t)
  | fuel + 1, t =>
    match skipSpaces t with
    | '.' :: rest => do
      let (part, rest) ← keyPart (skipSpaces rest)
      let (parts, rest) ← keyParts fuel rest
      return (part :: parts, rest)
    | rest => .ok ([], rest)

/-- A key with all its parts, and the spaces after it. -/
def key (t : Text) : Except Fault (KeyPath × Text) := do
  let (part, rest) ← keyPart t
  let (parts, rest) ← keyParts rest.length rest
  return (part :: parts, rest)

/-! ### Numbers -/

/-- The digits of a run that has started, single underscores between them left
out. -/
def moreDigits (isDigit : Char → Bool) : Text → Text × Text
  | '_' :: d :: rest =>
    if isDigit d then
      let (digits, rest) := moreDigits isDigit rest
      (d :: digits, rest)
    else ([], '_' :: d :: rest)
  | d :: rest =>
    if isDigit d then
      let (digits, rest) := moreDigits isDigit rest
      (d :: digits, rest)
    else ([], d :: rest)
  | [] => ([], [])

/-- A run of at least one digit. -/
def digits? (isDigit : Char → Bool) : Text → Option (Text × Text)
  | d :: rest =>
    if isDigit d then
      let (digits, rest) := moreDigits isDigit rest
      some (d :: digits, rest)
    else none
  | [] => none

/-- An integer in base sixteen, eight or two, with the mark of its base. -/
def markedInteger? : Text → Option (Int × Text)
  | '0' :: 'x' :: rest => based 16 (fun c => (Text.hexValue? c).isSome) rest
  | '0' :: 'o' :: rest => based 8 (fun c => '0' ≤ c ∧ c ≤ '7') rest
  | '0' :: 'b' :: rest => based 2 (fun c => c == '0' || c == '1') rest
  | _ => none
where
  /-- The value of a run of digits in a base. -/
  based (base : Nat) (isDigit : Char → Bool) (t : Text) : Option (Int × Text) := do
    let (digits, rest) ← digits? isDigit t
    let value := digits.foldl (fun n c => base * n + (Text.hexValue? c).getD 0) 0
    return (value, rest)

/-- A sign: whether it is a minus, and the rest. -/
def sign : Text → Bool × Text
  | '-' :: rest => (true, rest)
  | '+' :: rest => (false, rest)
  | t => (false, t)

/-- The whole part of a decimal number. A leading zero stands alone. -/
def wholePart? : Text → Option (Text × Text)
  | '0' :: rest => some (['0'], rest)
  | t => digits? Char.isDigit t

/-- The digits after a point, none if there is no fraction. -/
def fraction : Text → Text × Text
  | '.' :: rest => (digits? Char.isDigit rest).getD ([], '.' :: rest)
  | t => ([], t)

/-- The exponent of a number, if there is one. -/
def exponent? : Text → Option (Int × Text)
  | e :: rest =>
    if e = 'e' ∨ e = 'E' then do
      let (negative, rest) := sign rest
      let (digits, rest) ← digits? Char.isDigit rest
      let n : Int := Nat.ofDigitChars 10 digits 0
      return (if negative then -n else n, rest)
    else none
  | [] => none

/-- A number in base ten: a float if it has a fraction or an exponent, else an
integer. -/
def decimal? (t : Text) : Option (Reading Value) := do
  let (negative, rest) := sign t
  let (whole, rest) ← wholePart? rest
  let (decimals, rest) := fraction rest
  let power := exponent? rest
  if decimals.isEmpty && power.isNone then
    if whole.length > maxDigits then return .error (.limit (.digitsToRead whole.length))
    let n : Int := Nat.ofDigitChars 10 whole 0
    return .ok (.integer (if negative then -n else n), rest)
  let (power, rest) := power.getD (0, rest)
  let digits := Nat.ofDigitChars 10 (whole ++ decimals) 0
  return .ok (.float (.ofDecimal negative digits (power - decimals.length)), rest)

/-- An infinity or a value that is not a number, by name. -/
def specialFloat? (t : Text) : Option (Value × Text) :=
  match sign t with
  | (negative, 'i' :: 'n' :: 'f' :: rest) => some (.float (.infinite negative), rest)
  | (_, 'n' :: 'a' :: 'n' :: rest) => some (.float .nan, rest)
  | _ => none

/-! ### Dates and times -/

/-- The number that a given count of digits makes. -/
def fixedDigits? (count : Nat) (t : Text) : Option (Nat × Text) :=
  let digits := t.take count
  if digits.length = count ∧ digits.all Char.isDigit then
    some (Nat.ofDigitChars 10 digits 0, t.drop count)
  else none

/-- A number of two digits between two bounds. -/
def twoDigits? (low high : Nat) (t : Text) : Option (Nat × Text) := do
  let (n, rest) ← fixedDigits? 2 t
  if low ≤ n ∧ n ≤ high then some (n, rest) else none

/-- One given character. -/
def mark? (c : Char) : Text → Option Text
  | d :: rest => if d = c then some rest else none
  | [] => none

/-- A date, which need not be in the calendar. -/
def date? (t : Text) : Option (Date × Text) := do
  let (year, t) ← fixedDigits? 4 t
  let t ← mark? '-' t
  let (month, t) ← twoDigits? 1 12 t
  let t ← mark? '-' t
  let (day, t) ← twoDigits? 1 31 t
  return (⟨year, month, day⟩, t)

/-- A time of day. Of the digits after the point six count. -/
def time? (t : Text) : Option (ClockTime × Text) := do
  let (hour, t) ← twoDigits? 0 23 t
  let t ← mark? ':' t
  let (minute, t) ← twoDigits? 0 59 t
  let t ← mark? ':' t
  let (second, t) ← twoDigits? 0 59 t
  match t with
  | '.' :: rest =>
    let digits := rest.takeWhile Char.isDigit
    if digits.isEmpty then return (⟨hour, minute, second, 0⟩, t)
    let six := digits.take 6 ++ List.replicate (6 - digits.length) '0'
    return (⟨hour, minute, second, Nat.ofDigitChars 10 six 0⟩, rest.dropWhile Char.isDigit)
  | _ => return (⟨hour, minute, second, 0⟩, t)

/-- An offset from universal time, in minutes. -/
def zone? : Text → Option (Int × Text)
  | c :: rest =>
    if c = 'Z' ∨ c = 'z' then some (0, rest)
    else if c = '+' ∨ c = '-' then do
      let (hours, t) ← twoDigits? 0 23 rest
      let t ← mark? ':' t
      let (minutes, t) ← twoDigits? 0 59 t
      let offset : Int := 60 * hours + minutes
      return (if c = '-' then -offset else offset, t)
    else none
  | [] => none

/-- A time of day behind a date. -/
def timeAfterDate? : Text → Option (ClockTime × Text)
  | c :: rest => if c = 'T' ∨ c = 't' ∨ c = ' ' then time? rest else none
  | [] => none

/-- A date, alone or with a time of day, with or without an offset; or a time
of day alone. -/
def calendarValue? (t : Text) : Option (Reading Value) :=
  match date? t with
  | some (d, rest) =>
    if !d.isValid then some (.error .noSuchDate)
    else
      match timeAfterDate? rest with
      | none => some (.ok (.date d, rest))
      | some (time, rest) =>
        match zone? rest with
        | none => some (.ok (.dateTime d time none, rest))
        | some (offset, rest) => some (.ok (.dateTime d time (some offset), rest))
  | none =>
    match time? t with
    | some (time, rest) => some (.ok (.time time, rest))
    | none => none

/-! ### All scalars -/

/-- A value that holds no others. -/
def scalar (t : Text) : Reading Value :=
  match string? t with
  | some (.ok (s, rest)) => .ok (.string s, rest)
  | some (.error f) => .error f
  | none =>
    match t with
    | 't' :: 'r' :: 'u' :: 'e' :: rest => .ok (.boolean true, rest)
    | 'f' :: 'a' :: 'l' :: 's' :: 'e' :: rest => .ok (.boolean false, rest)
    | _ =>
      match calendarValue? t with
      | some reading => reading
      | none =>
        match markedInteger? t with
        | some (n, rest) => .ok (.integer n, rest)
        | none =>
          match decimal? t with
          | some reading => reading
          | none =>
            match specialFloat? t with
            | some found => .ok found
            | none => .error .valueExpected

end MonkeyScan.Toml
