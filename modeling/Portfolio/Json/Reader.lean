/-
  File:      Portfolio/Json/Reader.lean
  Subject:   Reading a JSON document.

  * `read`: the value of a document, or the first fault and where it lies.
  * Between values stand spaces, tabs, newlines and carriage returns only.
  * Beyond the standard, `NaN`, `Infinity` and `-Infinity` are numbers.
  * A number with a point or an exponent is a floating-point number; any
    other is an integer of at most 4300 digits.
  * Each reading step returns what it leaves unread together with the fact
    that it is shorter, so that the reader ends on every document.
-/
import Portfolio.Json.Value
import Portfolio.Text.Digit

namespace Portfolio.Json

/-! ## 1. Faults -/

/-- What is wrong with a document at some place. -/
inductive Fault where
  | byteOrderMark
  | noValue
  | noName
  | noColon
  | noComma
  | unterminated
  | controlCharacter
  | badEscape
  | badUnicodeEscape
  | extraData
  deriving DecidableEq, Repr

/-- The words for a fault. -/
def Fault.message : Fault → String
  | .byteOrderMark => "Unexpected UTF-8 BOM (decode using utf-8-sig)"
  | .noValue => "Expecting value"
  | .noName => "Expecting property name enclosed in double quotes"
  | .noColon => "Expecting ':' delimiter"
  | .noComma => "Expecting ',' delimiter"
  | .unterminated => "Unterminated string starting at"
  | .controlCharacter => "Invalid control character at"
  | .badEscape => "Invalid \\escape"
  | .badUnicodeEscape => "Invalid \\uXXXX escape"
  | .extraData => "Extra data"

/-- Why reading stops: a fault, with the text from its place on, or an
    integer of too many digits. -/
inductive Stop where
  | fault (what : Fault) (unread : List Char)
  | longInteger
  deriving DecidableEq, Repr

/-- What a reading step takes from `s`, and what it leaves. -/
structure Taken (α : Type) (s : List Char) where
  value : α
  unread : List Char
  shorter : unread.length < s.length

/-! ## 2. Blanks -/

/-- The characters that may stand between values. -/
def isJsonBlank (c : Char) : Bool :=
  c = ' ' || c = '\t' || c = '\n' || c = '\r'

/-- The text from its first character that is no blank. -/
def skip (s : List Char) : List Char :=
  s.dropWhile isJsonBlank

theorem length_skip_le (s : List Char) : (skip s).length ≤ s.length :=
  (List.dropWhile_suffix _).length_le

/-- What follows the mark `c`, if it is the next character that is no
    blank. -/
def after? (c : Char) (s : List Char) : Option (Taken Unit s) :=
  match h : skip s with
  | [] => none
  | d :: rest =>
    if d = c then
      some ⟨(), rest, by have := length_skip_le s; simp [h] at this; omega⟩
    else none

/-! ## 3. Texts -/

/-- The value of a hexadecimal digit. -/
def hexDigit? (c : Char) : Option Nat :=
  if '0' ≤ c ∧ c ≤ '9' then some (c.toNat - 48)
  else if 'a' ≤ c ∧ c ≤ 'f' then some (c.toNat - 87)
  else if 'A' ≤ c ∧ c ≤ 'F' then some (c.toNat - 55)
  else none

/-- The number that four hexadecimal digits write. -/
def hexValue? (a b c d : Char) : Option Nat :=
  match hexDigit? a, hexDigit? b, hexDigit? c, hexDigit? d with
  | some w, some x, some y, some z => some (((w * 16 + x) * 16 + y) * 16 + z)
  | _, _, _, _ => none

/-- The character that a short escape stands for. -/
def shortEscape? : Char → Option Char
  | '"' => some '"'
  | '\\' => some '\\'
  | '/' => some '/'
  | 'b' => some '\x08'
  | 'f' => some '\x0c'
  | 'n' => some '\n'
  | 'r' => some '\r'
  | 't' => some '\t'
  | _ => none

/-- The first of a pair of units that together write one character. -/
def isHighUnit (n : Nat) : Bool :=
  0xd800 ≤ n && n ≤ 0xdbff

/-- The second of such a pair. -/
def isLowUnit (n : Nat) : Bool :=
  0xdc00 ≤ n && n ≤ 0xdfff

/-- The character that a pair of units writes. -/
def pairedUnits (high low : Nat) : Char :=
  Char.ofNat (0x10000 + (high - 0xd800) * 0x400 + (low - 0xdc00))

/-- The low unit that follows a high one, with what comes after it. Digits
    that are not hexadecimal are a fault even here; at least one character
    has to follow the escape. -/
def lowUnit? (s : List Char) : Except Stop (Option (Taken Nat s)) :=
  match s with
  | '\\' :: 'u' :: a :: b :: c :: d :: e :: rest =>
    match hexValue? a b c d with
    | none => .error (.fault .badUnicodeEscape ('u' :: a :: b :: c :: d :: e :: rest))
    | some n =>
      if isLowUnit n then .ok (some ⟨n, e :: rest, by simp⟩) else .ok none
  | _ => .ok none

/-- One character after the backslash of an escape. `whole` is the text
    from the backslash on, `opening` the text from the quote that opens. The
    half of a pair that stands alone is no character, so that it cannot be
    kept in a text here: `Char.ofNat` reads it as U+0000. -/
def readEscape (opening whole s : List Char) : Except Stop (Taken Char s) :=
  match s with
  | [] => .error (.fault .unterminated opening)
  | 'u' :: a :: b :: c :: d :: e :: rest =>
    match hexValue? a b c d with
    | none => .error (.fault .badUnicodeEscape s)
    | some n =>
      if isHighUnit n then do
        match ← lowUnit? (e :: rest) with
        | some low =>
          have := low.shorter
          return ⟨pairedUnits n low.value, low.unread, by simp at this ⊢; omega⟩
        | none => return ⟨Char.ofNat n, e :: rest, by simp⟩
      else .ok ⟨Char.ofNat n, e :: rest, by simp⟩
  | 'u' :: _ => .error (.fault .badUnicodeEscape s)
  | c :: rest =>
    match shortEscape? c with
    | some image => .ok ⟨image, rest, by simp⟩
    | none => .error (.fault .badEscape whole)

/-- The characters up to the closing quote, given those read so far in
    reverse. -/
def readText (opening done s : List Char) : Except Stop (Taken String s) :=
  match s with
  | [] => .error (.fault .unterminated opening)
  | '"' :: rest => .ok ⟨String.ofList done.reverse, rest, by simp⟩
  | '\\' :: rest => do
    let e ← readEscape opening ('\\' :: rest) rest
    have := e.shorter
    let t ← readText opening (e.value :: done) e.unread
    have := t.shorter
    return ⟨t.value, t.unread, by simp; omega⟩
  | c :: rest =>
    if c.toNat < 0x20 then .error (.fault .controlCharacter (c :: rest))
    else do
      let t ← readText opening (c :: done) rest
      have := t.shorter
      return ⟨t.value, t.unread, by simp; omega⟩
termination_by s.length

/-! ## 4. Numbers -/

/-- An ASCII digit. -/
def isDigit (c : Char) : Bool :=
  '0' ≤ c && c ≤ '9'

/-- The number that ASCII digits write. -/
def digitsNumber (digits : List Char) : Nat :=
  Text.digitsValue (digits.map fun c => c.toNat - 48)

/-- The digits after a point, if a point with a digit comes next. -/
def fraction : List Char → List Char
  | '.' :: rest => rest.takeWhile isDigit
  | _ => []

/-- The sign and the digits of an exponent, if one comes next. -/
def exponent : List Char → List Char × List Char
  | [] => ([], [])
  | e :: rest =>
    if e = 'e' ∨ e = 'E' then
      let sign := rest.takeWhile fun c => c = '+' || c = '-'
      let sign := sign.take 1
      (sign, (rest.drop sign.length).takeWhile isDigit)
    else ([], [])

/-- The value of a number and how many characters of `s` write it, from
    the first digit on. A leading zero stands alone. -/
def numberAt? (negative : Bool) (s : List Char) : Option (Except Stop Value × Nat) :=
  let whole := if s.head? = some '0' then ['0'] else s.takeWhile isDigit
  if whole.isEmpty then none
  else
    let afterWhole := s.drop whole.length
    let places := fraction afterWhole
    let pointed := if places.isEmpty then 0 else places.length + 1
    let (sign, power) := exponent (afterWhole.drop pointed)
    let powered := if power.isEmpty then 0 else 1 + sign.length + power.length
    let size := whole.length + pointed + powered
    if pointed = 0 ∧ powered = 0 then
      if integerLimit < whole.length then some (.error .longInteger, size)
      else
        let n : Int := digitsNumber whole
        some (.ok (.int (if negative then -n else n)), size)
    else
      let power : Int := if powered = 0 then 0 else digitsNumber power
      let power := if sign = ['-'] then -power else power
      some (.ok (.float
        (Binary64.ofDecimal negative (digitsNumber (whole ++ places)) (power - places.length))),
        size)

/-- The words that are values. -/
def wordValues : List (List Char × Value) :=
  [("null".toList, .null), ("true".toList, .bool true), ("false".toList, .bool false),
   ("NaN".toList, .float .notANumber), ("Infinity".toList, .float (.infinite false)),
   ("-Infinity".toList, .float (.infinite true))]

/-- A value that is one word, with the length of the word. -/
def wordAt? (s : List Char) : Option (Value × Nat) :=
  (wordValues.find? fun w => w.1.isPrefixOf s).map fun w => (w.2, w.1.length)

/-- A value that is neither a text nor a list nor an object. -/
def readScalar (s : List Char) : Except Stop (Taken Value s) :=
  let found : Option (Except Stop Value × Nat) :=
    match wordAt? s with
    | some (v, size) => some (.ok v, size)
    | none =>
      match s with
      | '-' :: rest => (numberAt? true rest).map fun n => (n.1, n.2 + 1)
      | _ => numberAt? false s
  match found with
  | none => .error (.fault .noValue s)
  | some (.error e, _) => .error e
  | some (.ok v, size) =>
    if h : 0 < size ∧ 0 < s.length then .ok ⟨v, s.drop size, by simp; omega⟩
    else .error (.fault .noValue s)

/-! ## 5. Values -/

mutual

/-- A value that starts right here. -/
def readValue (s : List Char) : Except Stop (Taken Value s) :=
  match s with
  | '"' :: rest => do
    let t ← readText ('"' :: rest) [] rest
    have := t.shorter
    return ⟨.text t.value, t.unread, by simp; omega⟩
  | '[' :: rest =>
    match after? ']' rest with
    | some closed => .ok ⟨.list [], closed.unread, by have := closed.shorter; simp; omega⟩
    | none => do
      have := length_skip_le rest
      let t ← readItems [] (skip rest)
      have := t.shorter
      return ⟨.list t.value, t.unread, by simp; omega⟩
  | '{' :: rest =>
    match after? '}' rest with
    | some closed => .ok ⟨.object [], closed.unread, by have := closed.shorter; simp; omega⟩
    | none => do
      have := length_skip_le rest
      let t ← readFields [] (skip rest)
      have := t.shorter
      return ⟨.object t.value, t.unread, by simp; omega⟩
  | s => readScalar s
termination_by 2 * s.length
decreasing_by all_goals (simp at *; omega)

/-- The items of a list up to its closing bracket, given those read so far
    in reverse. -/
def readItems (done : List Value) (s : List Char) : Except Stop (Taken (List Value) s) := do
  let v ← readValue s
  have := v.shorter
  match after? ']' v.unread with
  | some closed =>
    return ⟨(v.value :: done).reverse, closed.unread, by have := closed.shorter; omega⟩
  | none =>
    match after? ',' v.unread with
    | none => .error (.fault .noComma (skip v.unread))
    | some comma =>
      have := comma.shorter
      have := length_skip_le comma.unread
      let t ← readItems (v.value :: done) (skip comma.unread)
      have := t.shorter
      return ⟨t.value, t.unread, by omega⟩
termination_by 2 * s.length + 1
decreasing_by all_goals omega

/-- The fields of an object up to its closing brace, given those read so
    far. -/
def readFields (done : Fields) (s : List Char) : Except Stop (Taken Fields s) :=
  match s with
  | '"' :: rest => do
    let name ← readText ('"' :: rest) [] rest
    have := name.shorter
    match after? ':' name.unread with
    | none => .error (.fault .noColon (skip name.unread))
    | some colon =>
      have := colon.shorter
      have := length_skip_le colon.unread
      let v ← readValue (skip colon.unread)
      have := v.shorter
      let fields := done.put name.value v.value
      match after? '}' v.unread with
      | some closed =>
        return ⟨fields, closed.unread, by have := closed.shorter; simp; omega⟩
      | none =>
        match after? ',' v.unread with
        | none => .error (.fault .noComma (skip v.unread))
        | some comma =>
          have := comma.shorter
          have := length_skip_le comma.unread
          let t ← readFields fields (skip comma.unread)
          have := t.shorter
          return ⟨t.value, t.unread, by simp; omega⟩
  | other => .error (.fault .noName other)
termination_by 2 * s.length + 1
decreasing_by all_goals (simp at *; omega)

end

/-- The value of a whole document. -/
def read (document : List Char) : Except Stop Value :=
  match document with
  | '\ufeff' :: _ => .error (.fault .byteOrderMark document)
  | _ => do
    let v ← readValue (skip document)
    match skip v.unread with
    | [] => return v.value
    | other => .error (.fault .extraData other)

/-! ## 6. Places -/

/-- A place in a document: the offset, and the line and the column, both
    from one. -/
structure Place where
  offset : Nat
  line : Nat
  column : Nat
  deriving DecidableEq, Repr

/-- The place where the unread text of a document begins. -/
def placeOf (document unread : List Char) : Place :=
  let before := document.take (document.length - unread.length)
  { offset := before.length
    line := before.count '\n' + 1
    column := (before.reverse.takeWhile (· != '\n')).length + 1 }

end Portfolio.Json
