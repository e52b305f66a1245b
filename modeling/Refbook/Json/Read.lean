import Refbook.Json.Value
import Refbook.Json.Number

namespace Refbook

/-!
# Reading JSON

`Json.read` reads one JSON value and refuses anything after it but blanks.
An error names what went wrong and where, as a line and a column counted in
bytes from the start of the line (the column of a character that was only
looked at, not taken, is one past its first byte).

Whole numbers within 64 bits stay whole; `-0`, longer whole numbers and
numbers with a fraction or an exponent become doubles, as `Json.scaled`
makes them.  An object that repeats a key keeps the key's first place and
its last value.  Nesting is limited to 127 levels.
-/

namespace Json

/-- A syntax error: what, and the line and column where. -/
structure ReadError where
  code : String
  line : Nat
  column : Nat
  deriving Repr

/-- The error in words. -/
def ReadError.message (e : ReadError) : String :=
  e.code ++ " at line " ++ toString e.line ++ " column " ++ toString e.column

/-- Where reading stands: index of the next character, and its byte offset. -/
structure Cursor where
  index : Nat
  offset : Nat
  deriving Repr

/-- The text being read, with its bytes for positions. -/
structure Source where
  chars : Array Char
  bytes : ByteArray

namespace Source

def ofString (text : String) : Source :=
  { chars := text.toList.toArray, bytes := text.toUTF8 }

/-- The character at the cursor. -/
def peek (s : Source) (c : Cursor) : Option Char :=
  s.chars[c.index]?

/-- Step over the character at the cursor. -/
def advance (s : Source) (c : Cursor) : Cursor :=
  match s.peek c with
  | some ch => { index := c.index + 1, offset := c.offset + ch.utf8Size }
  | none => c

/-- Line and column of a byte offset. -/
def lineColumn (s : Source) (offset : Nat) : Nat × Nat :=
  let before := (s.bytes.extract 0 offset).toList
  let breaks := before.foldl (fun acc b => if b == 10 then acc + 1 else acc) 0
  let lineStart :=
    match (List.range before.length).reverse.find? (fun i => before[i]? == some 10) with
    | some i => i + 1
    | none => 0
  (breaks + 1, offset - lineStart)

/-- An error at the cursor. -/
def errorAt (s : Source) (c : Cursor) (code : String) : ReadError :=
  let (line, column) := s.lineColumn c.offset
  { code, line, column }

/-- An error about the character the cursor looks at. -/
def peekErrorAt (s : Source) (c : Cursor) (code : String) : ReadError :=
  let (line, column) := s.lineColumn (min (c.offset + 1) s.bytes.size)
  { code, line, column }

/-- Skip blanks: space, tab, line feed, carriage return. -/
def skipBlanks (s : Source) (c : Cursor) : Cursor :=
  let rec go (fuel : Nat) (c : Cursor) : Cursor :=
    match fuel with
    | 0 => c
    | fuel + 1 =>
      match s.peek c with
      | some ' ' | some '\n' | some '\t' | some '\r' => go fuel (s.advance c)
      | _ => c
  go (s.chars.size + 1) c

end Source

/-- Value of a hex digit. -/
def hexValue (c : Char) : Option Nat :=
  if '0' ≤ c ∧ c ≤ '9' then some (c.toNat - 48)
  else if 'a' ≤ c ∧ c ≤ 'f' then some (c.toNat - 87)
  else if 'A' ≤ c ∧ c ≤ 'F' then some (c.toNat - 55)
  else none

/-- Four hex digits after `\u`, taken as four bytes: fewer bytes left is
the end of the text, and a byte that is not a hex digit makes the escape
invalid, reported after the fourth byte. -/
def readHex4 (s : Source) (c : Cursor) : Except ReadError (Nat × Cursor) :=
  if c.offset + 4 ≤ s.bytes.size then
    let digits := (List.range 4).map fun k =>
      (s.bytes[c.offset + k]?).bind fun b => hexValue (Char.ofNat b.toNat)
    if digits.all Option.isSome then
      .ok (digits.foldl (fun acc d => acc * 16 + d.getD 0) 0,
        s.advance (s.advance (s.advance (s.advance c))))
    else .error (s.errorAt { c with offset := c.offset + 4 } "invalid escape")
  else .error (s.errorAt { index := s.chars.size, offset := s.bytes.size } "EOF while parsing a string")

/-- The rest of a string after its opening quote.  A fault inside an
escape is reported one byte past where it was found, also when that byte
starts a longer character. -/
def readStringBody (s : Source) : Nat -> Cursor -> List Char -> Except ReadError (String × Cursor)
  | 0, c, _ => .error (s.errorAt c "recursion limit exceeded")
  | fuel + 1, c, acc =>
    match s.peek c with
    | none => .error (s.errorAt c "EOF while parsing a string")
    | some '"' => .ok (String.ofList acc.reverse, s.advance c)
    | some '\\' =>
      let c := s.advance c
      match s.peek c with
      | none => .error (s.errorAt c "EOF while parsing a string")
      | some e =>
        let simple : Option Char :=
          match e with
          | '"' => some '"'
          | '\\' => some '\\'
          | '/' => some '/'
          | 'b' => some (Char.ofNat 8)
          | 'f' => some (Char.ofNat 12)
          | 'n' => some '\n'
          | 'r' => some '\r'
          | 't' => some '\t'
          | _ => none
        match simple with
        | some ch => readStringBody s fuel (s.advance c) (ch :: acc)
        | none =>
          if e = 'u' then
            match readHex4 s (s.advance c) with
            | .error err => .error err
            | .ok (n, c) =>
              if 0xDC00 ≤ n ∧ n ≤ 0xDFFF then
                .error (s.errorAt c "lone leading surrogate in hex escape")
              else if n < 0xD800 ∨ n > 0xDBFF then
                readStringBody s fuel c (Char.ofNat n :: acc)
              else
                -- a leading surrogate wants a trailing one
                match s.peek c with
                | none => .error (s.errorAt c "EOF while parsing a string")
                | some '\\' =>
                  let c := s.advance c
                  match s.peek c with
                  | none => .error (s.errorAt c "EOF while parsing a string")
                  | some 'u' =>
                    match readHex4 s (s.advance c) with
                    | .error err => .error err
                    | .ok (n2, c) =>
                      if 0xDC00 ≤ n2 ∧ n2 ≤ 0xDFFF then
                        let code := ((n - 0xD800) * 1024 + (n2 - 0xDC00)) + 0x10000
                        readStringBody s fuel c (Char.ofNat code :: acc)
                      else .error (s.errorAt c "lone leading surrogate in hex escape")
                  | some _ => .error (s.peekErrorAt c "unexpected end of hex escape")
                | some _ => .error (s.peekErrorAt c "unexpected end of hex escape")
          else .error (s.peekErrorAt c "invalid escape")
    | some ch =>
      if ch.toNat < 32 then
        .error (s.errorAt (s.advance c) "control character (\\u0000-\\u001F) found while parsing a string")
      else readStringBody s fuel (s.advance c) (ch :: acc)

/-- The value of the digit at the cursor, if a digit is there. -/
def digitAt (s : Source) (c : Cursor) : Option Nat :=
  match s.peek c with
  | some d => if '0' ≤ d ∧ d ≤ '9' then some (d.toNat - 48) else none
  | none => none

/-- Digits taken into a significand while it stays within 64 bits: the
significand, and the cursor at the first digit not taken (or past the run). -/
def takeDigits (s : Source) : Nat -> Cursor -> Nat -> Nat × Cursor
  | 0, c, kept => (kept, c)
  | fuel + 1, c, kept =>
    match digitAt s c with
    | some d => if passes kept d wordLimit then (kept, c) else takeDigits s fuel (s.advance c) (kept * 10 + d)
    | none => (kept, c)

/-- Digits skipped: how many, and the cursor past them. -/
def skipDigits (s : Source) : Nat -> Cursor -> Nat -> Nat × Cursor
  | 0, c, count => (count, c)
  | fuel + 1, c, count =>
    match digitAt s c with
    | some _ => skipDigits s fuel (s.advance c) (count + 1)
    | none => (count, c)

/-- The digits of an exponent after its first: its value, or, when it
passes the 32-bit range, the cursor just past the digit that made it pass. -/
def exponentDigits (s : Source) : Nat -> Cursor -> Nat -> Sum Cursor (Nat × Cursor)
  | 0, c, value => .inr (value, c)
  | fuel + 1, c, value =>
    match digitAt s c with
    | some d =>
      if passes value d exponentLimit then .inl (s.advance c)
      else exponentDigits s fuel (s.advance c) (value * 10 + d)
    | none => .inr (value, c)

/-- A double from its significand and exponent, the cursor past its text. -/
def finishFloat (s : Source) (negative : Bool) (kept : Nat) (exponent : Int) (c : Cursor) :
    Except ReadError (JsonNumber × Cursor) :=
  match scaled kept exponent with
  | some f => .ok (.float (if negative then -f else f), c)
  | none => .error (s.errorAt c "number out of range")

/-- The exponent part of a number, the cursor on its `e`.  An exponent past
the 32-bit range makes the number zero, or out of range when it is positive
and the significand is not zero. -/
def readExponent (s : Source) (negative : Bool) (kept : Nat) (start : Int) (c : Cursor) :
    Except ReadError (JsonNumber × Cursor) :=
  let c := s.advance c
  let (below, c) :=
    match s.peek c with
    | some '+' => (false, s.advance c)
    | some '-' => (true, s.advance c)
    | _ => (false, c)
  match s.peek c with
  | none => .error (s.errorAt c "EOF while parsing a value")
  | some _ =>
    match digitAt s c with
    | none => .error (s.peekErrorAt c "invalid number")
    | some d =>
      match exponentDigits s s.chars.size (s.advance c) d with
      | .inl c =>
        if kept ≠ 0 ∧ ¬ below then .error (s.errorAt c "number out of range")
        else .ok (.float (if negative then -0.0 else 0.0), (skipDigits s s.chars.size c 0).2)
      | .inr (e, c) =>
        finishFloat s negative kept (clampExponent (if below then start - e else start + e)) c

/-- What follows the digits a significand could not take, or its fraction:
an exponent part, or the end of the number. -/
def readTail (s : Source) (negative : Bool) (kept : Nat) (exponent : Int) (c : Cursor) :
    Except ReadError (JsonNumber × Cursor) :=
  match s.peek c with
  | some 'e' | some 'E' => readExponent s negative kept exponent c
  | _ => finishFloat s negative kept exponent c

/-- The fraction of a number, the cursor on its point.  It needs a digit. -/
def readFraction (s : Source) (negative : Bool) (kept : Nat) (start : Int) (c : Cursor) :
    Except ReadError (JsonNumber × Cursor) :=
  let first := s.advance c
  let (kept, c) := takeDigits s s.chars.size first kept
  let taken : Int := c.index - first.index
  match digitAt s c with
  | some _ => readTail s negative kept (start - taken) (skipDigits s s.chars.size c 0).2
  | none =>
    if taken = 0 then
      match s.peek c with
      | some _ => .error (s.peekErrorAt c "invalid number")
      | none => .error (s.peekErrorAt c "EOF while parsing a value")
    else readTail s negative kept (start - taken) c

/-- A number, the cursor after its sign. -/
def readNumber (s : Source) (negative : Bool) (c : Cursor) : Except ReadError (JsonNumber × Cursor) :=
  match s.peek c with
  | none => .error (s.errorAt c "EOF while parsing a value")
  | some _ =>
    match digitAt s c with
    | none => .error (s.peekErrorAt c "invalid number")
    | some first =>
      let start := s.advance c
      let (kept, c) := if first = 0 then (0, start) else takeDigits s s.chars.size start first
      match digitAt s c with
      | some _ =>
        if first = 0 then .error (s.peekErrorAt c "invalid number")
        else
          -- whole digits the significand cannot take raise the exponent
          let (extra, c) := skipDigits s s.chars.size c 0
          match s.peek c with
          | some '.' => readFraction s negative kept extra c
          | _ => readTail s negative kept extra c
      | none =>
        match s.peek c with
        | some '.' => readFraction s negative kept 0 c
        | some 'e' | some 'E' => readExponent s negative kept 0 c
        | _ =>
          if ¬ negative then .ok (.nat kept, c)
          else if kept = 0 then .ok (.float (-0.0), c)
          else if kept ≤ Nat.pow 2 63 then .ok (.neg (-(kept : Int)), c)
          else .ok (.float (-(nearestWhole kept)), c)

/-- An expected word after its first letter. -/
def readWord (s : Source) (word : List Char) (c : Cursor) : Except ReadError Cursor :=
  word.foldlM (fun c expected =>
    match s.peek c with
    | none => .error (s.errorAt c "EOF while parsing a value")
    | some ch => if ch = expected then .ok (s.advance c)
                 else .error (s.peekErrorAt c "expected ident")) c

mutual

/-- A value, after blanks. -/
def readValue (s : Source) : Nat -> Nat -> Cursor -> Except ReadError (Json × Cursor)
  | 0, _, c => .error (s.errorAt c "recursion limit exceeded")
  | fuel + 1, depth, c =>
    let c := s.skipBlanks c
    match s.peek c with
    | none => .error (s.peekErrorAt c "EOF while parsing a value")
    | some 'n' => (readWord s ['u', 'l', 'l'] (s.advance c)).map fun c => (.null, c)
    | some 't' => (readWord s ['r', 'u', 'e'] (s.advance c)).map fun c => (.bool true, c)
    | some 'f' => (readWord s ['a', 'l', 's', 'e'] (s.advance c)).map fun c => (.bool false, c)
    | some '-' => (readNumber s true (s.advance c)).map fun (n, c) => (.number n, c)
    | some '"' =>
      (readStringBody s (s.chars.size + 1) (s.advance c) []).map fun (str, c) => (.string str, c)
    | some '[' =>
      if depth = 0 then .error (s.peekErrorAt c "recursion limit exceeded")
      else
        match readItems s fuel (depth - 1) (s.advance c) true [] with
        | .error e => .error e
        | .ok (items, c) => .ok (.array items, s.advance c)
    | some '{' =>
      if depth = 0 then .error (s.peekErrorAt c "recursion limit exceeded")
      else
        match readEntries s fuel (depth - 1) (s.advance c) true [] with
        | .error e => .error e
        | .ok (fields, c) => .ok (.object fields, s.advance c)
    | some d =>
      if '0' ≤ d ∧ d ≤ '9' then (readNumber s false c).map fun (n, c) => (.number n, c)
      else .error (s.peekErrorAt c "expected value")

/-- Items of an array up to its closing bracket (the cursor stops on it). -/
def readItems (s : Source) : Nat -> Nat -> Cursor -> Bool -> List Json ->
    Except ReadError (List Json × Cursor)
  | 0, _, c, _, _ => .error (s.errorAt c "recursion limit exceeded")
  | fuel + 1, depth, c, first, acc =>
    let c := s.skipBlanks c
    match s.peek c with
    | some ']' => .ok (acc.reverse, c)
    | none => .error (s.peekErrorAt c "EOF while parsing a list")
    | some ch =>
      let next : Except ReadError Cursor :=
        if ch = ',' ∧ ¬ first then .ok (s.skipBlanks (s.advance c))
        else if first then .ok c
        else .error (s.peekErrorAt c "expected `,` or `]`")
      match next with
      | .error e => .error e
      | .ok c =>
        match s.peek c with
        | some ']' => .error (s.peekErrorAt c "trailing comma")
        | none => .error (s.peekErrorAt c "EOF while parsing a value")
        | some _ =>
          match readValue s fuel depth c with
          | .error e => .error e
          | .ok (item, c) => readItems s fuel depth c false (item :: acc)

/-- Entries of an object up to its closing brace (the cursor stops on it). -/
def readEntries (s : Source) : Nat -> Nat -> Cursor -> Bool -> List (String × Json) ->
    Except ReadError (List (String × Json) × Cursor)
  | 0, _, c, _, _ => .error (s.errorAt c "recursion limit exceeded")
  | fuel + 1, depth, c, first, acc =>
    let c := s.skipBlanks c
    match s.peek c with
    | some '}' => .ok (acc, c)
    | none => .error (s.peekErrorAt c "EOF while parsing an object")
    | some ch =>
      let next : Except ReadError Cursor :=
        if ch = ',' ∧ ¬ first then .ok (s.skipBlanks (s.advance c))
        else if first then .ok c
        else .error (s.peekErrorAt c "expected `,` or `\x7d`")
      match next with
      | .error e => .error e
      | .ok c =>
        match s.peek c with
        | some '"' =>
          match readStringBody s (s.chars.size + 1) (s.advance c) [] with
          | .error e => .error e
          | .ok (key, c) =>
            let c := s.skipBlanks c
            match s.peek c with
            | some ':' =>
              match readValue s fuel depth (s.advance c) with
              | .error e => .error e
              | .ok (value, c) => readEntries s fuel depth c false (Fields.set acc key value)
            | some _ => .error (s.peekErrorAt c "expected `:`")
            | none => .error (s.peekErrorAt c "EOF while parsing an object")
        | some '}' => .error (s.peekErrorAt c "trailing comma")
        | some _ => .error (s.peekErrorAt c "key must be a string")
        | none => .error (s.peekErrorAt c "EOF while parsing a value")

end

/-- Read a whole text as one JSON value. -/
def read (text : String) : Except ReadError Json :=
  let s := Source.ofString text
  match readValue s (2 * s.chars.size + 4) 127 { index := 0, offset := 0 } with
  | .error e => .error e
  | .ok (value, c) =>
    let c := s.skipBlanks c
    match s.peek c with
    | some _ => .error (s.peekErrorAt c "trailing characters")
    | none => .ok value

end Json

end Refbook
