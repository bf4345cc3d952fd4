import LegacyAlphaRemote.Http.Parser

/-!
# The JSON bodies

`JsonCursor`, `parseCaptureJson`, `parseFocusJson` and `validRequestId` of `http_parser.cpp`.  The
cursor is the body and a position in it.  A method that moves the cursor returns the cursor it
leaves; one that fails in a way that makes the whole parse fail returns nothing.

`strtol` is modelled as ISO C describes it, with the width of `long` from the target.
-/

namespace LegacyAlpha

open Search

/-- `JsonCursor`: the body that is read, and how far it has been. -/
structure JsonCursor where
  input : Bytes
  pos : ℕ := 0
  deriving DecidableEq, Repr

namespace JsonCursor

/-- What is left of the input, from the position on. -/
def rest (cursor : JsonCursor) : Bytes := cursor.input.drop cursor.pos

/-- The cursor `count` bytes further on; only the position changes. -/
def advance (cursor : JsonCursor) (count : ℕ) : JsonCursor :=
  { cursor with pos := cursor.pos + count }

/-- `ws`: the cursor behind all the white space that `isspace` knows. -/
def ws (cursor : JsonCursor) : JsonCursor :=
  cursor.advance (cursor.rest.takeWhile isspace).length

/-- `take`: a character that is to come next, behind any white space.  The cursor stays behind the
white space when the character is another. -/
def take (cursor : JsonCursor) (c : UInt8) : Bool × JsonCursor :=
  let cursor := cursor.ws
  if cursor.rest.head? == some c then (true, cursor.advance 1) else (false, cursor)

/-- `done`: nothing but white space is left. -/
def done (cursor : JsonCursor) : Bool := cursor.ws.pos == cursor.input.length

/-- The character an escape stands for.  There is none for `\u`, so that such an escape is refused. -/
def unescape (e : UInt8) : Option UInt8 :=
  if e == byte '"' || e == byte '\\' || e == byte '/' then some e
  else if e == byte 'b' then some 0x08
  else if e == byte 'f' then some 0x0c
  else if e == byte 'n' then some 0x0a
  else if e == byte 'r' then some 0x0d
  else if e == byte 't' then some 0x09
  else none

/-- The loop of `stringValue` behind the opening quote: what the string is, and how many bytes it
takes, the closing quote included. -/
def stringLoop (out : Bytes) : Bytes → Option (Bytes × ℕ)
  | [] => none
  | c :: rest =>
    if c == byte '"' then some (out, 1)
    else if c < 0x20 then none
    else if c == byte '\\' then
      match rest with
      | [] => none
      | e :: rest =>
        match unescape e with
        | none => none
        | some x =>
          if (out ++ [x]).length > 128 then none
          else (stringLoop (out ++ [x]) rest).map fun (value, count) => (value, count + 2)
    else if (out ++ [c]).length > 128 then none
    else (stringLoop (out ++ [c]) rest).map fun (value, count) => (value, count + 1)

/-- `stringValue`: a string in quotes, read character by character up to the next quote that is not
escaped. -/
def stringValue (cursor : JsonCursor) : Option (Bytes × JsonCursor) :=
  let cursor := cursor.ws
  match cursor.rest with
  | [] => none
  | c :: rest =>
    if c != byte '"' then none
    else (stringLoop [] rest).map fun (value, count) => (value, cursor.advance (count + 1))

end JsonCursor

/-- `strtol(text, &tail, 10)`: the number, held in the range of a `long`, and the tail.  As with
`strtoul`, white space and one sign may stand before the digits, and with no digits the tail is the
whole text. -/
def strtol (target : Target) (text : Bytes) : ℤ × Bytes :=
  let unsigned := text.dropWhile isspace
  let negative := unsigned.head? == some (byte '-')
  let rest := if negative || unsigned.head? == some (byte '+') then unsigned.tail else unsigned
  let digits := rest.takeWhile isdigit
  if digits.isEmpty then (0, text)
  else
    let value : ℤ := if negative then -decimal digits else decimal digits
    (max (-2 ^ (target.longBits - 1)) (min value (2 ^ (target.longBits - 1) - 1)),
      rest.dropWhile isdigit)

namespace JsonCursor

/-- `integerValue`: a minus sign or none, and all the digits behind it, at most ten characters in all.
The comparison with the range of an `int` comes after `strtol`, which has made the number fit a
`long`. -/
def integerValue (target : Target) (cursor : JsonCursor) : Option (ℤ × JsonCursor) :=
  let cursor := cursor.ws
  let sign := if cursor.rest.head? == some (byte '-') then 1 else 0
  let digits := (cursor.rest.drop sign).takeWhile isdigit
  if digits.isEmpty then none
  else if sign + digits.length > 10 then none
  else
    let (value, tail) := strtol target (cursor.rest.take (sign + digits.length))
    if !tail.isEmpty || value < -2147483647 || value > 2147483647 then none
    else some (value, cursor.advance (sign + digits.length))

/-- `boolValue`: one of two words.  Nothing is asked of the character behind it. -/
def boolValue (cursor : JsonCursor) : Option (Bool × JsonCursor) :=
  let cursor := cursor.ws
  if cursor.rest.take 4 == bytes "true" then some (true, cursor.advance 4)
  else if cursor.rest.take 5 == bytes "false" then some (false, cursor.advance 5)
  else none

end JsonCursor

/-! ## Requests -/

/-- `struct CaptureRequest`: what a body of `POST /api/v1/capture` asks for. -/
structure CaptureRequest where
  requestId : Bytes := []
  delayMs : ℤ := 0
  autofocus : Bool := true
  deriving DecidableEq, Repr

/-- `validRequestId`: one to 64 letters, digits and four other characters, so that an id stands for
itself in JSON. -/
def validRequestId (requestId : Bytes) : Bool :=
  !requestId.isEmpty && requestId.length ≤ 64
    && requestId.all fun c => isalnum c || (bytes "-_.:").contains c

/-- The members `parseCaptureJson` has read, as none of them may come twice and all of them have to
come. -/
structure CaptureMembers where
  id : Bool := false
  delay : Bool := false
  autofocus : Bool := false
  deriving DecidableEq, Repr

/-- One pass of the loop of `parseCaptureJson` up to the end of the member's value. -/
def captureMember (target : Target) (cursor : JsonCursor) (request : CaptureRequest)
    (members : CaptureMembers) : Option (JsonCursor × CaptureRequest × CaptureMembers) :=
  match cursor.stringValue with
  | none => none
  | some (key, cursor) =>
    match cursor.take (byte ':') with
    | (false, _) => none
    | (true, cursor) =>
      if key == bytes "request_id" then
        if members.id then none
        else cursor.stringValue.map fun (requestId, cursor) =>
          (cursor, { request with requestId }, { members with id := true })
      else if key == bytes "delay_ms" then
        if members.delay then none
        else (cursor.integerValue target).map fun (delayMs, cursor) =>
          (cursor, { request with delayMs }, { members with delay := true })
      else if key == bytes "autofocus" then
        if members.autofocus then none
        else cursor.boolValue.map fun (autofocus, cursor) =>
          (cursor, { request with autofocus }, { members with autofocus := true })
      else none

/-- The loop of `parseCaptureJson`.  Each pass reads a key, which takes two bytes at least, so that
the length of the body bounds their number; the first argument counts them down. -/
def captureLoop (target : Target) : ℕ → JsonCursor → CaptureRequest → CaptureMembers →
    Option (JsonCursor × CaptureRequest × CaptureMembers)
  | 0, _, _, _ => none
  | left + 1, cursor, request, members =>
    match captureMember target cursor request members with
    | none => none
    | some (cursor, request, members) =>
      match cursor.take (byte '\x7d') with
      | (true, cursor) => some (cursor, request, members)
      | (false, cursor) =>
        match cursor.take (byte ',') with
        | (true, cursor) => captureLoop target left cursor request members
        | (false, _) => none

/-- `parseCaptureJson`: an object with three members in any order, and nothing behind it.  The empty
object is refused by itself, because the loop begins with a key. -/
def parseCaptureJson (target : Target) (body : Bytes) : Option CaptureRequest :=
  match JsonCursor.take { input := body } (byte '\x7b') with
  | (false, _) => none
  | (true, cursor) =>
    match cursor.take (byte '\x7d') with
    | (true, _) => none
    | (false, cursor) =>
      match captureLoop target body.length cursor {} {} with
      | none => none
      | some (cursor, request, members) =>
        if cursor.done && members.id && members.delay && members.autofocus
            && validRequestId request.requestId then
          some request
        else none

/-- `parseFocusJson`: an object with the one member `pressed`, and nothing behind it. -/
def parseFocusJson (body : Bytes) : Option Bool :=
  match JsonCursor.take { input := body } (byte '\x7b') with
  | (false, _) => none
  | (true, cursor) =>
    match cursor.stringValue with
    | none => none
    | some (key, cursor) =>
      if key != bytes "pressed" then none
      else
        match cursor.take (byte ':') with
        | (false, _) => none
        | (true, cursor) =>
          match cursor.boolValue with
          | none => none
          | some (pressed, cursor) =>
            match cursor.take (byte '\x7d') with
            | (true, cursor) => if cursor.done then some pressed else none
            | (false, _) => none

end LegacyAlpha
