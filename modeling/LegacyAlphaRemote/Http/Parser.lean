import Mathlib.Data.List.DropRight
import LegacyAlphaRemote.Core.Search
import LegacyAlphaRemote.Machine.Types

/-!
# The request parser

`parseHttpRequest` of `http_parser.cpp`.  The parser is called again from the start each time more
bytes have arrived, and works by searching the whole buffer: for the end of the request line, for
the two spaces in it, for the blank line, and then, header line by header line, for the end of the
line and its colon.  The positions it finds are natural numbers here and `npos` is `none`.

`strtoul` is modelled as ISO C describes it.  It depends on the width of `unsigned long`, which is
at least 32 bits and is 32 on the camera (`Target`).
-/

namespace LegacyAlpha

open Search

/-- What the C standard leaves to the target: the width of `unsigned long`. -/
structure Target where
  longBits : ℕ
  longBits_ge : 32 ≤ longBits

/-- The camera, an `armeabi` device, with a `long` of 32 bits. -/
def Target.armeabi : Target := ⟨32, le_rfl⟩

/-- `struct HttpRequest`: what the parser keeps of a request.  The version and the other headers are
checked and forgotten. -/
structure HttpRequest where
  method : Bytes := []
  path : Bytes := []
  pin : Bytes := []
  contentType : Bytes := []
  body : Bytes := []
  deriving DecidableEq, Repr

/-- The values of `enum ParseResult` that refuse a request, each with a status of its own in the
answer. -/
inductive ParseError
  | BadRequest
  | TooLarge
  | Unsupported
  deriving DecidableEq, Repr

/-- `enum ParseResult`, with what `parseHttpRequest` stores through its pointers when it accepts: the
request, and how many bytes of the data belong to it. -/
inductive ParseResult
  | Incomplete
  | Ok (request : HttpRequest) (consumed : ℕ)
  | Refused (error : ParseError)
  deriving DecidableEq, Repr

/-- The end of a line, `"\r\n"`. -/
def crlf : Bytes := [0x0d, 0x0a]

@[simp] lemma length_crlf : crlf.length = 2 := rfl

/-! ## Characters and values -/

/-- The visible characters that do not belong to a token, those which `isTokenChar` names one after
the other. -/
def separators : Bytes := bytes "()<>@,;:\\\"/[]?=\x7b\x7d"

/-- `isTokenChar`: the visible characters but for the separators.  A blank is none of them. -/
def isTokenChar (c : UInt8) : Bool := c > 0x20 && c < 0x7f && !separators.contains c

/-- A space or a tab, which `trim` removes; other white space it leaves. -/
def isBlank (c : UInt8) : Bool := c == byte ' ' || c == byte '\t'

/-- `trim`: the value without the blanks before and after it. -/
def trim (value : Bytes) : Bytes := (value.dropWhile isBlank).rdropWhile isBlank

/-- `lower`: every letter in lower case, so that the case of a header's name does not matter. -/
def lower (value : Bytes) : Bytes := value.map tolower

/-- `validPath`.  The source looks at the two bytes after a `'%'` and then refuses either way. -/
def validPath (path : Bytes) : Bool :=
  path.head? == some (byte '/') && !path.contains 0
    && (find path (bytes "..") 0).isNone && !path.contains (byte '\\')
    && path.all (fun c => !(c < 0x20 || c == 0x7f) && c != byte '%')
    && !path.contains (byte '?')

/-! ## Lengths -/

/-- `ULONG_MAX`, the largest number in an `unsigned long` of the target. -/
def Target.ulongMax (target : Target) : ℕ := 2 ^ target.longBits - 1

/-- The number a string of decimal digits denotes, however long it is. -/
def decimal (digits : Bytes) : ℕ := digits.foldl (fun n c => 10 * n + (c.toNat - (byte '0').toNat)) 0

/-- `strtoul(text, &tail, 10)`: the number, and the tail.  White space and one sign may stand before
the digits; a negative number wraps around, a number that does not fit is `ULONG_MAX`, and with no
digits at all the tail is the whole text. -/
def strtoul (target : Target) (text : Bytes) : ℕ × Bytes :=
  let unsigned := text.dropWhile isspace
  let negative := unsigned.head? == some (byte '-')
  let rest := if negative || unsigned.head? == some (byte '+') then unsigned.tail else unsigned
  let digits := rest.takeWhile isdigit
  if digits.isEmpty then (0, text)
  else
    let value := decimal digits
    let parsed :=
      if value > target.ulongMax then target.ulongMax
      else if negative then (2 ^ target.longBits - value) % 2 ^ target.longBits
      else value
    (parsed, rest.dropWhile isdigit)

/-- How the parser reads a `Content-Length` value, `none` where it refuses it.  The buffer holds no
zero byte, so `*tail` is zero exactly when nothing is left. -/
def readLength (target : Target) (value : Bytes) : Option ℕ :=
  if value.isEmpty || value.head? == some (byte '-') then none
  else if (strtoul target value).2.isEmpty then some (strtoul target value).1
  else none

/-! ## The request line -/

/-- From the search for the first space to the check of the method's characters: the method and the
path, or the refusal. -/
def parseRequestLine (data : Bytes) (lineEnd : ℕ) : Except ParseError (Bytes × Bytes) :=
  match find data [byte ' '] 0 with
  | none => .error .BadRequest
  | some firstSpace =>
    match find data [byte ' '] (firstSpace + 1) with
    | none => .error .BadRequest
    | some secondSpace =>
      if secondSpace ≥ lineEnd then .error .BadRequest
      else
        let method := substr data 0 firstSpace
        let path := substr data (firstSpace + 1) (secondSpace - firstSpace - 1)
        let version := substr data (secondSpace + 1) (lineEnd - secondSpace - 1)
        if (method != bytes "GET" && method != bytes "POST") || !validPath path then
          .error .BadRequest
        else if version != bytes "HTTP/1.0" && version != bytes "HTTP/1.1" then
          .error .Unsupported
        else if !method.all isTokenChar then .error .BadRequest
        else .ok (method, path)

/-! ## The header lines -/

/-- What the header loop writes: two fields of the request and two variables of its own. -/
structure HeaderFields where
  pin : Bytes := []
  contentType : Bytes := []
  haveLength : Bool := false
  contentLength : ℕ := 0
  deriving DecidableEq, Repr

/-- What the header loop does with one header, once its name is known to be a token and its value
is trimmed. -/
def readHeader (target : Target) (config : NativeConfig) (fields : HeaderFields)
    (name value : Bytes) : Except ParseError HeaderFields :=
  if lower name == bytes "content-length" then
    match readLength target value with
    | none => .error .BadRequest
    | some parsed =>
      if fields.haveLength && parsed != fields.contentLength then .error .BadRequest
      else if parsed > config.maxBody then .error .TooLarge
      else .ok { fields with contentLength := parsed, haveLength := true }
  else if lower name == bytes "transfer-encoding" then
    if !value.isEmpty && lower value != bytes "identity" then .error .Unsupported
    else .ok fields
  else if lower name == bytes "x-legacyalpha-pin" then
    if !fields.pin.isEmpty && fields.pin != value then .error .BadRequest
    else .ok { fields with pin := value }
  else if lower name == bytes "content-type" then .ok { fields with contentType := lower value }
  else .ok fields

/-- The body of the header loop: the line that begins at `pos`, and where the next one does. -/
def headerLine (target : Target) (config : NativeConfig) (data : Bytes) (headerEnd pos : ℕ)
    (fields : HeaderFields) : Except ParseError (HeaderFields × ℕ) :=
  match find data crlf pos with
  | none => .error .BadRequest
  | some lineEnd =>
    if lineEnd > headerEnd then .error .BadRequest
    else
      match find data [byte ':'] pos with
      | none => .error .BadRequest
      | some colon =>
        if colon ≥ lineEnd || colon == pos then .error .BadRequest
        else
          let name := substr data pos (colon - pos)
          if !name.all isTokenChar then .error .BadRequest
          else
            let value := trim (substr data (colon + 1) (lineEnd - colon - 1))
            match readHeader target config fields name value with
            | .error error => .error error
            | .ok fields => .ok (fields, lineEnd + 2)

/-- The header loop.  Each iteration moves the position forward, so that `headerEnd` iterations are
enough for it to reach `headerEnd`; the first argument counts them down. -/
def headerLoop (target : Target) (config : NativeConfig) (data : Bytes) (headerEnd : ℕ) :
    ℕ → ℕ → HeaderFields → Except ParseError HeaderFields
  | 0, _, fields => .ok fields
  | left + 1, pos, fields =>
    if pos < headerEnd then
      match headerLine target config data headerEnd pos fields with
      | .error error => .error error
      | .ok (fields, pos) => headerLoop target config data headerEnd left pos fields
    else .ok fields

/-! ## The whole request -/

/-- `parseHttpRequest`: the data is looked through from the beginning at every call.  Where the line
break or the blank line is not there yet, it is too large or incomplete by its length so far, and an
accepted head is incomplete until all of its body is there. -/
def parseHttpRequest (target : Target) (config : NativeConfig) (data : Bytes) : ParseResult :=
  if data.contains 0 then .Refused .BadRequest
  else
    match find data crlf 0 with
    | none => if data.length > config.maxRequestLine then .Refused .TooLarge else .Incomplete
    | some lineEnd =>
      if lineEnd > config.maxRequestLine then .Refused .TooLarge
      else
        match parseRequestLine data lineEnd with
        | .error error => .Refused error
        | .ok (method, path) =>
          match find data (crlf ++ crlf) (lineEnd + 2) with
          | none => if data.length > config.maxHeaders then .Refused .TooLarge else .Incomplete
          | some headerEnd =>
            if headerEnd + 4 > config.maxHeaders then .Refused .TooLarge
            else
              match headerLoop target config data headerEnd headerEnd (lineEnd + 2) {} with
              | .error error => .Refused error
              | .ok fields =>
                if method == bytes "POST" && !fields.haveLength then .Refused .BadRequest
                else
                  let total := headerEnd + 4 + fields.contentLength
                  if data.length < total then .Incomplete
                  else
                    .Ok
                      { method, path, pin := fields.pin, contentType := fields.contentType
                        body := substr data (headerEnd + 4) fields.contentLength }
                      total

/-- The searches and checks that come before the body, all of them successful. -/
structure HeadAccepted (target : Target) (config : NativeConfig) (data : Bytes)
    (lineEnd headerEnd : ℕ) (method path : Bytes) (fields : HeaderFields) : Prop where
  noNul : 0 ∉ data
  lineEnd_eq : find data crlf 0 = some lineEnd
  lineEnd_le : lineEnd ≤ config.maxRequestLine
  requestLine : parseRequestLine data lineEnd = .ok (method, path)
  headerEnd_eq : find data (crlf ++ crlf) (lineEnd + 2) = some headerEnd
  headerEnd_le : headerEnd + 4 ≤ config.maxHeaders
  headers : headerLoop target config data headerEnd headerEnd (lineEnd + 2) {} = .ok fields
  postLength : method = bytes "POST" → fields.haveLength = true

/-- The request an accepted head and the bytes after it make; the body is as long as the headers say.
-/
def HeaderFields.request (fields : HeaderFields) (method path data : Bytes) (headerEnd : ℕ) :
    HttpRequest :=
  { method, path, pin := fields.pin, contentType := fields.contentType
    body := substr data (headerEnd + 4) fields.contentLength }

section Inversion

variable {target : Target} {config : NativeConfig} {data : Bytes} {lineEnd headerEnd : ℕ}
  {method path : Bytes} {fields : HeaderFields}

/-- With an accepted head only the length of the body is left to check, so that the parser's answer
depends on how many bytes there are and on nothing else. -/
theorem HeadAccepted.parse
    (h : HeadAccepted target config data lineEnd headerEnd method path fields) :
    parseHttpRequest target config data =
      if data.length < headerEnd + 4 + fields.contentLength then .Incomplete
      else
        .Ok (fields.request method path data headerEnd) (headerEnd + 4 + fields.contentLength) := by
  have hpost : ¬ ((method == bytes "POST" && !fields.haveLength) = true) := by
    simpa using h.postLength
  unfold parseHttpRequest
  simp only [List.contains_eq_mem, h.noNul, decide_false, Bool.false_eq_true, if_false,
    h.lineEnd_eq, if_neg (not_lt.mpr h.lineEnd_le), h.requestLine, h.headerEnd_eq,
    if_neg (not_lt.mpr h.headerEnd_le), h.headers, if_neg hpost]
  rfl

/-- **Inversion of the parser**: a request is accepted exactly when its head is and its body has
arrived. -/
theorem parseHttpRequest_eq_Ok_iff {request : HttpRequest} {consumed : ℕ} :
    parseHttpRequest target config data = .Ok request consumed ↔
      ∃ lineEnd headerEnd method path fields,
        HeadAccepted target config data lineEnd headerEnd method path fields ∧
        consumed = headerEnd + 4 + fields.contentLength ∧ consumed ≤ data.length ∧
        request = fields.request method path data headerEnd := by
  constructor
  · intro h
    unfold parseHttpRequest at h
    split at h
    · cases h
    rename_i hnul
    split at h
    · split at h <;> cases h
    rename_i lineEnd hline
    split at h
    · cases h
    rename_i hlineLe
    split at h
    · cases h
    rename_i method path hrequest
    split at h
    · split at h <;> cases h
    rename_i headerEnd hheader
    split at h
    · cases h
    rename_i hheaderLe
    split at h
    · cases h
    rename_i fields hfields
    split at h
    · cases h
    rename_i hpost
    simp only at h
    split at h
    · cases h
    rename_i htotal
    obtain ⟨rfl, rfl⟩ := ParseResult.Ok.inj h
    refine ⟨lineEnd, headerEnd, method, path, fields, ?_, rfl, not_lt.mp htotal, rfl⟩
    exact
      { noNul := by simpa using hnul
        lineEnd_eq := hline
        lineEnd_le := not_lt.mp hlineLe
        requestLine := hrequest
        headerEnd_eq := hheader
        headerEnd_le := not_lt.mp hheaderLe
        headers := hfields
        postLength := by simpa using hpost }
  · rintro ⟨lineEnd, headerEnd, method, path, fields, h, rfl, hle, rfl⟩
    rw [h.parse, if_neg (not_lt.mpr hle)]

end Inversion

end LegacyAlpha
