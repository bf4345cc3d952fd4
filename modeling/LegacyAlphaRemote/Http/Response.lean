import LegacyAlphaRemote.Core.Bytes

/-!
# Responses

`json_writer.cpp` and `http_response.cpp`.  A response is kept as its status, its content type and
its body (`HttpResponse`), which is what the program decides about; `makeHttpResponse` is the text
that is sent.
-/

namespace LegacyAlpha

/-! ## Texts -/

/-- `snprintf` into a buffer of this size, which keeps one byte for the end of the text. -/
def snprintf (size : ℕ) (text : Bytes) : Bytes := text.take (size - 1)

/-- A number as `%lu` writes it, in decimal digits without zeros before them. -/
def formatNat (n : ℕ) : Bytes := (Nat.toDigits 10 n).map byte

/-- A number as `%d` and `%lld` write it, with a minus sign where it is negative. -/
def formatInt (n : ℤ) : Bytes :=
  if n < 0 then byte '-' :: formatNat n.natAbs else formatNat n.natAbs

/-- A hexadecimal digit, as `%x` writes it, in lower case. -/
def hexDigit (n : ℕ) : UInt8 := byte (Nat.digitChar n)

/-- What `jsonEscape` makes of one byte.  Bytes from 0x80 on stay as they are, so that UTF-8 passes
through. -/
def jsonEscapeByte (c : UInt8) : Bytes :=
  if c == byte '"' then bytes "\\\""
  else if c == byte '\\' then bytes "\\\\"
  else if c == 0x08 then bytes "\\b"
  else if c == 0x0c then bytes "\\f"
  else if c == 0x0a then bytes "\\n"
  else if c == 0x0d then bytes "\\r"
  else if c == 0x09 then bytes "\\t"
  else if c < 0x20 then
    bytes "\\u00" ++ [hexDigit (c.toNat / 16), hexDigit (c.toNat % 16)]
  else [c]

/-- `jsonEscape`: each byte by itself, one after the other. -/
def jsonEscape (value : Bytes) : Bytes := value.flatMap jsonEscapeByte

/-- `jsonString`: the escaped text between quotes. -/
def jsonString (value : Bytes) : Bytes := bytes "\"" ++ jsonEscape value ++ bytes "\""

/-! ## Responses -/

/-- The arguments of `makeHttpResponse`, before they are written out. -/
structure HttpResponse where
  status : ℕ
  contentType : Bytes
  body : Bytes
  deriving DecidableEq, Repr

/-- `reason`: the words for a status in the status line. -/
def reason (status : ℕ) : Bytes :=
  match status with
  | 200 => bytes "OK"
  | 202 => bytes "Accepted"
  | 400 => bytes "Bad Request"
  | 401 => bytes "Unauthorized"
  | 404 => bytes "Not Found"
  | 405 => bytes "Method Not Allowed"
  | 409 => bytes "Conflict"
  | 413 => bytes "Payload Too Large"
  | 415 => bytes "Unsupported Media Type"
  | 429 => bytes "Too Many Requests"
  | 503 => bytes "Service Unavailable"
  | _ => bytes "Internal Server Error"

/-- `makeHttpResponse`: the head, cut off by the buffer of 384 bytes it is printed into, and the body
as it is. -/
def makeHttpResponse (response : HttpResponse) : Bytes :=
  snprintf 384
      (bytes "HTTP/1.0 " ++ formatNat response.status ++ bytes " " ++ reason response.status
        ++ bytes "\r\nContent-Type: " ++ response.contentType
        ++ bytes "\r\nContent-Length: " ++ formatNat response.body.length
        ++ bytes "\r\nCache-Control: no-store\r\nX-Content-Type-Options: nosniff"
        ++ bytes "\r\nConnection: close\r\n\r\n")
    ++ response.body

/-- The content type of every JSON answer, of the errors too. -/
def jsonContentType : Bytes := bytes "application/json; charset=utf-8"

/-- The response `makeJsonError` writes: `ok` is false, and the message stands beside it. -/
def jsonError (status : ℕ) (message : Bytes) : HttpResponse :=
  { status
    contentType := jsonContentType
    body := bytes "\x7b\"ok\":false,\"error\":" ++ jsonString message ++ bytes "\x7d" }

@[simp] lemma jsonError_contentType (status : ℕ) (message : Bytes) :
    (jsonError status message).contentType = jsonContentType := rfl

/-- `makeJsonError`: the text of that response. -/
def makeJsonError (status : ℕ) (message : Bytes) : Bytes :=
  makeHttpResponse (jsonError status message)

/-- Every response begins with the protocol's name, so that none is empty. -/
lemma makeHttpResponse_ne_nil (response : HttpResponse) : makeHttpResponse response ≠ [] := by
  rw [makeHttpResponse, snprintf, show bytes "HTTP/1.0 " = byte 'H' :: bytes "TTP/1.0 " from rfl]
  simp

end LegacyAlpha
