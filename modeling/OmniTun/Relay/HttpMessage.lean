import OmniTun.Foundation.Numerals
import OmniTun.Foundation.Table

/-! HTTP messages as the relay writes requests to an agent and reads responses from it. -/

namespace OmniTun.Relay

open OmniTun.Foundation OmniTun.Foundation.Numerals

def isTokenByte (c : UInt8) : Bool :=
  isDigit c || (65 ≤ c && c ≤ 90) || (97 ≤ c && c ≤ 122) ||
    [33, 35, 36, 37, 38, 39, 42, 43, 45, 46, 94, 95, 96, 124, 126].contains c

def crlf : Bytes := [13, 10]

/-- An incoming request. `requestURI` is what its URL makes of itself, and `body` is `none` when
reading it fails. -/
structure Request where
  method : Bytes
  requestURI : Bytes
  proto : Bytes
  host : Bytes
  header : Table Bytes (List Bytes)
  body : Option Bytes
  method_token : method ≠ [] ∧ ∀ c ∈ method, isTokenByte c = true

structure HttpRequest where
  method : Bytes
  url : Bytes
  proto : Bytes
  headers : Table Bytes Bytes
  body : Bytes

/-! Ranging over a map has no fixed order. -/

variable (order : Table.RangeOrder Bytes)

def firstValues (header : Table Bytes (List Bytes)) : Table Bytes Bytes :=
  (order.entries header).foldl (fun headers (k, v) =>
    match v with
    | [] => headers
    | value :: _ => headers.insert k value) ∅

def withHost (host : Bytes) (headers : Table Bytes Bytes) : Table Bytes Bytes :=
  if host ≠ [] then headers.insert (ascii "Host") host
  else
    match headers.lookup (ascii "Host") with
    | some _ => headers
    | none => headers.insert (ascii "Host") (ascii "localhost")

def withContentLength (body : Bytes) (headers : Table Bytes Bytes) : Table Bytes Bytes :=
  if 0 < body.length then
    match headers.lookup (ascii "Content-Length") with
    | some _ => headers
    | none => headers.insert (ascii "Content-Length") (natNumeral body.length)
  else headers

def headerLine (k v : Bytes) : Bytes := k ++ ascii ": " ++ v ++ crlf

def encodeHTTPRequest (req : HttpRequest) : Bytes :=
  req.method ++ ascii " " ++ req.url ++ ascii " " ++ req.proto ++ crlf ++
    (order.entries req.headers).flatMap (fun (k, v) => headerLine k v) ++ crlf ++ req.body

def serializeHTTPRequest (r : Request) (body : Bytes) : Bytes :=
  encodeHTTPRequest order
    { method := r.method
      url := if r.requestURI = [] then ascii "/" else r.requestURI
      proto := r.proto
      headers := withContentLength body (withHost r.host (firstValues order r.header))
      body := body }

def getRequest (host : Bytes) : Request where
  method := ascii "GET"
  requestURI := ascii "/"
  proto := ascii "HTTP/1.1"
  host := host
  header := ∅
  body := some []
  method_token := ⟨by decide, List.all_eq_true.mp rfl⟩

lemma serialize_getRequest {host : Bytes} (h : host ≠ []) :
    serializeHTTPRequest order (getRequest host) [] =
      ascii "GET / HTTP/1.1" ++ crlf ++ headerLine (ascii "Host") host ++ crlf := by
  simp [serializeHTTPRequest, encodeHTTPRequest, getRequest, withContentLength, withHost, h,
    firstValues, Table.RangeOrder.entries_empty, Table.RangeOrder.entries_singleton, ascii]

inductive WriterCall
  | addHeaders (headers : Table Bytes Bytes)
  | writeHeader (statusCode : ℤ)
  | write (body : Bytes)
  | error (message : Bytes) (statusCode : ℤ)
  deriving DecidableEq

def canonicalMIMEHeaderKey (key : Bytes) : Bytes :=
  if key.all isTokenByte then capitalise true key else key
where
  capitalise (upper : Bool) : Bytes → Bytes
    | [] => []
    | c :: cs =>
      let c :=
        if upper && 97 ≤ c && c ≤ 122 then c - 32
        else if !upper && 65 ≤ c && c ≤ 90 then c + 32
        else c
      c :: capitalise (c == 45) cs

def readString : Bytes → Option (Bytes × Bytes)
  | [] => none
  | c :: rest =>
    if c = 10 then some ([c], rest)
    else (readString rest).map fun (line, rest) => (c :: line, rest)

inductive ResponseError
  | readStatusLine
  | readHeader
  deriving DecidableEq, Repr

def responseStatusCode (statusLine : Bytes) : ℤ :=
  if 12 < statusLine.length ∧ statusLine.take 5 = ascii "HTTP/" then
    (atoi ((statusLine.drop 9).take 3)).getD 200
  else 200

def responseHeader (line : Bytes) : Option (Bytes × Bytes) :=
  let key := line.takeWhile (· != 58)
  match line.dropWhile (· != 58) with
  | [] => none
  | _ :: val =>
    if key = [] then none
    else some (canonicalMIMEHeaderKey key, if val.head? = some 32 then val.drop 1 else val)

lemma readString_length {bs line rest : Bytes} (h : readString bs = some (line, rest)) :
    rest.length < bs.length := by
  induction bs generalizing line with
  | nil => cases h
  | cons c bs ih =>
    simp only [readString] at h
    split_ifs at h with hc
    · obtain ⟨_, rfl⟩ := Prod.mk.inj (Option.some.inj h)
      simp
    · obtain ⟨⟨line', rest'⟩, hr, he⟩ := Option.map_eq_some_iff.mp h
      obtain ⟨_, rfl⟩ := Prod.mk.inj he
      exact (ih hr).trans (by simp)

def readHeaders (headers : Table Bytes Bytes) (bs : Bytes) :
    Except ResponseError (Table Bytes Bytes × Bytes) :=
  match h : readString bs with
  | none => .error .readHeader
  | some (line, rest) =>
    have := readString_length h
    let line := line.dropLast
    if line = [13] ∨ line = [] then .ok (headers, rest)
    else
      match responseHeader (if line.getLast? = some 13 then line.dropLast else line) with
      | none => readHeaders headers rest
      | some (key, val) => readHeaders (headers.insert key val) rest
termination_by bs.length

def deserializeHTTPResponse (payload : Bytes) : Except ResponseError (List WriterCall) :=
  match readString payload with
  | none => .error .readStatusLine
  | some (statusLine, rest) =>
    match readHeaders ∅ rest with
    | .error err => .error err
    | .ok (headers, body) =>
      .ok ([.addHeaders headers, .writeHeader (responseStatusCode statusLine)] ++
        if 0 < body.length then [.write body] else [])

end OmniTun.Relay
