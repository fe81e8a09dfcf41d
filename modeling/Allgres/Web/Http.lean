import Allgres.Lib.RustStr
import Allgres.Lib.Utf8

/-! The requests that the web worker reads from its connections. -/

namespace Allgres

open RustStr Utf8

structure HttpRequest where
  method : String
  path : String
  headers : List (String × String)
  body : String

namespace HttpRequest

def route (r : HttpRequest) : String := String.ofList (r.path.toList.takeWhile (· != '?'))

def query (r : HttpRequest) : String :=
  match splitOnce '?' r.path.toList with
  | none => ""
  | some (_, query) => String.ofList query

def header (r : HttpRequest) (name : String) : Option String :=
  (r.headers.find? fun header => eqIgnoreAsciiCase header.1.toList name.toList).map Prod.snd

end HttpRequest

/-- The end of the first blank line. -/
def headerEnd : List UInt8 → Option Nat
  | 13 :: 10 :: 13 :: 10 :: _ => some 4
  | [] => none
  | _ :: rest => (headerEnd rest).map (· + 1)

def parseHeader (line : List Char) : Option (String × String) :=
  (splitOnce ':' line).map fun parts =>
    (String.ofList (toAsciiLowercase (trim parts.1)), String.ofList (trim parts.2))

def parseHttpRequest (data : List UInt8) : Option HttpRequest :=
  match headerEnd data with
  | none => none
  | some split => match lines (decodeLossy (data.take split)).toList with
    | [] => none
    | first :: rest => match splitWhitespace first with
      | method :: path :: _ => some {
          method := String.ofList method
          path := String.ofList path
          headers := rest.filterMap parseHeader
          body := decodeLossy (data.drop split) }
      | _ => none

/-- The first line that names `content-length` counts, the request line included. -/
def contentLength (data : List UInt8) (split : Nat) : Nat :=
  let declared := (lines (decodeLossy (data.take split)).toList).filterMap fun line =>
    (splitOnce ':' line).filter fun parts => eqIgnoreAsciiCase parts.1 "content-length".toList
  match declared with
  | [] => 0
  | (_, value) :: _ => (parseUsize (trim value)).getD 0

def maxRequestBytes : Nat := 2 ^ 20

/-- What a pass of the loop of `read_http_request` comes upon: bytes, of which there
are none at the end of the stream, an error, or its own deadline. -/
inductive Read
  | data (chunk : List UInt8)
  | failed
  | late

/-- The header's end, once it is known, and the bytes that are wanted behind it. -/
structure Frame where
  headerEnd : Option Nat
  want : Nat

def Frame.found (frame : Frame) (data : List UInt8) : Frame :=
  match frame.headerEnd with
  | some _ => frame
  | none => match Allgres.headerEnd data with
    | none => frame
    | some split => ⟨some split, contentLength data split⟩

/-- `h + want` wraps around. -/
def Frame.complete (frame : Frame) (data : List UInt8) : Bool :=
  frame.headerEnd.any fun split => decide ((split + frame.want) % 2 ^ 64 ≤ data.length)

def readLoop (data : List UInt8) (frame : Frame) : List Read → Option (List UInt8)
  | [] | .failed :: _ | .late :: _ => none
  | .data [] :: _ => some data
  | .data chunk :: rest =>
    let data := data ++ chunk
    if maxRequestBytes < data.length then none
    else
      let frame := frame.found data
      if frame.complete data then some data else readLoop data frame rest

def readHttpRequest (reads : List Read) : Option HttpRequest :=
  (readLoop [] ⟨none, 0⟩ reads).bind parseHttpRequest

/-! ### Encoded text -/

def hexValue (b : UInt8) : Option Nat :=
  let n := b.toNat
  if 48 ≤ n ∧ n ≤ 57 then some (n - 48)
  else if 65 ≤ n ∧ n ≤ 70 then some (n - 55)
  else if 97 ≤ n ∧ n ≤ 102 then some (n - 87)
  else none

/-- `u8::from_str_radix` on two bytes, which takes a sign. -/
def hexPair (a b : UInt8) : Option UInt8 :=
  if a = 43 then (hexValue b).map UInt8.ofNat
  else match hexValue a, hexValue b with
    | some high, some low => some (UInt8.ofNat (high * 16 + low))
    | _, _ => none

def percentBytes : List UInt8 → List UInt8
  | [] => []
  | 37 :: a :: b :: rest => match hexPair a b with
    | some byte => byte :: percentBytes rest
    | none => 37 :: percentBytes (a :: b :: rest)
  | b :: rest => (if b = 43 then 32 else b) :: percentBytes rest

def percentDecode (text : String) : String := decodeLossy (percentBytes (encode text))

def pairs (text : String) : List (List Char × List Char) :=
  (split '&' text.toList).filterMap (splitOnce '=')

def queryParam (query key : String) : Option String :=
  ((pairs query).find? fun pair => pair.1 == key.toList).map fun pair => percentDecode (String.ofList pair.2)

/-- The loop of `decode` in `parse_form_body`, which asks for a plus sign first. -/
def formBytes : List UInt8 → List UInt8
  | [] => []
  | 43 :: rest => 32 :: formBytes rest
  | 37 :: a :: b :: rest => match hexPair a b with
    | some byte => byte :: formBytes rest
    | none => 37 :: formBytes (a :: b :: rest)
  | b :: rest => b :: formBytes rest

def formDecode (text : String) : String := decodeLossy (formBytes (encode text))

/-- The last value of a key counts. -/
def parseFormBody (body : String) : List (String × String) :=
  ((pairs body).map fun pair => (formDecode (String.ofList pair.1), formDecode (String.ofList pair.2))).reverse

end Allgres
