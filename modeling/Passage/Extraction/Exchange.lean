import Passage.Extraction.Service
import Passage.Numeral
import Passage.Text.Lines

/-!
# Exchanges with a service

A request for a URL and the reply to it, as they travel. The connection is closed
behind the reply, so a body whose length is not stated runs to the end of the bytes;
a body in chunks ends with an empty one.
-/

namespace Passage.Extraction

open Numeral (hexDigit? hexNumber?)
open Text

/-! ## Requests -/

/-- What a request asks its host for: path and query, without a fragment. -/
def requestTarget (u : Url) : List Char :=
  u.path ++ (match u.query with
    | some q => '?' :: q
    | none => [])

/-- The host as a request names it. -/
def requestHost (u : Url) : List Char :=
  (u.host.map Url.Host.text).getD [] ++ (match u.port with
    | some p => ':' :: Numeral.decimal p
    | none => [])

/-- The text of the request for a URL. -/
def requestText (u : Url) : String :=
  "GET " ++ String.ofList (requestTarget u) ++ " HTTP/1.1\r\nHost: " ++
    String.ofList (requestHost u) ++ "\r\nAccept: */*\r\nConnection: close\r\n\r\n"

/-! ## Replies -/

/-- The bytes before the first empty line, and those behind it. -/
def splitHead? : List UInt8 → Option (List UInt8 × List UInt8)
  | 13 :: 10 :: 13 :: 10 :: rest => some ([], rest)
  | b :: rest => (splitHead? rest).map fun (head, body) => (b :: head, body)
  | [] => none

/-- The bytes of a head as characters, which are ASCII where they mean something. -/
def headLines (head : List UInt8) : List (List Char) :=
  (byteLines head).map (·.map Char.ofUInt8)

/-- The code in a status line, such as `HTTP/1.1 200 OK`. -/
def statusCode? (line : List Char) : Option Nat :=
  match line.splitOn ' ' with
  | _ :: code :: _ => Numeral.read? code
  | _ => none

/-- The value of a header field; the case of its name does not count. -/
def headerField? (name : String) (lines : List (List Char)) : Option (List Char) :=
  lines.findSome? fun line =>
    if (line.takeWhile (· ≠ ':')).map Char.toLower = name.toList then
      some (trim ((line.dropWhile (· ≠ ':')).drop 1))
    else none

/-- The contents of chunks, each behind a line with its size. -/
def joinChunks? (bytes : List UInt8) : Option (List UInt8) :=
  let line := bytes.takeWhile (· ≠ 10)
  let digits := (line.map Char.ofUInt8).takeWhile fun c => (hexDigit? c).isSome
  match bytes.dropWhile (· ≠ 10), hexNumber? digits with
  | _ :: rest, some size =>
    let after := rest.drop (size + 2)
    if size = 0 then some []
    else if rest.length < size + 2 then none
    else if _h : after.length < bytes.length then (joinChunks? after).map (rest.take size ++ ·)
    else none
  | _, _ => none
termination_by bytes.length
decreasing_by exact _h

/-- The body of a reply, which is `none` if it ends too early. -/
def replyBody? (fields : List (List Char)) (rest : List UInt8) : Option (List UInt8) :=
  if headerField? "transfer-encoding" fields = some "chunked".toList then joinChunks? rest
  else
    match (headerField? "content-length" fields).bind Numeral.read? with
    | some n => if rest.length < n then none else some (rest.take n)
    | none => some rest

/-- Reads the bytes of a reply. -/
def Reply.ofBytes? (bytes : List UInt8) : Option Reply :=
  match splitHead? bytes with
  | none => none
  | some (head, rest) =>
    match headLines head with
    | [] => none
    | line :: fields =>
      match statusCode? line with
      | none => none
      | some status =>
        if status = 204 || status = 304 then some ⟨status, []⟩
        else (replyBody? fields rest).map fun body => ⟨status, body⟩

end Passage.Extraction
