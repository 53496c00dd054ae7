/-
  File:      FieldKit/Http/ResponseParser.lean
  Subject:   The parser of a response's head (http_response_parser.cpp), one byte at a time.

  `buffer_` always ends in a NUL at `position_`; the bytes before it are the list `buffer`, and
  `position_` is its length. A byte that does not fit is dropped.
-/
import FieldKit.Platform

namespace FieldKit

/-! ## 1. What it takes from the C library -/

/-- The byte of an ASCII character. -/
def ascii (c : Char) : Byte := BitVec.ofNat 8 c.toNat

/-- `isspace`. -/
def isSpace (c : Byte) : Bool := c = 32 ∨ (9 ≤ c.toNat ∧ c.toNat ≤ 13)

/-- `isdigit`. -/
def isDigit (c : Byte) : Bool := 48 ≤ c.toNat ∧ c.toNat ≤ 57

/-- `tolower`. -/
def toLower (c : Byte) : Byte := if 65 ≤ c.toNat ∧ c.toNat ≤ 90 then c + 32 else c

/-- The number that a run of digits spells. -/
def decimal (digits : List Byte) : Nat :=
  digits.foldl (fun n d => 10 * n + (d.toNat - 48)) 0

/-- `atoi`: white space, a sign, digits; out of range it saturates, as `strtol` does. -/
def atoi (s : List Byte) : Int :=
  match s.dropWhile isSpace with
  | [] => 0
  | c :: cs =>
    if c = ascii '-' then max (-(2 ^ 31 : Int)) (-(decimal (cs.takeWhile isDigit) : Int))
    else if c = ascii '+' then min (2 ^ 31 - 1 : Int) (decimal (cs.takeWhile isDigit))
    else min (2 ^ 31 - 1 : Int) (decimal ((c :: cs).takeWhile isDigit))

/-- `strncasecmp(s, name, strlen(name)) == 0`. -/
def startsWith (name s : List Byte) : Bool :=
  (s.take name.length).map toLower = name.map toLower

/-! ## 2. The parser -/

/-- `HttpResponseParser`. -/
structure HttpResponseParser where
  readingHeader : Bool := true
  consecutiveNls : BitVec 8 := 0
  previous : Byte := 0
  spacesSeen : BitVec 8 := 0
  statusCode : BitVec 16 := 0
  contentLength : BitVec 32 := 0
  buffer : List Byte := []
  etag : List Byte := []
  deriving DecidableEq, Repr

namespace HttpResponseParser

/-- `BufferSize`. -/
def bufferSize : Nat := 64

/-- `ContentLength`. -/
def contentLengthName : List Byte :=
  ['C', 'o', 'n', 't', 'e', 'n', 't', '-', 'L', 'e', 'n', 'g', 't', 'h', ':', ' '].map ascii

/-- `ETag`. -/
def etagName : List Byte := ['E', 'T', 'a', 'g', ':', ' '].map ascii

/-- `begin()`: everything but the content length. -/
def begin (p : HttpResponseParser) : HttpResponseParser := { contentLength := p.contentLength }

/-- A byte at the end of the buffer, if it fits. -/
def push (c : Byte) (p : HttpResponseParser) : HttpResponseParser :=
  if p.buffer.length < bufferSize - 1 then { p with buffer := p.buffer ++ [c] } else p

/-- What `write` does before it knows the status: the second space ends it. -/
def writeStatus (c : Byte) (p : HttpResponseParser) : HttpResponseParser :=
  if p.spacesSeen < 2 then
    if c = ascii ' ' then
      { p with
        spacesSeen := p.spacesSeen + 1
        statusCode := if p.spacesSeen + 1 = 2 then BitVec.ofInt 16 (atoi p.buffer)
          else p.statusCode
        buffer := [] }
    else p.push c
  else p

/-- What `write` does at a line end: blank lines are counted, and the line is a header's. -/
def writeLineEnd (c : Byte) (p : HttpResponseParser) : HttpResponseParser :=
  let blank : Bool := c = ascii '\n' ∧ (p.previous = ascii '\r' ∨ p.previous = ascii '\n')
  let nls := if blank then p.consecutiveNls + 1 else p.consecutiveNls
  { p with
    consecutiveNls := nls
    readingHeader := if blank ∧ nls = 2 then false else p.readingHeader
    contentLength :=
      if startsWith contentLengthName p.buffer then
        BitVec.ofInt 32 (atoi (p.buffer.drop contentLengthName.length))
      else p.contentLength
    etag := if startsWith etagName p.buffer then p.buffer.drop etagName.length else p.etag
    buffer := [] }

/-- `write(c)`. -/
def write (p : HttpResponseParser) (c : Byte) : HttpResponseParser :=
  if p.statusCode = 0 then p.writeStatus c
  else if c = ascii '\n' ∨ c = ascii '\r' then { p.writeLineEnd c with previous := c }
  else { { p with consecutiveNls := 0 }.push c with previous := c }

end HttpResponseParser

end FieldKit
