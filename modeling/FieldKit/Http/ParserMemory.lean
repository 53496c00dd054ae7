/-
  File:      FieldKit/Http/ParserMemory.lean
  Subject:   `HttpResponseParser` (http_response_parser.cpp) on its two arrays: every access with its
             index, and the functions of the C library with the 0 they look for.

  What the parser makes of the bytes is `HttpResponseParser`. Here `none` is an access outside of an
  array, a string that nothing ends inside its array, or a negative length.

  * `write_refines` -- a byte is written without that, and does what it does to the parser;
  * `perform_refines` -- so does every sequence of calls;
  * `stays_inside` -- from the constructor, whatever the arrays hold, or behind `begin`, in any state.
-/
import Mathlib.Data.List.TakeWhile
import FieldKit.Http.ResponseParser
import FieldKit.Lib.Buffer

namespace FieldKit.ParserMemory

open Lib HttpResponseParser

/-! ## 1. The parser -/

/-- `HttpResponseParser`, with the position and the arrays. -/
structure Parser where
  readingHeader : Bool := true
  consecutiveNls : BitVec 8 := 0
  previous : Byte := 0
  spacesSeen : BitVec 8 := 0
  position : BitVec 8 := 0
  statusCode : BitVec 16 := 0
  contentLength : BitVec 32 := 0
  buffer : Vector Byte 64
  etag : Vector Byte 64
  deriving DecidableEq, Repr

namespace Parser

/-- `begin()`. -/
def begin (p : Parser) : Option Parser :=
  (put p.buffer 0 [0]).bind fun buffer => (put p.etag 0 [0]).map fun etag =>
    { p with
      readingHeader := true
      consecutiveNls := 0
      previous := 0
      position := 0
      spacesSeen := 0
      statusCode := 0
      buffer := buffer
      etag := etag }

/-- A byte and a 0 behind it, if there is room for both. -/
def push (c : Byte) (p : Parser) : Option Parser :=
  if p.position < 63 then
    (put p.buffer p.position.toNat [c]).bind fun buffer =>
      (put buffer (p.position + 1).toNat [0]).map fun buffer =>
        { p with buffer := buffer, position := p.position + 1 }
  else some p

/-- `buffer_[0] = 0` and `position_ = 0`. -/
def clear (p : Parser) : Option Parser :=
  (put p.buffer 0 [0]).map fun buffer => { p with buffer := buffer, position := 0 }

/-- What `write` does before it knows the status. -/
def writeStatus (c : Byte) (p : Parser) : Option Parser :=
  if p.spacesSeen < 2 then
    if c = ascii ' ' then
      if p.spacesSeen + 1 = 2 then
        (text p.buffer 0).bind fun s =>
          { p with
            spacesSeen := p.spacesSeen + 1
            statusCode := BitVec.ofInt 16 (atoi s) }.clear
      else { p with spacesSeen := p.spacesSeen + 1 }.clear
    else p.push c
  else some p

/-- The header of the length. -/
def readLength (p : Parser) : Option Parser :=
  (text p.buffer 0).bind fun line =>
    if startsWith contentLengthName line then
      (text p.buffer contentLengthName.length).map fun s =>
        { p with contentLength := BitVec.ofInt 32 (atoi s) }
    else some p

/-- The header of the tag: `position_ - ETagLength` bytes are copied. -/
def readTag (p : Parser) : Option Parser :=
  (text p.buffer 0).bind fun line =>
    if startsWith etagName line then
      if etagName.length ≤ p.position.toNat then
        let length := p.position.toNat - etagName.length
        (slice p.buffer etagName.length length).bind fun bytes =>
          (put p.etag 0 bytes).bind fun etag =>
            (put etag length [0]).map fun etag => { p with etag := etag }
      else none
    else some p

/-- Blank lines are counted. -/
def countBlank (c : Byte) (p : Parser) : Parser :=
  let blank : Bool := c = ascii '\n' ∧ (p.previous = ascii '\r' ∨ p.previous = ascii '\n')
  let nls := if blank then p.consecutiveNls + 1 else p.consecutiveNls
  { p with
    consecutiveNls := nls
    readingHeader := if blank ∧ nls = 2 then false else p.readingHeader }

/-- `write(c)`. -/
def write (c : Byte) (p : Parser) : Option Parser :=
  if p.statusCode = 0 then p.writeStatus c
  else
    (if c = ascii '\n' ∨ c = ascii '\r' then
      ((p.countBlank c).readLength.bind readTag).bind clear
    else { p with consecutiveNls := 0 }.push c).map fun p => { p with previous := c }

end Parser

/-- A call of `begin` or `write`. -/
inductive Call where
  | begin
  | write (c : Byte)
  deriving DecidableEq, Repr

namespace Call

/-- On the arrays. -/
def perform (p : Parser) : Call → Option Parser
  | .begin => p.begin
  | .write c => p.write c

/-- On the parser. -/
def apply (q : HttpResponseParser) : Call → HttpResponseParser
  | .begin => q.begin
  | .write c => q.write c

end Call

/-! ## 2. Strings that bytes are read as -/

/-- A name without a 0 is found in the string exactly if it is in the bytes. -/
theorem startsWith_takeWhile {name : List Byte} (hname : 0 ∉ name.map toLower) (l : List Byte) :
    startsWith name (l.takeWhile (· != 0)) = startsWith name l := by
  unfold startsWith
  rw [List.take_takeWhile, decide_eq_decide]
  constructor
  · intro h
    -- as many bytes as the name has are all there are
    have hlength := congrArg List.length h
    rw [List.length_map, List.length_map] at hlength
    have hwhole : (l.take name.length).takeWhile (· != 0) = l.take name.length := by
      refine (List.takeWhile_prefix _).eq_of_length_le ?_
      rw [hlength]
      exact List.length_take_le _ _
    rw [hwhole] at h
    exact h
  · intro h
    have hwhole : (l.take name.length).takeWhile (· != 0) = l.take name.length := by
      refine List.takeWhile_eq_self_iff.mpr fun c hc => ?_
      rw [bne_iff_ne]
      intro hzero
      refine hname ?_
      rw [← h, List.mem_map]
      exact ⟨c, hc, by rw [hzero]; rfl⟩
    rw [hwhole]
    exact h

theorem takeWhile_digits (l : List Byte) :
    (l.takeWhile (· != 0)).takeWhile isDigit = l.takeWhile isDigit := by
  rw [List.takeWhile_takeWhile]
  congr 1
  funext c
  by_cases hc : c = 0
  · rw [hc]
    rfl
  · have hne : (c != 0) = true := bne_iff_ne.mpr hc
    rw [hne]
    simp

/-- A number ends at a 0 anyway. -/
theorem atoi_takeWhile (l : List Byte) : atoi (l.takeWhile (· != 0)) = atoi l := by
  induction l with
  | nil => rfl
  | cons c cs ih =>
      by_cases hzero : c = 0
      · rw [hzero]
        rfl
      · have hne : (c != 0) = true := bne_iff_ne.mpr hzero
        rw [List.takeWhile_cons, if_pos hne]
        by_cases hspace : isSpace c = true
        · unfold atoi at ih ⊢
          rw [List.dropWhile_cons_of_pos hspace, List.dropWhile_cons_of_pos hspace]
          exact ih
        · have hdigits : (c :: cs.takeWhile (· != 0)).takeWhile isDigit =
              (c :: cs).takeWhile isDigit := by
            have hboth := takeWhile_digits (c :: cs)
            rw [List.takeWhile_cons, if_pos hne] at hboth
            exact hboth
          unfold atoi
          rw [List.dropWhile_cons_of_neg hspace, List.dropWhile_cons_of_neg hspace]
          dsimp only
          rw [takeWhile_digits, hdigits]

/-! ## 3. The arrays hold what the parser has -/

/-- Everything but the buffer. The tag stands in its array once there is one. -/
structure Fields (p : Parser) (q : HttpResponseParser) : Prop where
  readingHeader : p.readingHeader = q.readingHeader
  consecutiveNls : p.consecutiveNls = q.consecutiveNls
  previous : p.previous = q.previous
  spacesSeen : p.spacesSeen = q.spacesSeen
  statusCode : p.statusCode = q.statusCode
  contentLength : p.contentLength = q.contentLength
  etag : q.etag = [] ∨ ∃ rest, p.etag.toList = q.etag ++ 0 :: rest

/-- The bytes of the buffer with a 0 behind them; only where nothing was written yet there need not
    be one. -/
structure Holds (p : Parser) (q : HttpResponseParser) : Prop extends Fields p q where
  position : p.position.toNat = q.buffer.length
  room : q.buffer.length ≤ bufferSize - 1
  buffer : (∃ rest, p.buffer.toList = q.buffer ++ 0 :: rest) ∨
    (q.buffer = [] ∧ q.statusCode = 0 ∧ q.spacesSeen = 0)

section Buffer

variable {p : Parser} {q : HttpResponseParser}

theorem Holds.front (h : Holds p q) : p.buffer.toList.take q.buffer.length = q.buffer := by
  rcases h.buffer with ⟨rest, hlist⟩ | ⟨hnil, _⟩
  · rw [hlist, List.take_left]
  · rw [hnil]
    rfl

/-- Where it has begun, the string from any byte on is there. -/
theorem Holds.text (h : Holds p q) (hbegun : q.statusCode ≠ 0 ∨ q.spacesSeen ≠ 0) {i : Nat}
    (hi : i ≤ q.buffer.length) :
    text p.buffer i = some ((q.buffer.drop i).takeWhile (· != 0)) := by
  rcases h.buffer with ⟨rest, hlist⟩ | ⟨_, hstatus, hspaces⟩
  · rw [Lib.text, hlist, List.drop_append_of_le_length hi, ctext_append_zero]
  · rcases hbegun with hbegun | hbegun
    · exact absurd hstatus hbegun
    · exact absurd hspaces hbegun

/-- With `buffer_[0] = 0` it is empty, whatever it was. -/
theorem Fields.clear (h : Fields p q) :
    ∃ p', p.clear = some p' ∧ Holds p' { q with buffer := [] } := by
  refine ⟨_, congrArg (Option.map _) (put_eq_some p.buffer (by decide)), ?_⟩
  exact { h with
    position := rfl
    room := Nat.zero_le _
    buffer := Or.inl ⟨p.buffer.toList.drop 1, rfl⟩ }

theorem Holds.push (h : Holds p q) (c : Byte) : ∃ p', p.push c = some p' ∧ Holds p' (q.push c) := by
  have hposition := h.position
  have hroom : q.buffer.length ≤ 63 := h.room
  unfold Parser.push HttpResponseParser.push
  by_cases hfits : q.buffer.length < bufferSize - 1
  · have hlt : q.buffer.length < 63 := hfits
    have hfits' : p.position < 63 := by
      rw [BitVec.lt_def, hposition]
      exact hlt
    have hnext : (p.position + 1).toNat = q.buffer.length + [c].length := by
      have h1 : (1 : BitVec 8).toNat = 1 := rfl
      rw [BitVec.toNat_add, h1, hposition]
      exact Nat.mod_eq_of_lt (by omega)
    obtain ⟨written, ended, rest, hbyte, hzero, hlist⟩ :=
      put_ended p.buffer (i := q.buffer.length) (l := [c]) 0 (by rw [List.length_singleton]; omega)
    rw [h.front] at hlist
    rw [if_pos hfits', if_pos hfits, hposition, hbyte, Option.bind_some, hnext, hzero,
      Option.map_some]
    refine ⟨_, rfl, { h with
      position := ?_
      room := ?_
      buffer := Or.inl ⟨rest, hlist⟩ }⟩
    · rw [List.length_append]
      exact hnext
    · rw [List.length_append]
      exact hlt
  · have hfits' : ¬ p.position < 63 := by
      rw [BitVec.lt_def, hposition]
      exact hfits
    rw [if_neg hfits', if_neg hfits]
    exact ⟨p, rfl, h⟩

end Buffer

/-! ## 4. One call -/

section Calls

variable {p : Parser} {q : HttpResponseParser}

/-- `begin` in any state. -/
theorem begin_holds (p : Parser) :
    ∃ p', p.begin = some p' ∧ Holds p' { contentLength := p.contentLength } := by
  have hbuffer : put p.buffer 0 [0] = some (splice p.buffer 0 [0] (by decide)) := put_eq_some _ _
  have hetag : put p.etag 0 [0] = some (splice p.etag 0 [0] (by decide)) := put_eq_some _ _
  unfold Parser.begin
  rw [hbuffer, hetag, Option.bind_some, Option.map_some]
  refine ⟨_, rfl, ?_⟩
  exact {
    readingHeader := rfl
    consecutiveNls := rfl
    previous := rfl
    spacesSeen := rfl
    statusCode := rfl
    contentLength := rfl
    position := rfl
    room := Nat.zero_le _
    buffer := Or.inl ⟨p.buffer.toList.drop 1, rfl⟩
    etag := Or.inl rfl }

/-- From the constructor, whatever the arrays hold. -/
theorem constructed_holds (buffer etag : Vector Byte 64) :
    Holds { buffer := buffer, etag := etag } {} where
  readingHeader := rfl
  consecutiveNls := rfl
  previous := rfl
  spacesSeen := rfl
  statusCode := rfl
  contentLength := rfl
  position := rfl
  room := Nat.zero_le _
  buffer := Or.inr ⟨rfl, rfl, rfl⟩
  etag := Or.inl rfl

theorem Holds.writeStatus (h : Holds p q) (c : Byte) :
    ∃ p', p.writeStatus c = some p' ∧ Holds p' (q.writeStatus c) := by
  unfold Parser.writeStatus HttpResponseParser.writeStatus
  rw [h.spacesSeen]
  by_cases hspaces : q.spacesSeen < 2
  · rw [if_pos hspaces, if_pos hspaces]
    by_cases hspace : c = ascii ' '
    · rw [if_pos hspace, if_pos hspace]
      by_cases htwo : q.spacesSeen + 1 = 2
      · -- the second space: the first has ended what stands in the buffer
        have hone : q.spacesSeen ≠ 0 := by
          intro hzero
          rw [hzero] at htwo
          exact absurd htwo (by decide)
        rw [if_pos htwo, if_pos htwo, h.text (Or.inr hone) (Nat.zero_le _), Option.bind_some,
          List.drop_zero, atoi_takeWhile]
        have hread : Fields
            { p with
              spacesSeen := q.spacesSeen + 1
              statusCode := BitVec.ofInt 16 (atoi q.buffer) }
            { q with
              spacesSeen := q.spacesSeen + 1
              statusCode := BitVec.ofInt 16 (atoi q.buffer) } :=
          { h.toFields with
            spacesSeen := rfl
            statusCode := rfl }
        exact hread.clear
      · rw [if_neg htwo, if_neg htwo]
        have hfirst : Fields { p with spacesSeen := q.spacesSeen + 1 }
            { q with spacesSeen := q.spacesSeen + 1 } :=
          { h.toFields with spacesSeen := rfl }
        exact hfirst.clear
    · rw [if_neg hspace, if_neg hspace]
      exact h.push c
  · rw [if_neg hspaces, if_neg hspaces]
    exact ⟨p, rfl, h⟩

theorem length_le_of_startsWith {name l : List Byte} (h : startsWith name l = true) :
    name.length ≤ l.length := by
  have hlength := congrArg List.length (of_decide_eq_true h)
  rw [List.length_map, List.length_map, List.length_take] at hlength
  omega

/-- The header of the length is read as it is of the bytes. -/
theorem Holds.readLength (h : Holds p q) (hbegun : q.statusCode ≠ 0) :
    ∃ p', p.readLength = some p' ∧ Holds p' { q with
      contentLength := if startsWith contentLengthName q.buffer then
        BitVec.ofInt 32 (atoi (q.buffer.drop contentLengthName.length)) else q.contentLength } := by
  unfold Parser.readLength
  rw [h.text (Or.inl hbegun) (Nat.zero_le _), Option.bind_some, List.drop_zero,
    startsWith_takeWhile (by decide)]
  by_cases hname : startsWith contentLengthName q.buffer = true
  · rw [if_pos hname, if_pos hname, h.text (Or.inl hbegun) (length_le_of_startsWith hname),
      Option.map_some, atoi_takeWhile]
    exact ⟨_, rfl, { h with contentLength := rfl }⟩
  · rw [if_neg hname, if_neg hname]
    exact ⟨p, rfl, h⟩

/-- **The tag is copied**, and its length is not negative: the name is in front of the 0. -/
theorem Holds.readTag (h : Holds p q) (hbegun : q.statusCode ≠ 0) :
    ∃ p', p.readTag = some p' ∧ Holds p' { q with
      etag := if startsWith etagName q.buffer then q.buffer.drop etagName.length else q.etag } := by
  unfold Parser.readTag
  rw [h.text (Or.inl hbegun) (Nat.zero_le _), Option.bind_some, List.drop_zero,
    startsWith_takeWhile (by decide)]
  by_cases hname : startsWith etagName q.buffer = true
  · have hlength := length_le_of_startsWith hname
    have hroom : q.buffer.length ≤ 63 := h.room
    have hpos := h.position
    have hposition : etagName.length ≤ p.position.toNat := by omega
    have hslice : slice p.buffer etagName.length (p.position.toNat - etagName.length) =
        some (q.buffer.drop etagName.length) := by
      rw [slice, if_pos (by omega), ← List.drop_take, h.position, h.front]
    have htag : p.position.toNat - etagName.length = 0 + (q.buffer.drop etagName.length).length := by
      rw [List.length_drop, h.position, Nat.zero_add]
    obtain ⟨written, ended, rest, hcopy, hzero, hlist⟩ :=
      put_ended p.etag (i := 0) (l := q.buffer.drop etagName.length) 0 (by omega)
    rw [if_pos hname, if_pos hname, if_pos hposition]
    dsimp only
    rw [hslice, Option.bind_some, hcopy, Option.bind_some, htag, hzero, Option.map_some]
    exact ⟨_, rfl, { h with etag := Or.inr ⟨rest, hlist⟩ }⟩
  · rw [if_neg hname, if_neg hname]
    exact ⟨p, rfl, h⟩

theorem Holds.countBlank (h : Holds p q) (c : Byte) :
    Holds (p.countBlank c) { q with
      consecutiveNls := (q.writeLineEnd c).consecutiveNls
      readingHeader := (q.writeLineEnd c).readingHeader } := by
  have hheader : (p.countBlank c).readingHeader = (q.writeLineEnd c).readingHeader := by
    unfold Parser.countBlank writeLineEnd
    rw [h.previous, h.consecutiveNls, h.readingHeader]
  have hnls : (p.countBlank c).consecutiveNls = (q.writeLineEnd c).consecutiveNls := by
    unfold Parser.countBlank writeLineEnd
    rw [h.previous, h.consecutiveNls]
  exact { h with readingHeader := hheader, consecutiveNls := hnls }

/-- **A byte is written inside the arrays**, and does what it does to the parser. -/
theorem write_refines (h : Holds p q) (c : Byte) :
    ∃ p', p.write c = some p' ∧ Holds p' (q.write c) := by
  unfold Parser.write HttpResponseParser.write
  by_cases hstatus : q.statusCode = 0
  · rw [if_pos (h.statusCode.trans hstatus), if_pos hstatus]
    exact h.writeStatus c
  · rw [if_neg (fun hzero => hstatus (h.statusCode.symm.trans hzero)), if_neg hstatus]
    by_cases hend : c = ascii '\n' ∨ c = ascii '\r'
    · rw [if_pos hend, if_pos hend]
      obtain ⟨p₁, hp₁, h₁⟩ := (h.countBlank c).readLength hstatus
      obtain ⟨p₂, hp₂, h₂⟩ := h₁.readTag hstatus
      obtain ⟨p₃, hp₃, h₃⟩ := h₂.clear
      rw [hp₁, Option.bind_some, hp₂, Option.bind_some, hp₃, Option.map_some]
      exact ⟨_, rfl, { h₃ with previous := rfl }⟩
    · rw [if_neg hend, if_neg hend]
      have hreset : Holds { p with consecutiveNls := 0 } { q with consecutiveNls := 0 } :=
        { h with consecutiveNls := rfl }
      obtain ⟨p', hp', h'⟩ := hreset.push c
      rw [hp', Option.map_some]
      exact ⟨_, rfl, { h' with previous := rfl }⟩

/-- **So is every sequence of calls.** -/
theorem perform_refines (h : Holds p q) (calls : List Call) :
    ∃ p', calls.foldlM Call.perform p = some p' ∧ Holds p' (calls.foldl Call.apply q) := by
  induction calls generalizing p q with
  | nil => exact ⟨p, rfl, h⟩
  | cons call calls ih =>
      have hcall : ∃ p', call.perform p = some p' ∧ Holds p' (call.apply q) := by
        cases call with
        | begin =>
            obtain ⟨p', hp', hheld⟩ := begin_holds p
            rw [h.contentLength] at hheld
            exact ⟨p', hp', hheld⟩
        | write c => exact write_refines h c
      obtain ⟨p₁, hp₁, h₁⟩ := hcall
      obtain ⟨p', hp', h'⟩ := ih h₁
      refine ⟨p', ?_, h'⟩
      rw [List.foldlM_cons]
      show (call.perform p).bind _ = some p'
      rw [hp₁, Option.bind_some, hp']

/-- **Nothing is accessed outside of the arrays**, from the constructor on, or behind `begin`. -/
theorem stays_inside (start : Parser)
    (hstart : (∃ buffer etag, start = { buffer := buffer, etag := etag }) ∨
      ∃ before : Parser, before.begin = some start) (calls : List Call) :
    ∃ p, calls.foldlM Call.perform start = some p ∧ p.position.toNat ≤ bufferSize - 1 := by
  have hheld : ∃ q, Holds start q := by
    rcases hstart with ⟨buffer, etag, rfl⟩ | ⟨before, hbegin⟩
    · exact ⟨_, constructed_holds buffer etag⟩
    · obtain ⟨p', hp', hheld⟩ := begin_holds before
      rw [hbegin] at hp'
      cases hp'
      exact ⟨_, hheld⟩
  obtain ⟨q, hq⟩ := hheld
  obtain ⟨p, hp, hend⟩ := perform_refines hq calls
  refine ⟨p, hp, ?_⟩
  rw [hend.position]
  exact hend.room

/-- A parser whose arrays hold no 0. -/
def garbage : Parser := { buffer := Vector.replicate 64 1, etag := Vector.replicate 64 1 }

/-- A head of a single header, the tag, with nothing behind its name. -/
def emptyTag : List Call :=
  ([' ', '2', '0', '0', ' ', 'E', 'T', 'a', 'g', ':', ' ', '\n'].map ascii).map Call.write

/-- It copies nothing. -/
theorem garbage_inside : ∃ p, emptyTag.foldlM Call.perform garbage = some p ∧ p.position.toNat ≤ 63 :=
  stays_inside garbage (Or.inl ⟨_, _, rfl⟩) emptyTag

end Calls

end FieldKit.ParserMemory
