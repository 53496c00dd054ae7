/-
  File:      FieldKit/Http/ResponseHead.lean
  Subject:   What the parser has read after any bytes, and after a well-formed head.

  Behind the second space a response is lines, ended by CR or LF and cut to 63 bytes. What the
  parser holds is what the last line of each kind says.

  * `feed_begin` -- status, content length and etag after any bytes;
  * `reuse_iff` -- a parser used again agrees with a new one exactly if the old response leaves no
    content length, or the new one brings its own; `length_leaks` -- one that does not;
  * `head_parsed` -- a well-formed head, and that it ends where it ends.
-/
import FieldKit.Http.ResponseParser
import FieldKit.Lib.Lines
import Mathlib.Data.List.TakeWhile

namespace FieldKit

open Lib

/-! ## 1. Lines -/

/-- The bytes that end a line. -/
def isLineEnd (c : Byte) : Bool := c = ascii '\n' ∨ c = ascii '\r'

namespace HttpResponseParser

/-- Byte by byte. -/
def feed (p : HttpResponseParser) (bytes : List Byte) : HttpResponseParser := bytes.foldl write p

@[simp] theorem feed_nil (p : HttpResponseParser) : p.feed [] = p := rfl

@[simp] theorem feed_cons (p : HttpResponseParser) (c : Byte) (cs : List Byte) :
    p.feed (c :: cs) = (p.write c).feed cs := rfl

theorem feed_append (p : HttpResponseParser) (l l' : List Byte) :
    p.feed (l ++ l') = (p.feed l).feed l' := List.foldl_append

/-- What the buffer keeps of a text. -/
def cut (text : List Byte) : List Byte := text.take (bufferSize - 1)

/-- The content length in a line. -/
def lengthOf (line : List Byte) : Option (BitVec 32) :=
  if startsWith contentLengthName (cut line) then
    some (BitVec.ofInt 32 (atoi ((cut line).drop contentLengthName.length)))
  else none

/-- The etag in a line. -/
def tagOf (line : List Byte) : Option (List Byte) :=
  if startsWith etagName (cut line) then some ((cut line).drop etagName.length) else none

/-- The status, and the bytes behind the space that ends it. -/
def afterStatus (bytes : List Byte) : Option (BitVec 16 × List Byte) :=
  match bytes.dropWhile (· ≠ ascii ' ') with
  | [] => none
  | _ :: rest =>
    match rest.dropWhile (· ≠ ascii ' ') with
    | [] => none
    | _ :: lines =>
      some (BitVec.ofInt 16 (atoi (cut (rest.takeWhile (· ≠ ascii ' ')))), lines)

/-- The lines that a response has brought to their end. A status that reads as 0 hides them. -/
def headerLines (bytes : List Byte) : List (List Byte) :=
  match afterStatus bytes with
  | some (status, lines) => if status = 0 then [] else completeLines isLineEnd [] lines
  | none => []

/-- **The content length that a response has declared**: that of the last such line. -/
def declaredLength (bytes : List Byte) : Option (BitVec 32) :=
  ((headerLines bytes).filterMap lengthOf).getLast?

/-- **The etag that a response has declared.** -/
def declaredTag (bytes : List Byte) : Option (List Byte) :=
  ((headerLines bytes).filterMap tagOf).getLast?

/-! ## 2. What one byte does -/

theorem cut_concat (text : List Byte) (c : Byte) :
    (if (cut text).length < bufferSize - 1 then cut text ++ [c] else cut text) =
      cut (text ++ [c]) := by
  unfold cut
  rw [List.length_take]
  split
  · next h =>
      have hlen : text.length < bufferSize - 1 := by omega
      rw [List.take_of_length_le hlen.le, List.take_of_length_le (by simp; omega)]
  · next h =>
      have hlen : bufferSize - 1 ≤ text.length := by omega
      rw [List.take_append_of_le_length hlen]

/-- A byte of the status line. -/
theorem write_status {p : HttpResponseParser} (hs : p.statusCode = 0) (hsp : p.spacesSeen < 2)
    {text : List Byte} (hb : p.buffer = cut text) {c : Byte} (hc : c ≠ ascii ' ') :
    p.write c = { p with buffer := cut (text ++ [c]) } := by
  unfold write writeStatus push
  rw [if_pos hs, if_pos hsp, if_neg hc, hb, ← cut_concat]
  split
  · rfl
  · rw [← hb]

/-- A byte inside a line. -/
theorem write_text {p : HttpResponseParser} (hs : p.statusCode ≠ 0) {text : List Byte}
    (hb : p.buffer = cut text) {c : Byte} (hc : isLineEnd c = false) :
    p.write c = { p with consecutiveNls := 0, buffer := cut (text ++ [c]), previous := c } := by
  have hc : ¬ (c = ascii '\n' ∨ c = ascii '\r') := of_decide_eq_false hc
  unfold write push
  rw [if_neg hs, if_neg hc, ← cut_concat, ← hb]
  dsimp only
  split <;> rfl

/-- A byte that ends a line: what the line says replaces what was said before. -/
theorem write_end {p : HttpResponseParser} (hs : p.statusCode ≠ 0) {line : List Byte}
    (hb : p.buffer = cut line) {c : Byte} (hc : isLineEnd c = true) :
    (p.write c).statusCode = p.statusCode ∧ (p.write c).buffer = [] ∧
      (p.write c).contentLength = (lengthOf line).getD p.contentLength ∧
      (p.write c).etag = (tagOf line).getD p.etag := by
  have hc : c = ascii '\n' ∨ c = ascii '\r' := of_decide_eq_true hc
  unfold write writeLineEnd lengthOf tagOf
  rw [if_neg hs, if_pos hc, hb]
  refine ⟨rfl, rfl, ?_, ?_⟩
  · cases startsWith contentLengthName (cut line) <;> rfl
  · cases startsWith etagName (cut line) <;> rfl

/-! ## 3. What any bytes do -/

/-- **Behind the status**: the parser holds what the last lines say, and the open one. -/
theorem feed_lines (bytes : List Byte) {p : HttpResponseParser} (hs : p.statusCode ≠ 0)
    (cur : List Byte) (hb : p.buffer = cut cur) :
    (p.feed bytes).statusCode = p.statusCode ∧
      (p.feed bytes).contentLength =
        (((completeLines isLineEnd cur bytes).filterMap lengthOf).getLast?).getD p.contentLength ∧
      (p.feed bytes).etag =
        (((completeLines isLineEnd cur bytes).filterMap tagOf).getLast?).getD p.etag := by
  induction bytes generalizing p cur with
  | nil => exact ⟨rfl, rfl, rfl⟩
  | cons c cs ih =>
      rw [feed_cons]
      cases hc : isLineEnd c with
      | false =>
          obtain ⟨hstatus, hlength, htag⟩ := ih (p := p.write c)
            (by rw [write_text hs hb hc]; exact hs) (cur ++ [c]) (by rw [write_text hs hb hc])
          rw [completeLines, if_neg (by simp [hc])]
          refine ⟨hstatus.trans ?_, hlength.trans ?_, htag.trans ?_⟩
          all_goals rw [write_text hs hb hc]
      | true =>
          obtain ⟨hstatus, hbuffer, hlength, htag⟩ := write_end hs hb hc
          obtain ⟨hstatus', hlength', htag'⟩ := ih (p := p.write c) (by rwa [hstatus]) []
            hbuffer
          rw [completeLines, if_pos hc]
          refine ⟨hstatus'.trans hstatus, ?_, ?_⟩
          · rw [hlength', hlength, List.filterMap_cons]
            cases lengthOf cur <;> simp [List.getLast?_cons]
          · rw [htag', htag, List.filterMap_cons]
            cases tagOf cur <;> simp [List.getLast?_cons]

/-- A word of the status line. -/
theorem feed_word {p : HttpResponseParser} (hs : p.statusCode = 0) (hsp : p.spacesSeen < 2)
    {word : List Byte} (hword : ascii ' ' ∉ word) (cur : List Byte)
    (hb : p.buffer = cut cur) : p.feed word = { p with buffer := cut (cur ++ word) } := by
  induction word generalizing p cur with
  | nil => rw [feed_nil, List.append_nil, ← hb]
  | cons c cs ih =>
      rw [List.mem_cons, not_or] at hword
      rw [feed_cons, write_status hs hsp hb (Ne.symm hword.1),
        ih (p := { p with buffer := cut (cur ++ [c]) }) hs hsp hword.2 (cur ++ [c]) rfl]
      simp

/-- A status that reads as 0 is never left. -/
theorem feed_stuck {p : HttpResponseParser} (hs : p.statusCode = 0) (hsp : ¬ p.spacesSeen < 2)
    (bytes : List Byte) : p.feed bytes = p := by
  induction bytes with
  | nil => rfl
  | cons c cs ih =>
      have hwrite : p.write c = p := by
        unfold write writeStatus
        rw [if_pos hs, if_neg hsp]
      rw [feed_cons, hwrite, ih]

theorem notSpace_of_mem {word : List Byte} (h : ascii ' ' ∉ word) :
    ∀ c ∈ word, decide (c ≠ ascii ' ') = true := by
  intro c hc
  rw [decide_eq_true_iff]
  rintro rfl
  exact h hc

/-- A word is passed over. -/
theorem dropWhile_word {word : List Byte} (h : ascii ' ' ∉ word) (rest : List Byte) :
    (word ++ rest).dropWhile (· ≠ ascii ' ') = rest.dropWhile (· ≠ ascii ' ') :=
  List.dropWhile_append_of_pos (notSpace_of_mem h)

theorem takeWhile_word {word : List Byte} (h : ascii ' ' ∉ word) (rest : List Byte) :
    (word ++ ascii ' ' :: rest).takeWhile (· ≠ ascii ' ') = word := by
  rw [List.takeWhile_append_of_pos (notSpace_of_mem h)]
  simp

/-- A status line is two words, each with its space. -/
theorem afterStatus_line {version word : List Byte} (hversion : ascii ' ' ∉ version)
    (hword : ascii ' ' ∉ word) (lines : List Byte) :
    afterStatus (version ++ ascii ' ' :: (word ++ ascii ' ' :: lines)) =
      some (BitVec.ofInt 16 (atoi (cut word)), lines) := by
  unfold afterStatus
  rw [dropWhile_word hversion, List.dropWhile_cons_of_neg (by simp)]
  dsimp only
  rw [dropWhile_word hword, List.dropWhile_cons_of_neg (by simp), takeWhile_word hword]

theorem afterStatus_none {version word : List Byte} (hversion : ascii ' ' ∉ version)
    (hword : ascii ' ' ∉ word) : afterStatus (version ++ ascii ' ' :: word) = none := by
  unfold afterStatus
  rw [dropWhile_word hversion, List.dropWhile_cons_of_neg (by simp)]
  have hnil := dropWhile_word hword []
  rw [List.append_nil] at hnil
  dsimp only
  rw [hnil]
  rfl

/-- The parser behind the second space. -/
def reading (status : BitVec 16) (p : HttpResponseParser) : HttpResponseParser :=
  { p.begin with spacesSeen := 2, statusCode := status }

/-- One word of the status line. -/
theorem feed_firstWord (p : HttpResponseParser) {version : List Byte}
    (hversion : ascii ' ' ∉ version) (rest : List Byte) :
    p.begin.feed (version ++ ascii ' ' :: rest) =
      ({ p.begin with spacesSeen := 1 } : HttpResponseParser).feed rest := by
  have hspaces : p.begin.spacesSeen < 2 := (by decide : (0 : BitVec 8) < 2)
  rw [feed_append, feed_word rfl hspaces hversion [] rfl, feed_cons]
  rfl

/-- **The status line**: two words, and the second is the status. -/
theorem feed_statusLine (p : HttpResponseParser) {version word : List Byte}
    (hversion : ascii ' ' ∉ version) (hword : ascii ' ' ∉ word) (lines : List Byte) :
    p.begin.feed (version ++ ascii ' ' :: (word ++ ascii ' ' :: lines)) =
      (reading (BitVec.ofInt 16 (atoi (cut word))) p).feed lines := by
  rw [feed_firstWord p hversion, feed_append,
    feed_word (p := { p.begin with spacesSeen := 1 }) rfl (show (1 : BitVec 8) < 2 by decide) hword
      [] rfl,
    feed_cons]
  rfl

/-- **What the parser has read after any bytes.** -/
theorem feed_begin (p : HttpResponseParser) (bytes : List Byte) :
    (p.begin.feed bytes).statusCode = ((afterStatus bytes).map Prod.fst).getD 0 ∧
      (p.begin.feed bytes).contentLength = (declaredLength bytes).getD p.contentLength ∧
      (p.begin.feed bytes).etag = (declaredTag bytes).getD [] := by
  unfold declaredLength declaredTag headerLines
  by_cases hfirst : ascii ' ' ∈ bytes
  · obtain ⟨version, rest, rfl, hversion⟩ := List.eq_append_cons_of_mem hfirst
    by_cases hsecond : ascii ' ' ∈ rest
    · obtain ⟨word, lines, rfl, hword⟩ := List.eq_append_cons_of_mem hsecond
      rw [afterStatus_line hversion hword, feed_statusLine p hversion hword]
      generalize BitVec.ofInt 16 (atoi (cut word)) = status
      by_cases hs : status = 0
      · subst hs
        rw [feed_stuck rfl (show ¬ (2 : BitVec 8) < 2 by decide)]
        exact ⟨rfl, rfl, rfl⟩
      · obtain ⟨hstatus, hlength, htag⟩ :=
          feed_lines lines (p := reading status p) hs [] rfl
        simp only [hs, if_false]
        exact ⟨hstatus, hlength, htag⟩
    · rw [afterStatus_none hversion hsecond, feed_firstWord p hversion,
        feed_word (p := { p.begin with spacesSeen := 1 }) rfl (show (1 : BitVec 8) < 2 by decide)
          hsecond [] rfl]
      exact ⟨rfl, rfl, rfl⟩
  · have hspaces : p.begin.spacesSeen < 2 := (by decide : (0 : BitVec 8) < 2)
    have hnone : afterStatus bytes = none := by
      have hnil := dropWhile_word hfirst []
      rw [List.append_nil] at hnil
      unfold afterStatus
      rw [hnil]
      rfl
    rw [hnone, feed_word rfl hspaces hfirst [] rfl]
    exact ⟨rfl, rfl, rfl⟩

/-! ## 4. A parser used again -/

/-- A byte does the same whatever content length the parser holds, but for the content length. -/
theorem write_withLength (p : HttpResponseParser) (n : BitVec 32) (c : Byte) :
    ∃ n', ({ p with contentLength := n } : HttpResponseParser).write c =
      { p.write c with contentLength := n' } := by
  unfold write
  split
  · refine ⟨n, ?_⟩
    unfold writeStatus push
    dsimp only
    split
    · split
      · rfl
      · split <;> rfl
    · rfl
  · split
    · exact ⟨_, rfl⟩
    · refine ⟨n, ?_⟩
      unfold push
      dsimp only
      split <;> rfl

/-- **Bytes do the same**, but for the content length. -/
theorem feed_withLength (bytes : List Byte) (p : HttpResponseParser) (n : BitVec 32) :
    ∃ n', ({ p with contentLength := n } : HttpResponseParser).feed bytes =
      { p.feed bytes with contentLength := n' } := by
  induction bytes generalizing p n with
  | nil => exact ⟨n, rfl⟩
  | cons c cs ih =>
      obtain ⟨n', hwrite⟩ := write_withLength p n c
      obtain ⟨n'', hfeed⟩ := ih (p.write c) n'
      exact ⟨n'', by rw [feed_cons, hwrite, hfeed, feed_cons]⟩

/-- **What a parser shows**: two of them agree. -/
structure Agrees (p q : HttpResponseParser) : Prop where
  statusCode : p.statusCode = q.statusCode
  contentLength : p.contentLength = q.contentLength
  etag : p.etag = q.etag
  readingHeader : p.readingHeader = q.readingHeader

/-- **A parser that has read `A` and is begun again agrees with a new one on `B` exactly if `A` has
    left no content length, or `B` declares one.** -/
theorem reuse_iff (A B : List Byte) :
    Agrees ((({} : HttpResponseParser).feed A).begin.feed B)
        (({} : HttpResponseParser).begin.feed B) ↔
      (declaredLength A).getD 0 = 0 ∨ declaredLength B ≠ none := by
  have hlength : (({} : HttpResponseParser).feed A).contentLength = (declaredLength A).getD 0 :=
    (feed_begin {} A).2.1
  have hreused := (feed_begin (({} : HttpResponseParser).feed A) B).2.1
  have hnew := (feed_begin {} B).2.1
  -- begun again, the two differ in the content length alone
  obtain ⟨n, hfeed⟩ := feed_withLength B ({} : HttpResponseParser).begin
    (({} : HttpResponseParser).feed A).contentLength
  have hagrees : Agrees ((({} : HttpResponseParser).feed A).begin.feed B)
      (({} : HttpResponseParser).begin.feed B) ↔
      (declaredLength B).getD ((declaredLength A).getD 0) = (declaredLength B).getD 0 := by
    rw [← hlength, ← hreused]
    refine Iff.trans ⟨Agrees.contentLength, fun h => ?_⟩ (by rw [hnew])
    have hbegin : (({} : HttpResponseParser).feed A).begin =
      { ({} : HttpResponseParser).begin with
        contentLength := (({} : HttpResponseParser).feed A).contentLength } := rfl
    refine ⟨?_, h, ?_, ?_⟩
    all_goals rw [hbegin, hfeed]
  rw [hagrees]
  cases declaredLength B with
  | none => simp
  | some m => simp

/-- "HTTP/1.1 200 OK", with a content length of 7. -/
def sevenBytes : List Byte :=
  ['H', 'T', 'T', 'P', '/', '1', '.', '1', ' ', '2', '0', '0', ' ', 'O', 'K', '\r', '\n',
   'C', 'o', 'n', 't', 'e', 'n', 't', '-', 'L', 'e', 'n', 'g', 't', 'h', ':', ' ', '7', '\r', '\n',
   '\r', '\n'].map ascii

/-- "HTTP/1.1 404 NO", without one. -/
def notFound : List Byte :=
  ['H', 'T', 'T', 'P', '/', '1', '.', '1', ' ', '4', '0', '4', ' ', 'N', 'O', '\r', '\n',
   '\r', '\n'].map ascii

/-- The second response still shows the length of the first. -/
theorem length_leaks : ¬ ∀ A B : List Byte,
    Agrees ((({} : HttpResponseParser).feed A).begin.feed B)
      (({} : HttpResponseParser).begin.feed B) := by
  intro hall
  have := (hall sevenBytes notFound).contentLength
  exact absurd this (by decide)

/-! ## 5. Well-formed heads -/

/-- CR LF. -/
def crlf : List Byte := [ascii '\r', ascii '\n']

/-- The decimal numeral of a number. -/
def numeral (n : Nat) : List Byte := (Nat.toDigits 10 n).map ascii

/-- A `Content-Length` line, and an `ETag` line. -/
def IsLength (line : List Byte) : Prop := startsWith contentLengthName line = true
def IsTag (line : List Byte) : Prop := startsWith etagName line = true

instance (line : List Byte) : Decidable (IsLength line) := inferInstanceAs (Decidable (_ = true))
instance (line : List Byte) : Decidable (IsTag line) := inferInstanceAs (Decidable (_ = true))

/-- The decimal number behind the name in a `Content-Length` line. -/
def lengthValue (line : List Byte) : Nat :=
  decimal ((line.drop contentLengthName.length).takeWhile isDigit)

/-- **The head of a response**, with what makes it well formed. -/
structure ResponseHead where
  version : List Byte
  status : Nat
  reason : List Byte
  headers : List (List Byte)
  word : ascii ' ' ∉ version
  positive : 1 ≤ status
  bounded : status ≤ 65535
  phrase : ∀ c ∈ reason, isLineEnd c = false
  plain : ¬ IsLength reason ∧ ¬ IsTag reason
  lines : ∀ line ∈ headers, line ≠ [] ∧ ∀ c ∈ line, isLineEnd c = false ∧ c ≠ 0
  short : ∀ line ∈ headers, IsLength line ∨ IsTag line → line.length ≤ 63
  number : ∀ line ∈ (headers.filter (IsLength ·)).getLast?,
    (∃ d ∈ (line.drop contentLengthName.length).head?, isDigit d = true) ∧
      lengthValue line < 2 ^ 31

namespace ResponseHead

/-- A line with its end. -/
def ended (line : List Byte) : List Byte := line ++ crlf

/-- The bytes of the head. -/
def bytes (h : ResponseHead) : List Byte :=
  h.version ++ ascii ' ' :: (numeral h.status ++ ascii ' ' ::
    (ended h.reason ++ (h.headers.flatMap ended ++ crlf)))

/-- The number in the last `Content-Length` line, 0 if there is none. -/
def contentLength (h : ResponseHead) : Nat :=
  ((h.headers.filter (IsLength ·)).getLast?).elim 0 lengthValue

/-- The rest of the last `ETag` line, empty if there is none. -/
def etag (h : ResponseHead) : List Byte :=
  ((h.headers.filter (IsTag ·)).getLast?).elim [] (·.drop etagName.length)

end ResponseHead

/-! ### The status -/

theorem ascii_digit {c : Char} (hc : c.isDigit = true) :
    isDigit (ascii c) = true ∧ (ascii c).toNat = c.toNat := by
  have hbound : 48 ≤ c.toNat ∧ c.toNat ≤ 57 := Char.isDigit_iff_toNat.mp hc
  have hnat : (ascii c).toNat = c.toNat := by
    rw [ascii, BitVec.toNat_ofNat, Nat.mod_eq_of_lt (by omega)]
  refine ⟨?_, hnat⟩
  unfold isDigit
  rw [hnat]
  exact decide_eq_true hbound

theorem isDigit_of_mem_numeral {n : Nat} {c : Byte} (hc : c ∈ numeral n) : isDigit c = true := by
  obtain ⟨d, hd, rfl⟩ := List.mem_map.mp hc
  exact (ascii_digit (Nat.isDigit_of_mem_toDigits (by decide) (by decide) hd)).1

/-- **A numeral spells its number.** -/
theorem decimal_numeral (n : Nat) : decimal (numeral n) = n := by
  have hfold : ∀ (l : List Char) (init : Nat), (∀ c ∈ l, c.isDigit = true) →
      (l.map ascii).foldl (fun n d => 10 * n + (d.toNat - 48)) init =
        Nat.ofDigitChars 10 l init := by
    intro l
    induction l with
    | nil => intro init _; rfl
    | cons c cs ih =>
        intro init hl
        rw [List.map_cons, List.foldl_cons, Nat.ofDigitChars_cons,
          (ascii_digit (hl c List.mem_cons_self)).2,
          ih _ fun d hd => hl d (List.mem_cons_of_mem c hd)]
        rfl
  exact (hfold _ 0 fun c hc => Nat.isDigit_of_mem_toDigits (by decide) (by decide) hc).trans
    Nat.ofDigitChars_ten_toDigits

/-- A number that begins with a digit is read up to the first byte that is none. -/
theorem atoi_digits {text : List Byte} (hfirst : ∃ d ∈ text.head?, isDigit d = true)
    (hbound : decimal (text.takeWhile isDigit) < 2 ^ 31) :
    atoi text = (decimal (text.takeWhile isDigit) : Int) := by
  obtain ⟨d, hd, hdigit⟩ := hfirst
  cases text with
  | nil => cases hd
  | cons c cs =>
      cases hd
      have hrange : 48 ≤ d.toNat ∧ d.toNat ≤ 57 := of_decide_eq_true hdigit
      have hspace : isSpace d = false := by
        refine decide_eq_false ?_
        rintro (rfl | h)
        · exact absurd hrange (by decide)
        · omega
      have hminus : d ≠ ascii '-' := by
        rintro rfl
        exact absurd hrange (by decide)
      have hplus : d ≠ ascii '+' := by
        rintro rfl
        exact absurd hrange (by decide)
      unfold atoi
      rw [List.dropWhile_cons_of_neg (by simp [hspace])]
      dsimp only
      rw [if_neg hminus, if_neg hplus]
      omega

theorem not_mem_numeral (n : Nat) {c : Byte} (hc : isDigit c = false) : c ∉ numeral n := by
  intro hmem
  rw [isDigit_of_mem_numeral hmem] at hc
  cases hc

theorem numeral_ne_nil (n : Nat) : numeral n ≠ [] :=
  fun h => Nat.toDigits_ne_nil (List.map_eq_nil_iff.mp h)

/-- **A numeral is read back.** -/
theorem atoi_numeral {n : Nat} (hn : n ≤ 65535) : atoi (numeral n) = n := by
  have htake : (numeral n).takeWhile isDigit = numeral n :=
    List.takeWhile_eq_self_iff.mpr fun c hc => isDigit_of_mem_numeral hc
  have hfirst : ∃ d ∈ (numeral n).head?, isDigit d = true := by
    obtain ⟨d, ds, hnum⟩ := List.exists_cons_of_ne_nil (numeral_ne_nil n)
    rw [hnum]
    exact ⟨d, rfl, isDigit_of_mem_numeral (n := n) (hnum ▸ List.mem_cons_self)⟩
  rw [atoi_digits hfirst (by rw [htake, decimal_numeral]; omega), htake, decimal_numeral]

/-- **The status is read from its numeral.** -/
theorem status_numeral {n : Nat} (hn : n ≤ 65535) :
    (BitVec.ofInt 16 (atoi (cut (numeral n)))).toNat = n := by
  have hlen : (numeral n).length ≤ 5 := by
    rw [numeral, List.length_map]
    exact (Nat.length_toDigits_le_iff (by decide) (by decide)).mpr (by omega)
  have hcut : cut (numeral n) = numeral n :=
    List.take_of_length_le (hlen.trans (by decide))
  rw [hcut, atoi_numeral hn, BitVec.ofInt_natCast, BitVec.toNat_ofNat]
  omega

/-! ### The lines -/

/-- The names are short enough to be seen in what is kept of a line. -/
theorem startsWith_cut {name : List Byte} (hname : name.length ≤ bufferSize - 1)
    (line : List Byte) : startsWith name (cut line) = startsWith name line := by
  unfold startsWith cut
  rw [List.take_take, Nat.min_eq_left hname]

theorem lengthOf_eq (line : List Byte) :
    lengthOf line = if IsLength line then
      some (BitVec.ofInt 32 (atoi ((cut line).drop contentLengthName.length))) else none := by
  unfold lengthOf IsLength
  rw [startsWith_cut (by decide)]
  rfl

theorem tagOf_eq (line : List Byte) :
    tagOf line = if IsTag line then some ((cut line).drop etagName.length) else none := by
  unfold tagOf IsTag
  rw [startsWith_cut (by decide)]
  rfl

/-- The lines of a well-formed head, with the empty ones between CR and LF. -/
theorem completeLines_ended {line : List Byte} (h : ∀ c ∈ line, isLineEnd c = false)
    (rest : List Byte) :
    completeLines isLineEnd [] (ResponseHead.ended line ++ rest) =
      line :: [] :: completeLines isLineEnd [] rest := by
  rw [ResponseHead.ended, crlf, List.append_assoc, List.cons_append, List.cons_append,
    List.nil_append, completeLines_line h (by decide)]
  exact congrArg (line :: ·) (if_pos (by decide))

/-- **Only the header lines count.** -/
theorem filterMap_headers {α : Type} (f : List Byte → Option α) (hnil : f [] = none)
    (h : ResponseHead) (hreason : f h.reason = none) :
    (completeLines isLineEnd [] (ResponseHead.ended h.reason ++
      (h.headers.flatMap ResponseHead.ended ++ crlf))).filterMap f = h.headers.filterMap f := by
  have hlines : ∀ headers : List (List Byte),
      (∀ line ∈ headers, ∀ c ∈ line, isLineEnd c = false) →
      (completeLines isLineEnd [] (headers.flatMap ResponseHead.ended ++ crlf)).filterMap f =
        headers.filterMap f := by
    intro headers
    induction headers with
    | nil =>
        intro _
        rw [List.flatMap_nil, List.nil_append, ← List.nil_append crlf, ← List.append_nil ([] ++ crlf)]
        rw [← ResponseHead.ended, completeLines_ended (by simp)]
        simp [completeLines, hnil]
    | cons line headers ih =>
        intro hends
        rw [List.flatMap_cons, List.append_assoc,
          completeLines_ended (hends line List.mem_cons_self), List.filterMap_cons,
          List.filterMap_cons, hnil, ih fun l hl => hends l (List.mem_cons_of_mem line hl),
          List.filterMap_cons]
  rw [completeLines_ended h.phrase, List.filterMap_cons, hreason, List.filterMap_cons, hnil]
  exact hlines h.headers fun line hl c hc => ((h.lines line hl).2 c hc).1

/-! ### The end of the head -/

/-- What the reading of the head depends on. -/
structure Heading (p : HttpResponseParser) (nls : BitVec 8) : Prop where
  status : p.statusCode ≠ 0
  reading : p.readingHeader = true
  nls : p.consecutiveNls = nls

/-- A byte of a line begins the count of newlines again. -/
theorem Heading.text {p : HttpResponseParser} {nls : BitVec 8} (h : Heading p nls) {c : Byte}
    (hc : isLineEnd c = false) : Heading (p.write c) 0 := by
  have hc : ¬ (c = ascii '\n' ∨ c = ascii '\r') := of_decide_eq_false hc
  unfold write push
  rw [if_neg h.status, if_neg hc]
  dsimp only
  split
  · exact ⟨h.status, h.reading, rfl⟩
  · exact ⟨h.status, h.reading, rfl⟩

/-- CR does not count. -/
theorem Heading.cr {p : HttpResponseParser} {nls : BitVec 8} (h : Heading p nls) :
    Heading (p.write (ascii '\r')) nls ∧ (p.write (ascii '\r')).previous = ascii '\r' := by
  unfold write
  rw [if_neg h.status, if_pos (Or.inr rfl)]
  exact ⟨⟨h.status, h.reading, h.nls⟩, rfl⟩

/-- LF behind CR counts one. -/
theorem Heading.lf {p : HttpResponseParser} {nls : BitVec 8} (h : Heading p nls)
    (hprev : p.previous = ascii '\r') :
    (p.write (ascii '\n')).statusCode = p.statusCode ∧
      (p.write (ascii '\n')).consecutiveNls = nls + 1 ∧
      (p.write (ascii '\n')).readingHeader = decide (nls + 1 ≠ 2) := by
  have hblank : decide (ascii '\n' = ascii '\n' ∧
      (p.previous = ascii '\r' ∨ p.previous = ascii '\n')) = true :=
    decide_eq_true ⟨rfl, Or.inl hprev⟩
  unfold write writeLineEnd
  rw [if_neg h.status, if_pos (Or.inl rfl), hblank]
  refine ⟨rfl, congrArg (· + 1) h.nls, ?_⟩
  dsimp only
  rw [if_pos rfl, h.nls, h.reading]
  by_cases htwo : nls + 1 = 2 <;> simp

/-- **A line and its end**, unless it is empty and a blank line already: one newline is counted. -/
theorem Heading.line {p : HttpResponseParser} {nls : BitVec 8} (h : Heading p nls)
    {line : List Byte} (hline : ∀ c ∈ line, isLineEnd c = false) (hempty : line = [] → nls = 0) :
    Heading (p.feed (ResponseHead.ended line)) 1 := by
  have hzero : Heading (p.feed line) 0 := by
    induction line generalizing p nls with
    | nil =>
        obtain rfl := hempty rfl
        exact h
    | cons c cs ih =>
        exact ih (h.text (hline c List.mem_cons_self))
          (fun d hd => hline d (List.mem_cons_of_mem c hd)) fun _ => rfl
  obtain ⟨hcr, hprev⟩ := hzero.cr
  obtain ⟨hstatus, hnls, hreading⟩ := hcr.lf hprev
  rw [ResponseHead.ended, feed_append]
  exact ⟨hstatus ▸ hcr.status, hreading, hnls⟩

/-- Any number of header lines. -/
theorem Heading.lines {p : HttpResponseParser} (h : Heading p 1) (headers : List (List Byte))
    (hheaders : ∀ line ∈ headers, line ≠ [] ∧ ∀ c ∈ line, isLineEnd c = false) :
    Heading (p.feed (headers.flatMap ResponseHead.ended)) 1 := by
  induction headers generalizing p with
  | nil => exact h
  | cons line headers ih =>
      obtain ⟨hne, hends⟩ := hheaders line List.mem_cons_self
      rw [List.flatMap_cons, feed_append]
      exact ih (h.line hends fun hnil => absurd hnil hne)
        fun l hl => hheaders l (List.mem_cons_of_mem line hl)

/-- Behind the head the parser stays. -/
theorem reading_of_write {p : HttpResponseParser} {c : Byte}
    (h : (p.write c).readingHeader = true) : p.readingHeader = true := by
  unfold write at h
  split at h
  · unfold writeStatus push at h
    split at h
    · split at h
      · exact h
      · split at h <;> exact h
    · exact h
  · split at h
    · have hkeep : ∀ (blank : Prop) [Decidable blank],
          (if blank then false else p.readingHeader) = true → p.readingHeader = true := by
        intro blank _ hblank
        split at hblank
        · cases hblank
        · exact hblank
      exact hkeep _ h
    · unfold push at h
      dsimp only at h
      split at h <;> exact h

theorem reading_of_feed {p : HttpResponseParser} (bytes : List Byte)
    (h : (p.feed bytes).readingHeader = true) : p.readingHeader = true := by
  induction bytes generalizing p with
  | nil => exact h
  | cons c cs ih => exact reading_of_write (ih h)

/-- The status line of a well-formed head. -/
theorem feed_head (h : ResponseHead) (rest : List Byte) :
    ({} : HttpResponseParser).begin.feed (h.version ++ ascii ' ' ::
        (numeral h.status ++ ascii ' ' :: rest)) =
      (reading (BitVec.ofInt 16 (atoi (cut (numeral h.status)))) {}).feed rest :=
  feed_statusLine {} h.word (not_mem_numeral h.status (by decide)) rest

theorem status_ne_zero (h : ResponseHead) :
    BitVec.ofInt 16 (atoi (cut (numeral h.status))) ≠ 0 := by
  intro hzero
  have hnat := status_numeral h.bounded
  have hpos := h.positive
  rw [hzero] at hnat
  change 0 = h.status at hnat
  omega

/-- The lines of the head up to the last newline. -/
def front (h : ResponseHead) : List Byte :=
  h.version ++ ascii ' ' :: (numeral h.status ++ ascii ' ' ::
    (ResponseHead.ended h.reason ++ (h.headers.flatMap ResponseHead.ended ++ [ascii '\r'])))

theorem bytes_eq_front (h : ResponseHead) : h.bytes = front h ++ [ascii '\n'] := by
  simp [ResponseHead.bytes, front, crlf]

/-- Up to there the parser is reading the header, with one newline counted. -/
theorem front_read (h : ResponseHead) :
    Heading (({} : HttpResponseParser).begin.feed (front h)) 1 ∧
      (({} : HttpResponseParser).begin.feed (front h)).previous = ascii '\r' := by
  rw [front, feed_head, feed_append, feed_append, feed_cons, feed_nil]
  have hbegun : Heading (reading (BitVec.ofInt 16 (atoi (cut (numeral h.status)))) {}) 0 :=
    ⟨status_ne_zero h, rfl, rfl⟩
  have hreason := hbegun.line h.phrase fun _ => rfl
  have hlines := hreason.lines h.headers
    fun line hl => ⟨(h.lines line hl).1, fun c hc => ((h.lines line hl).2 c hc).1⟩
  exact hlines.cr

/-- **The head is read to its end and no further.** -/
theorem head_ends (h : ResponseHead) :
    (∀ pre, pre <+: h.bytes → pre ≠ h.bytes →
        (({} : HttpResponseParser).begin.feed pre).readingHeader = true) ∧
      (({} : HttpResponseParser).begin.feed h.bytes).readingHeader = false := by
  obtain ⟨hfront, hprev⟩ := front_read h
  constructor
  · intro pre hpre hne
    rw [bytes_eq_front] at hpre hne
    rcases List.prefix_concat_iff.mp hpre with heq | hpre
    · exact absurd heq hne
    · obtain ⟨rest, hrest⟩ := hpre
      refine reading_of_feed rest ?_
      rw [← feed_append, hrest]
      exact hfront.reading
  · rw [bytes_eq_front, feed_append, feed_cons, feed_nil, (hfront.lf hprev).2.2]
    decide

/-- What the lines of a well-formed head say. -/
theorem filterMap_head {α : Type} (f : List Byte → Option α) (hnil : f [] = none)
    (h : ResponseHead) (hreason : f h.reason = none) :
    (headerLines h.bytes).filterMap f = h.headers.filterMap f := by
  unfold headerLines ResponseHead.bytes
  rw [afterStatus_line h.word (not_mem_numeral h.status (by decide))]
  dsimp only
  rw [if_neg (status_ne_zero h)]
  exact filterMap_headers f hnil h hreason

/-- Lines of one kind, and what each of them says. -/
theorem filterMap_kind {α : Type} (isKind : List Byte → Prop) [DecidablePred isKind]
    (value : List Byte → α) (headers : List (List Byte)) :
    headers.filterMap (fun line => if isKind line then some (value line) else none) =
      (headers.filter (isKind ·)).map value := by
  induction headers with
  | nil => rfl
  | cons line headers ih =>
      rw [List.filterMap_cons, List.filter_cons]
      by_cases hkind : isKind line <;> simp [hkind, ih]

/-- **The content length of a well-formed head.** -/
theorem head_length (h : ResponseHead) :
    ((declaredLength h.bytes).getD 0).toNat = h.contentLength := by
  unfold declaredLength ResponseHead.contentLength
  rw [filterMap_head lengthOf (by decide) h ((lengthOf_eq _).trans (if_neg h.plain.1)),
    List.filterMap_congr fun line _ => lengthOf_eq line, filterMap_kind, List.getLast?_map]
  have hnumber := h.number
  cases hlast : (h.headers.filter (IsLength ·)).getLast? with
  | none => rfl
  | some line =>
      rw [hlast] at hnumber
      obtain ⟨hdigit, hbound⟩ := hnumber line rfl
      obtain ⟨hmem, hkind⟩ := List.mem_filter.mp (List.mem_of_getLast? hlast)
      have hcut : cut line = line :=
        List.take_of_length_le (h.short line hmem (Or.inl (of_decide_eq_true hkind)))
      unfold lengthValue at hbound
      rw [Option.map_some, Option.getD_some, hcut, atoi_digits hdigit hbound, BitVec.ofInt_natCast,
        BitVec.toNat_ofNat, Nat.mod_eq_of_lt (hbound.trans (by decide))]
      rfl

/-- **The etag of a well-formed head.** -/
theorem head_tag (h : ResponseHead) : (declaredTag h.bytes).getD [] = h.etag := by
  unfold declaredTag ResponseHead.etag
  rw [filterMap_head tagOf (by decide) h ((tagOf_eq _).trans (if_neg h.plain.2)),
    List.filterMap_congr fun line _ => tagOf_eq line, filterMap_kind, List.getLast?_map]
  cases hlast : (h.headers.filter (IsTag ·)).getLast? with
  | none => rfl
  | some line =>
      obtain ⟨hmem, hkind⟩ := List.mem_filter.mp (List.mem_of_getLast? hlast)
      have hcut : cut line = line :=
        List.take_of_length_le (h.short line hmem (Or.inr (of_decide_eq_true hkind)))
      rw [Option.map_some, Option.getD_some, hcut]
      rfl

/-- **The status of a well-formed head.** -/
theorem head_status (h : ResponseHead) :
    (({} : HttpResponseParser).begin.feed h.bytes).statusCode.toNat = h.status := by
  rw [(feed_begin {} h.bytes).1, ResponseHead.bytes,
    afterStatus_line h.word (not_mem_numeral h.status (by decide))]
  exact status_numeral h.bounded

/-- **The content length that is read from it.** -/
theorem head_contentLength (h : ResponseHead) :
    (({} : HttpResponseParser).begin.feed h.bytes).contentLength.toNat = h.contentLength := by
  rw [(feed_begin {} h.bytes).2.1]
  exact head_length h

/-- **A well-formed head is read to its end and no further**, and what it says is read. -/
theorem head_parsed (h : ResponseHead) :
    (∀ pre, pre <+: h.bytes → pre ≠ h.bytes →
        (({} : HttpResponseParser).begin.feed pre).readingHeader = true) ∧
      (({} : HttpResponseParser).begin.feed h.bytes).readingHeader = false ∧
      (({} : HttpResponseParser).begin.feed h.bytes).statusCode.toNat = h.status ∧
      (({} : HttpResponseParser).begin.feed h.bytes).contentLength.toNat = h.contentLength ∧
      (({} : HttpResponseParser).begin.feed h.bytes).etag = h.etag := by
  obtain ⟨hreading, hended⟩ := head_ends h
  exact ⟨hreading, hended, head_status h, head_contentLength h,
    (feed_begin {} h.bytes).2.2.trans (head_tag h)⟩

/-- "HTTP/1.1 200 OK", with a content length of 1. -/
def oneByte : ResponseHead where
  version := ['H', 'T', 'T', 'P', '/', '1', '.', '1'].map ascii
  status := 200
  reason := ['O', 'K'].map ascii
  headers := [contentLengthName ++ [ascii '1']]
  word := by decide
  positive := by decide
  bounded := by decide
  phrase := by decide
  plain := by decide
  lines := by decide
  short := by decide
  number := by decide

/-- It is not read to its end without its last byte. -/
theorem head_parsed_oneByte :
    (({} : HttpResponseParser).begin.feed oneByte.bytes.dropLast).readingHeader = true ∧
      (({} : HttpResponseParser).begin.feed oneByte.bytes).readingHeader = false ∧
      (({} : HttpResponseParser).begin.feed oneByte.bytes).statusCode.toNat = 200 ∧
      (({} : HttpResponseParser).begin.feed oneByte.bytes).contentLength.toNat = 1 ∧
      (({} : HttpResponseParser).begin.feed oneByte.bytes).etag = [] := by
  obtain ⟨hreading, hended, hstatus, hlength, htag⟩ := head_parsed oneByte
  refine ⟨hreading _ (List.dropLast_prefix _) ?_, hended, hstatus, hlength.trans ?_, htag.trans ?_⟩
  · intro heq
    exact absurd (congrArg List.length heq) (by decide)
  · decide
  · decide

end HttpResponseParser

end FieldKit
