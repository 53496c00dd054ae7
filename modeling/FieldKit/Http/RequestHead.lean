/-
  File:      FieldKit/Http/RequestHead.lean
  Subject:   `HttpHeadersWriter` (http_response_writer.cpp): the head of a request, and what a server
             reads of it.

  The writer prints the parts one by one. The reader is that of a server: lines end in CR LF, an empty
  one ends the head, and the name of a field is what stands in front of the first colon. Texts are
  those of C strings; an empty `etag` is compared with the byte in front of it.

  * `readRequest_writeHeaders` -- the server reads the fields that were set, in their order, and the
    body from its first byte on, whatever the texts are, if none of them holds a CR or an LF.
-/
import FieldKit.Http.ResponseHead

namespace FieldKit

open HttpResponseParser (crlf numeral)

/-! ## 1. The writer -/

/-- A text of the source. -/
def literal (cs : List Char) : List Byte := cs.map ascii

/-- `OutgoingHttpHeaders`. A null pointer is `none`. -/
structure OutgoingHttpHeaders where
  contentType : Option (List Byte) := none
  version : Option (List Byte) := none
  build : Option (List Byte) := none
  deviceId : Option (List Byte) := none
  etag : Option (List Byte) := none
  compiled : BitVec 32 := 0
  contentLength : BitVec 32 := BitVec.allOnes 32
  fileId : BitVec 8 := BitVec.allOnes 8
  deriving DecidableEq, Repr

namespace OutgoingHttpHeaders

/-- `InvalidContentLength`. -/
def invalidContentLength : BitVec 32 := BitVec.allOnes 32

/-- `InvalidFileId`. -/
def invalidFileId : BitVec 8 := BitVec.allOnes 8

end OutgoingHttpHeaders

namespace HttpHeadersWriter

/-- `println(text)`. -/
def println (t : List Byte) : List Byte := t ++ crlf

/-- An etag as it is sent; `before` is the byte in front of it, which is looked at if it is empty. -/
def quoted (before : Byte) (etag : List Byte) : List Byte :=
  if etag.headD 0 ≠ ascii '"' ∧ etag.getLastD before ≠ ascii '"' then
    ascii '"' :: (etag ++ [ascii '"'])
  else etag

/-- The fields in the order in which they are printed; one that is not set is `none`. -/
def fields (server : List Byte) (before : Byte) (h : OutgoingHttpHeaders) :
    List (List Char × Option (List Byte)) :=
  [(['H', 'o', 's', 't'], some server),
   (['C', 'o', 'n', 'n', 'e', 'c', 't', 'i', 'o', 'n'], some (literal ['c', 'l', 'o', 's', 'e'])),
   (['C', 'o', 'n', 't', 'e', 'n', 't', '-', 'L', 'e', 'n', 'g', 't', 'h'],
    if h.contentLength ≠ OutgoingHttpHeaders.invalidContentLength then
      some (numeral h.contentLength.toNat) else none),
   (['C', 'o', 'n', 't', 'e', 'n', 't', '-', 'T', 'y', 'p', 'e'], h.contentType),
   (['I', 'f', '-', 'N', 'o', 'n', 'e', '-', 'M', 'a', 't', 'c', 'h'], h.etag.map (quoted before)),
   (['F', 'k', '-', 'F', 'i', 'l', 'e', 'I', 'd'],
    if h.fileId ≠ OutgoingHttpHeaders.invalidFileId then some (numeral h.fileId.toNat) else none),
   (['F', 'k', '-', 'V', 'e', 'r', 's', 'i', 'o', 'n'], h.version),
   (['F', 'k', '-', 'B', 'u', 'i', 'l', 'd'], h.build),
   (['F', 'k', '-', 'D', 'e', 'v', 'i', 'c', 'e', 'I', 'd'], h.deviceId),
   (['F', 'k', '-', 'C', 'o', 'm', 'p', 'i', 'l', 'e', 'd'],
    if 0 < h.compiled then some (numeral h.compiled.toNat) else none)]

/-- What is printed of a field. -/
def printField (name : List Char) : Option (List Byte) → List Byte
  | some value => literal name ++ (literal [':', ' '] ++ println value)
  | none => []

/-- The first line. -/
def requestLine (path method : List Byte) : List Byte :=
  method ++ (literal [' ', '/'] ++ (path ++ literal [' ', 'H', 'T', 'T', 'P', '/', '1', '.', '1']))

/-- `writeHeaders(url, method, headers)`. -/
def writeHeaders (path server method : List Byte) (before : Byte) (h : OutgoingHttpHeaders) :
    List Byte :=
  println (requestLine path method) ++
    ((fields server before h).flatMap (fun f => printField f.1 f.2) ++ println [])

end HttpHeadersWriter

/-! ## 2. The reader -/

/-- The lines of a head, and what stands behind it; `cur` is what there is of the first. -/
def readHead (cur : List Byte) : List Byte → Option (List (List Byte) × List Byte)
  | [] => none
  | [_] => none
  | c :: d :: rest =>
    if c = ascii '\r' ∧ d = ascii '\n' then
      if cur = [] then some ([], rest)
      else (readHead [] rest).map fun (lines, body) => (cur :: lines, body)
    else readHead (cur ++ [c]) (d :: rest)

/-- A field: its name, and its value. -/
def splitField (line : List Byte) : List Byte × List Byte :=
  (line.takeWhile (· ≠ ascii ':'), (line.dropWhile (· ≠ ascii ':')).drop 2)

/-- A request: its first line, its fields, and its body. -/
def readRequest (bytes : List Byte) :
    Option (List Byte × List (List Byte × List Byte) × List Byte) :=
  match readHead [] bytes with
  | some (first :: lines, body) => some (first, lines.map splitField, body)
  | _ => none

/-! ## 3. What is written is read -/

/-- A text that ends no line. -/
def Plain (t : List Byte) : Prop := ∀ c ∈ t, c ≠ ascii '\r' ∧ c ≠ ascii '\n'

theorem Plain.append {t u : List Byte} (ht : Plain t) (hu : Plain u) : Plain (t ++ u) := by
  intro c hc
  rcases List.mem_append.mp hc with hc | hc
  · exact ht c hc
  · exact hu c hc

theorem readHead_cons {c : Byte} (hc : c ≠ ascii '\r') (cur l : List Byte) :
    readHead cur (c :: l) = readHead (cur ++ [c]) l := by
  cases l with
  | nil => rfl
  | cons d rest =>
      rw [readHead, if_neg fun h => hc h.1]

/-- What stands in front of the next CR is part of the line. -/
theorem readHead_text {t : List Byte} (ht : Plain t) (cur l : List Byte) :
    readHead cur (t ++ l) = readHead (cur ++ t) l := by
  induction t generalizing cur with
  | nil => rw [List.nil_append, List.append_nil]
  | cons c t ih =>
      rw [List.cons_append, readHead_cons (ht c List.mem_cons_self).1,
        ih (fun d hd => ht d (List.mem_cons_of_mem c hd)), List.append_assoc, List.singleton_append]

/-- **A line.** -/
theorem readHead_println {t : List Byte} (ht : Plain t) (hne : t ≠ []) (rest : List Byte) :
    readHead [] (HttpHeadersWriter.println t ++ rest) =
      (readHead [] rest).map fun (lines, body) => (t :: lines, body) := by
  show readHead [] ((t ++ [ascii '\r', ascii '\n']) ++ rest) = _
  rw [List.append_assoc, readHead_text ht, List.nil_append]
  show readHead t (ascii '\r' :: ascii '\n' :: rest) = _
  rw [readHead, if_pos ⟨rfl, rfl⟩, if_neg hne]

/-- **The empty line** ends the head, and what is behind it is the body. -/
theorem readHead_blank (body : List Byte) :
    readHead [] (HttpHeadersWriter.println [] ++ body) = some ([], body) := by
  show readHead [] (ascii '\r' :: ascii '\n' :: body) = _
  rw [readHead, if_pos ⟨rfl, rfl⟩, if_pos rfl]

/-- A name that can stand in front of a colon. -/
def Name (name : List Char) : Prop := name ≠ [] ∧ Plain (literal name) ∧ ascii ':' ∉ literal name

instance (name : List Char) : Decidable (Name name) :=
  inferInstanceAs (Decidable (_ ∧ (∀ c ∈ literal name, _ ∧ _) ∧ _))

theorem splitField_line {name : List Char} (h : Name name) (value : List Byte) :
    splitField (literal name ++ (literal [':', ' '] ++ value)) = (literal name, value) := by
  have hname : ∀ c ∈ literal name, decide (c ≠ ascii ':') = true := by
    intro c hc
    exact decide_eq_true fun heq => h.2.2 (heq ▸ hc)
  have hcolon : literal [':', ' '] ++ value = ascii ':' :: ascii ' ' :: value := rfl
  unfold splitField
  rw [hcolon, List.takeWhile_append_of_pos hname, List.dropWhile_append_of_pos hname,
    List.takeWhile_cons_of_neg (by decide), List.dropWhile_cons_of_neg (by decide), List.append_nil]
  rfl

section RoundTrip

open HttpHeadersWriter

/-- The fields that are set, with their values. -/
def setFields (fs : List (List Char × Option (List Byte))) : List (List Byte × List Byte) :=
  fs.filterMap fun f => f.2.map fun value => (literal f.1, value)

/-- **The fields**, and the body behind them. -/
theorem readHead_fields {fs : List (List Char × Option (List Byte))} (hname : ∀ f ∈ fs, Name f.1)
    (hplain : ∀ f ∈ fs, ∀ value ∈ f.2, Plain value) (body : List Byte) :
    (readHead [] (fs.flatMap (fun f => printField f.1 f.2) ++ (println [] ++ body))).map
      (fun (lines, rest) => (lines.map splitField, rest)) = some (setFields fs, body) := by
  induction fs with
  | nil =>
      rw [List.flatMap_nil, List.nil_append, readHead_blank]
      rfl
  | cons f fs ih =>
      have hrest := ih (fun g hg => hname g (List.mem_cons_of_mem f hg))
        fun g hg => hplain g (List.mem_cons_of_mem f hg)
      obtain ⟨name, value⟩ := f
      rw [List.flatMap_cons]
      cases value with
      | none => exact hrest
      | some value =>
          have hn := hname _ List.mem_cons_self
          have hv := hplain _ List.mem_cons_self value rfl
          have hline : printField name (some value) =
              println (literal name ++ (literal [':', ' '] ++ value)) := by
            unfold printField println
            simp only [List.append_assoc]
          have hp : Plain (literal name ++ (literal [':', ' '] ++ value)) := by
            refine hn.2.1.append (Plain.append ?_ hv)
            unfold Plain
            decide
          have hne : literal name ++ (literal [':', ' '] ++ value) ≠ [] :=
            List.append_ne_nil_of_right_ne_nil _ (List.cons_ne_nil _ _)
          dsimp only
          rw [hline, List.append_assoc, readHead_println hp hne, Option.map_map]
          obtain ⟨⟨lines, rest⟩, hhead, hmap⟩ := Option.map_eq_some_iff.mp hrest
          rw [hhead]
          obtain ⟨hlines, rfl⟩ := Prod.mk.inj hmap
          show some ((splitField _ :: lines.map splitField), rest) = _
          rw [hlines, splitField_line hn]
          rfl

/-- No text holds a CR or an LF. -/
structure OutgoingHttpHeaders.Plain (h : OutgoingHttpHeaders) : Prop where
  contentType : ∀ t ∈ h.contentType, FieldKit.Plain t
  version : ∀ t ∈ h.version, FieldKit.Plain t
  build : ∀ t ∈ h.build, FieldKit.Plain t
  deviceId : ∀ t ∈ h.deviceId, FieldKit.Plain t
  etag : ∀ t ∈ h.etag, FieldKit.Plain t

theorem plain_none : ∀ t ∈ (none : Option (List Byte)), Plain t :=
  fun t ht => absurd ht (Option.not_mem_none t)

theorem plain_numeral (n : Nat) : Plain (numeral n) := by
  intro c hc
  exact ⟨fun h => HttpResponseParser.not_mem_numeral n (c := ascii '\r') (by decide) (h ▸ hc),
    fun h => HttpResponseParser.not_mem_numeral n (c := ascii '\n') (by decide) (h ▸ hc)⟩

theorem plain_quoted {before : Byte} {etag : List Byte} (h : Plain etag) :
    Plain (quoted before etag) := by
  unfold quoted
  split
  · intro c hc
    rcases List.mem_cons.mp hc with rfl | hc
    · decide
    · rcases List.mem_append.mp hc with hc | hc
      · exact h c hc
      · rw [List.mem_singleton.mp hc]
        decide
  · exact h

theorem fields_names {server : List Byte} {before : Byte} {h : OutgoingHttpHeaders} :
    ∀ f ∈ fields server before h, Name f.1 := by
  unfold fields
  simp only [List.forall_mem_cons]
  exact ⟨by decide, by decide, by decide, by decide, by decide, by decide, by decide, by decide,
    by decide, by decide, fun _ hf => absurd hf List.not_mem_nil⟩

theorem plain_of_ite {c : Prop} [Decidable c] {n : Nat} {value : List Byte}
    (hv : value ∈ if c then some (numeral n) else none) : Plain value := by
  split at hv
  · cases hv
    exact plain_numeral n
  · cases hv

theorem fields_plain {server : List Byte} {before : Byte} {h : OutgoingHttpHeaders}
    (hserver : Plain server) (hh : h.Plain) :
    ∀ f ∈ fields server before h, ∀ value ∈ f.2, Plain value := by
  unfold fields
  simp only [List.forall_mem_cons]
  refine ⟨?_, ?_, fun _ hv => plain_of_ite hv, hh.contentType, ?_, fun _ hv => plain_of_ite hv,
    hh.version, hh.build, hh.deviceId, fun _ hv => plain_of_ite hv,
    fun _ hf => absurd hf List.not_mem_nil⟩
  · intro value hv
    cases hv
    exact hserver
  · intro value hv
    cases hv
    unfold Plain
    decide
  · intro value hv
    obtain ⟨etag, hetag, rfl⟩ := Option.map_eq_some_iff.mp hv
    exact plain_quoted (hh.etag etag hetag)

theorem plain_requestLine {path method : List Byte} (hpath : Plain path) (hmethod : Plain method) :
    Plain (requestLine path method) := by
  refine hmethod.append (Plain.append ?_ (hpath.append ?_)) <;> unfold Plain <;> decide

theorem requestLine_ne_nil (path method : List Byte) : requestLine path method ≠ [] :=
  List.append_ne_nil_of_right_ne_nil _ (List.cons_ne_nil _ _)

/-- A head of any line and any fields. -/
theorem readRequest_fields {line : List Byte} (hline : Plain line) (hne : line ≠ [])
    {fs : List (List Char × Option (List Byte))} (hname : ∀ f ∈ fs, Name f.1)
    (hplain : ∀ f ∈ fs, ∀ value ∈ f.2, Plain value) (body : List Byte) :
    readRequest (println line ++ (fs.flatMap (fun f => printField f.1 f.2) ++ println []) ++ body) =
      some (line, setFields fs, body) := by
  obtain ⟨⟨lines, rest⟩, hhead, hmap⟩ := Option.map_eq_some_iff.mp (readHead_fields hname hplain body)
  obtain ⟨hlines, rfl⟩ := Prod.mk.inj hmap
  unfold readRequest
  rw [List.append_assoc, List.append_assoc, readHead_println hline hne, hhead]
  show some (_, lines.map splitField, _) = _
  rw [hlines]

/-- **What is written is read**: the first line, the fields that were set with their values, and the body
    from its first byte on. -/
theorem readRequest_writeHeaders {path server method : List Byte} {before : Byte}
    {h : OutgoingHttpHeaders} (hpath : Plain path) (hserver : Plain server) (hmethod : Plain method)
    (hh : h.Plain) (body : List Byte) :
    readRequest (writeHeaders path server method before h ++ body) =
      some (requestLine path method, setFields (fields server before h), body) := by
  have hline := plain_requestLine hpath hmethod
  have hplain : ∀ f ∈ fields server before h, ∀ value ∈ f.2, Plain value := fields_plain hserver hh
  exact readRequest_fields hline (requestLine_ne_nil path method) fields_names hplain body

/-- A request of CheckFirmware, whose etag goes with it in quotes. -/
theorem readRequest_etag :
    readRequest (writeHeaders (literal ['f']) (literal ['h']) (literal ['G', 'E', 'T']) 0
        { etag := some (literal ['a']) } ++ [1]) =
      some (literal ['G', 'E', 'T', ' ', '/', 'f', ' ', 'H', 'T', 'T', 'P', '/', '1', '.', '1'],
        [(literal ['H', 'o', 's', 't'], literal ['h']),
         (literal ['C', 'o', 'n', 'n', 'e', 'c', 't', 'i', 'o', 'n'], literal ['c', 'l', 'o', 's', 'e']),
         (literal ['I', 'f', '-', 'N', 'o', 'n', 'e', '-', 'M', 'a', 't', 'c', 'h'],
          literal ['"', 'a', '"'])], [1]) :=
  (readRequest_writeHeaders (by unfold Plain; decide) (by unfold Plain; decide)
    (by unfold Plain; decide)
    ⟨plain_none, plain_none, plain_none, plain_none, fun t ht => by cases ht; unfold Plain; decide⟩
    [1]).trans (by decide)

end RoundTrip

end FieldKit
