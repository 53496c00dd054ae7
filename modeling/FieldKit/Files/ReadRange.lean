/-
  File:      FieldKit/Files/ReadRange.lean
  Subject:   Does a reader serve the range it was opened on (file_reader.cpp)?

  `FileCopy.lean` has a read by how many bytes the file hands over in all. Here it is the loop of
  the source: the file is asked again until the buffer is full, hands over as little as it likes
  each time, and one byte at least while it has any. The count that is returned is an `int`.

  * `readLoop_eq`, `readInto_eq` -- the loop fills the buffer, as the read of `FileCopy.lean` does
    when the file has enough;
  * `reader_serves_iff` -- when the reads hand over the range and `size() - tell()` is what is left
    of it: all but for an offset behind the end of the file together with a length;
  * `reader_past_end` -- in that case something seems to be left.
-/
import FieldKit.Files.FileCopy

namespace FieldKit

/-! ## 1. The loop -/

/-- A call of `read(ptr, size)`: the size of the buffer, and what the file hands over at most,
    less one, each time it is asked. -/
structure ReadRequest where
  size : BitVec 32
  short : Nat → Nat
  nonempty : 0 < size.toNat

namespace FileReader

/-- `lws::Stream::EOS`. -/
def EOS : Int := -1

/-- The loop of `read`, at the `k`-th call of the file's `read`: the bytes, and whether the file
    had no more. At most as many turns are left as bytes remain. -/
def readLoop (content : List Byte) (short : Nat → Nat) : Nat → Nat → Nat → Nat → List Byte × Bool
  | 0, _, _, _ => ([], false)
  | fuel + 1, k, position, remaining =>
    if remaining = 0 then ([], false)
    else
      match (content.drop position).take (min (short k + 1) remaining) with
      | [] => ([], true)
      | b :: bs =>
        let n := (b :: bs).length
        let rest := readLoop content short fuel (k + 1) (position + n) (remaining - n)
        (b :: bs ++ rest.1, rest.2)

/-- `read(ptr, size)`: what it returns, the bytes in the buffer and the reader. -/
def readInto (content : List Byte) (q : ReadRequest) (r : FileReader) :
    (Int × List Byte) × FileReader :=
  if r.done then ((EOS, []), r)
  else
    let remaining := min q.size.toNat (r.size - r.tell).toNat
    let (bytes, short) := readLoop content q.short remaining 0 r.position remaining
    let position := r.position + bytes.length
    let count := BitVec.ofNat 32 bytes.length
    ((if count = 0 then EOS else count.toInt, bytes),
      { r with position, done := short || decide (BitVec.ofNat 32 position = r.size) })

/-- **The loop fills the buffer as far as the file goes**, however short the file's reads are. -/
theorem readLoop_eq (content : List Byte) (short : Nat → Nat) (fuel k position remaining : Nat)
    (h : remaining ≤ fuel) :
    readLoop content short fuel k position remaining =
      ((content.drop position).take remaining,
        decide ((content.drop position).length < remaining)) := by
  induction fuel generalizing k position remaining with
  | zero =>
      obtain rfl : remaining = 0 := by omega
      simp [readLoop]
  | succ fuel ih =>
      unfold readLoop
      split
      · next hzero => simp [hzero]
      · next hpos =>
          split
          · next hnil =>
              have hend : content.drop position = [] := by
                rcases List.take_eq_nil_iff.mp hnil with hmin | hdrop
                · omega
                · exact hdrop
              rw [hend]
              simp
              omega
          · next b bs hb =>
              have hlen := congrArg List.length hb
              rw [List.length_take] at hlen
              dsimp only
              generalize hn : (b :: bs).length = n at hlen ⊢
              have hn1 : 0 < n := by
                rw [← hn]
                exact Nat.succ_pos _
              have htake : (content.drop position).take n = b :: bs := by
                rw [← hb, List.take_eq_take_iff]
                omega
              rw [ih (k + 1) (position + n) (remaining - n) (by omega), ← htake, ← List.drop_drop]
              refine Prod.ext ?_ ?_
              · show (content.drop position).take n ++
                  ((content.drop position).drop n).take (remaining - n) = _
                rw [← List.take_add, show n + (remaining - n) = remaining by omega]
              · show decide (((content.drop position).drop n).length < remaining - n) = _
                rw [List.length_drop, decide_eq_decide]
                omega

/-- **It is the read of a file that hands over enough**, with the count as an `int`. -/
theorem readInto_eq (content : List Byte) (q : ReadRequest) (r : FileReader) :
    (r.readInto content q).2 = (r.read content q.size.toNat q.size.toNat).2 ∧
      (r.readInto content q).1.2 = ((r.read content q.size.toNat q.size.toNat).1).getD [] := by
  unfold readInto FileReader.read
  split
  · exact ⟨rfl, rfl⟩
  · dsimp only
    generalize hn : min q.size.toNat (r.size - r.tell).toNat = n
    have hshort : decide ((content.drop r.position).length < n) =
        decide (((content.drop r.position).take n).length < n) := by
      rw [List.length_take, decide_eq_decide]
      omega
    rw [readLoop_eq content q.short n 0 r.position n (Nat.le_refl n),
      Nat.min_eq_right (by omega : n ≤ q.size.toNat)]
    dsimp only
    rw [hshort]
    constructor
    · rfl
    · split
      · next hnil => rw [hnil]; rfl
      · rfl

end FileReader

/-! ## 2. The range -/

namespace ReadRange

open FileReader

/-- The bytes from `offset` up to `offset + length` or the end of the file; a length of 0 means up
    to the end. -/
def range (content : List Byte) (offset length : BitVec 32) : List Byte :=
  if length = 0 then content.drop offset.toNat
  else (content.drop offset.toNat).take length.toNat

/-- What a read should return, and put into the buffer, when these bytes are left. -/
def serve (left : List Byte) (q : ReadRequest) : Int × List Byte :=
  if left = [] then (EOS, [])
  else ((left.take q.size.toNat).length, left.take q.size.toNat)

/-- **The reads hand over what is left, one piece after the other**, and at every point
    `size() - tell()` is how many bytes that is. -/
def Serves (content : List Byte) : List Byte → List ReadRequest → FileReader → Prop
  | left, [], r => (r.size - r.tell).toNat = left.length
  | left, q :: qs, r =>
    (r.size - r.tell).toNat = left.length ∧
      (r.readInto content q).1 = serve left q ∧
      Serves content (left.drop q.size.toNat) qs (r.readInto content q).2

/-- The bytes that reads put into their buffers, one buffer after the other. -/
def handedOver (content : List Byte) : List ReadRequest → FileReader → List Byte
  | [], _ => []
  | q :: qs, r => (r.readInto content q).1.2 ++ handedOver content qs (r.readInto content q).2

/-- Every count of these reads is an `int`. -/
def Countable : Nat → List ReadRequest → Prop
  | _, [] => True
  | left, q :: qs => min q.size.toNat left < 2 ^ 31 ∧ Countable (left - q.size.toNat) qs

/-- What `size()` finds to be the range: it does not begin behind the end of the file, or goes to
    its end, or ends there by the arithmetic of 32 bits. -/
def Within (fileSize : Nat) (offset length : BitVec 32) : Prop :=
  offset.toNat ≤ fileSize ∨ length = 0 ∨ offset + length = BitVec.ofNat 32 fileSize

/-- **Reads that serve it put the beginning of what is left into the buffers.** -/
theorem Serves.handedOver {content left : List Byte} {qs : List ReadRequest} {r : FileReader}
    (h : Serves content left qs r) :
    handedOver content qs r = left.take ((qs.map fun q => q.size.toNat).sum) := by
  induction qs generalizing left r with
  | nil => simp [ReadRange.handedOver]
  | cons q qs ih =>
      obtain ⟨_, hread, hrest⟩ := h
      have hbytes : (r.readInto content q).1.2 = left.take q.size.toNat := by
        rw [hread]
        unfold serve
        split
        · next hnil => simp [hnil]
        · rfl
      rw [ReadRange.handedOver, hbytes, ih hrest, List.map_cons, List.sum_cons, List.take_add]

/-- The reader stands before what is left of its range. -/
structure At (content left : List Byte) (r : FileReader) : Prop where
  inside : r.position + left.length ≤ content.length
  bytes : left = (content.drop r.position).take left.length
  limit : r.size = BitVec.ofNat 32 (r.position + left.length)
  done : r.done = true → left = []

section Reads

variable {content left : List Byte} {r : FileReader}

/-- `size() - tell()` is what is left. -/
theorem At.remaining (hi : At content left r) (hc : content.length < 2 ^ 32) :
    (r.size - r.tell).toNat = left.length := by
  have hinside := hi.inside
  rw [hi.limit, FileReader.tell, BitVec.toNat_sub, BitVec.toNat_ofNat, BitVec.toNat_ofNat]
  omega

/-- **One read**: what is put into the buffer, and where the reader stands then. -/
theorem readInto_at (hi : At content left r) (hc : content.length < 2 ^ 32) (q : ReadRequest) :
    (r.readInto content q).1.2 = left.take q.size.toNat ∧
      (r.readInto content q).1.1 =
        (if (left.take q.size.toNat).length = 0 then EOS
          else (BitVec.ofNat 32 (left.take q.size.toNat).length).toInt) ∧
      At content (left.drop q.size.toNat) (r.readInto content q).2 := by
  have hinside := hi.inside
  unfold readInto
  split
  · next hdone =>
      obtain rfl := hi.done hdone
      simpa using hi
  · rw [hi.remaining hc]
    dsimp only
    generalize hn : min q.size.toNat left.length = n
    have hdrop : (content.drop r.position).length = content.length - r.position :=
      List.length_drop
    have htake : (content.drop r.position).take n = left.take q.size.toNat := by
      conv_rhs => rw [hi.bytes]
      rw [List.take_take, hn]
    have hlen : (left.take q.size.toNat).length = n := by
      rw [List.length_take, hn]
    have hcount : BitVec.ofNat 32 n = 0 ↔ n = 0 := by
      rw [← BitVec.toNat_inj, BitVec.toNat_ofNat]
      show n % 2 ^ 32 = 0 ↔ n = 0
      omega
    rw [readLoop_eq content q.short n 0 r.position n (Nat.le_refl n), htake, hdrop, hlen]
    refine ⟨rfl, if_congr hcount rfl rfl, ?_, ?_, ?_, ?_⟩
    · show r.position + n + _ ≤ _
      rw [List.length_drop]
      omega
    · show left.drop q.size.toNat =
        (content.drop (r.position + n)).take (left.drop q.size.toNat).length
      rw [List.length_drop, hi.bytes, List.drop_take, ← hi.bytes, List.drop_drop]
      rcases Nat.le_total q.size.toNat left.length with hle | hge
      · rw [Nat.min_eq_left hle] at hn
        rw [hn]
      · rw [Nat.sub_eq_zero_of_le hge, List.take_zero, List.take_zero]
    · show r.size = BitVec.ofNat 32 (r.position + n + _)
      rw [hi.limit, List.length_drop]
      congr 1
      omega
    · intro hdone
      rw [decide_eq_false (by omega), Bool.false_or, decide_eq_true_eq, hi.limit,
        ← BitVec.toNat_inj, BitVec.toNat_ofNat, BitVec.toNat_ofNat] at hdone
      rw [List.drop_eq_nil_iff]
      omega

/-- A count is returned as it is exactly if it is an `int`. -/
theorem returned_eq_iff {n : Nat} (hn : n < 2 ^ 32) :
    (BitVec.ofNat 32 n).toInt = (n : Int) ↔ n < 2 ^ 31 := by
  rw [BitVec.toInt_ofNat', Int.bmod_def]
  omega

/-- **What is returned is what should be exactly if the count is an `int`.** -/
theorem readInto_serve_iff (hi : At content left r) (hc : content.length < 2 ^ 32)
    (q : ReadRequest) :
    (r.readInto content q).1 = serve left q ↔ min q.size.toNat left.length < 2 ^ 31 := by
  obtain ⟨hbytes, hreturned, -⟩ := readInto_at hi hc q
  have hinside := hi.inside
  have hsize := q.nonempty
  rw [Prod.ext_iff, hbytes, hreturned, List.length_take]
  unfold serve
  by_cases hnil : left = []
  · simp [hnil]
  · have hpos : 0 < left.length := List.length_pos_of_ne_nil hnil
    rw [if_neg hnil, if_neg (by omega), List.length_take]
    simpa using returned_eq_iff (n := min q.size.toNat left.length) (by omega)

/-- **A reader that stands before its range serves it exactly if every count is an `int`.** -/
theorem serves_iff_countable (hi : At content left r) (hc : content.length < 2 ^ 32)
    (qs : List ReadRequest) : Serves content left qs r ↔ Countable left.length qs := by
  induction qs generalizing left r with
  | nil =>
      rw [Serves, Countable, hi.remaining hc]
      exact iff_of_true rfl trivial
  | cons q qs ih =>
      obtain ⟨-, -, hnext⟩ := readInto_at hi hc q
      rw [Serves, Countable, hi.remaining hc, readInto_serve_iff hi hc q, ih hnext,
        List.length_drop]
      exact ⟨fun h => h.2, fun h => ⟨rfl, h⟩⟩

end Reads

/-! ## 3. Opening -/

section Open

variable {content : List Byte} (offset length : BitVec 32) (r : FileReader)

/-- How long the range is. -/
theorem length_range : (range content offset length).length =
    if length = 0 then content.length - offset.toNat
    else min length.toNat (content.length - offset.toNat) := by
  unfold range
  split
  · rw [List.length_drop]
  · rw [List.length_take, List.length_drop]

/-- The range, by its length. -/
theorem range_eq_take : range content offset length =
    (content.drop offset.toNat).take (range content offset length).length := by
  rw [length_range]
  unfold range
  split
  · rw [List.take_of_length_le (by rw [List.length_drop])]
  · rw [← List.length_drop, ← List.take_eq_take_min]

/-- **What `size()` is after `open`**: where the range ends, if it begins inside the file. -/
theorem size_open {fileSize : Nat} (hc : fileSize < 2 ^ 64) :
    (r.open offset length fileSize true).2.size =
      if offset.toNat ≤ fileSize then
        BitVec.ofNat 32 (offset.toNat +
          if length = 0 then fileSize - offset.toNat else min length.toNat (fileSize - offset.toNat))
      else if length = 0 then BitVec.ofNat 32 fileSize else offset + length := by
  have hoffset := offset.isLt
  have hlength := length.isLt
  show (if length = 0 ∨ BitVec.ofNat 64 fileSize - offset.setWidth 64 < length.setWidth 64
    then (BitVec.ofNat 64 fileSize - offset.setWidth 64).setWidth 32 else length) + offset = _
  have hsub : (BitVec.ofNat 64 fileSize - offset.setWidth 64).toNat =
      (2 ^ 64 - offset.toNat + fileSize) % 2 ^ 64 := by
    rw [BitVec.toNat_sub, BitVec.toNat_ofNat, BitVec.toNat_setWidth]
    omega
  generalize BitVec.ofNat 64 fileSize - offset.setWidth 64 = remaining at hsub ⊢
  have hlt : remaining < length.setWidth 64 ↔ remaining.toNat < length.toNat := by
    rw [BitVec.lt_def, BitVec.toNat_setWidth,
      Nat.mod_eq_of_lt (by omega : length.toNat < 2 ^ 64)]
  have hzero : length = 0 ↔ length.toNat = 0 := by
    rw [← BitVec.toNat_inj]
    rfl
  simp only [hlt, hzero]
  rw [← BitVec.toNat_inj, BitVec.toNat_add]
  rcases Nat.lt_or_ge fileSize offset.toNat with hgt | hle
  · -- behind the end: what remains wraps, and is more than any length
    have hwrap : remaining.toNat + offset.toNat = 2 ^ 64 + fileSize := by
      rw [hsub]
      omega
    rw [if_neg (by omega : ¬ offset.toNat ≤ fileSize)]
    by_cases hlen : length.toNat = 0
    · rw [if_pos (Or.inl hlen), if_pos hlen, BitVec.toNat_setWidth, BitVec.toNat_ofNat]
      omega
    · rw [if_neg (by omega), if_neg hlen, BitVec.toNat_add, Nat.add_comm]
  · have hin : remaining.toNat = fileSize - offset.toNat := by
      rw [hsub]
      omega
    rw [if_pos hle, BitVec.toNat_ofNat]
    by_cases hlen : length.toNat = 0
    · rw [if_pos (Or.inl hlen), if_pos hlen, BitVec.toNat_setWidth, hin]
      omega
    · rw [if_neg hlen]
      split
      · rw [BitVec.toNat_setWidth, hin]
        omega
      · omega

/-- **A range within the file**: the reader stands before it. -/
theorem open_at (hc : content.length < 2 ^ 32) (h : Within content.length offset length) :
    At content (range content offset length) (r.open offset length content.length true).2 := by
  have hlen : (range content offset length).length = _ := length_range offset length
  refine ⟨?_, ?_, ?_, fun hdone => nomatch hdone⟩
  · show min offset.toNat content.length + _ ≤ _
    rw [hlen]
    split <;> omega
  · show _ = (content.drop (min offset.toNat content.length)).take _
    rcases Nat.le_total offset.toNat content.length with hle | hge
    · rw [Nat.min_eq_left hle]
      exact range_eq_take offset length
    · have hnil : range content offset length = [] := by
        rw [range_eq_take, List.drop_eq_nil_of_le hge, List.take_nil]
      rw [hnil, List.length_nil, List.take_zero]
  · rw [size_open offset length r (hc.trans (by decide))]
    show _ = BitVec.ofNat 32 (min offset.toNat content.length + _)
    rw [hlen]
    split
    · next hle => rw [Nat.min_eq_left hle]
    · next hgt =>
        have hend : min offset.toNat content.length + (if length = 0
            then content.length - offset.toNat
            else min length.toNat (content.length - offset.toNat)) = content.length := by
          split <;> omega
        rw [hend]
        split
        · rfl
        · next hne => exact (h.resolve_left hgt).resolve_left hne

/-- Whatever the range, `size() - tell()` is its length only if it is within the file. -/
theorem within_of_remaining (hc : content.length < 2 ^ 32)
    (h : ((r.open offset length content.length true).2.size -
      (r.open offset length content.length true).2.tell).toNat =
        (range content offset length).length) : Within content.length offset length := by
  by_contra hnot
  obtain ⟨hgt, hne, hend⟩ : ¬ offset.toNat ≤ content.length ∧ length ≠ 0 ∧
      offset + length ≠ BitVec.ofNat 32 content.length := by
    simpa [Within] using hnot
  rw [size_open offset length r (hc.trans (by decide)), if_neg hgt, if_neg hne, length_range, if_neg hne,
    Nat.sub_eq_zero_of_le (Nat.le_of_not_le hgt), Nat.min_zero] at h
  have htell : (r.open offset length content.length true).2.tell =
      BitVec.ofNat 32 content.length := by
    show BitVec.ofNat 32 (min offset.toNat content.length) = _
    rw [Nat.min_eq_right (Nat.le_of_not_le hgt)]
  rw [htell] at h
  exact hend (sub_eq_zero.mp (BitVec.eq_of_toNat_eq h))

end Open

/-- **When a reader serves its range**, however short the file's reads are: the range begins
    inside the file or goes to its end, and every count is an `int`. -/
theorem reader_serves_iff (content : List Byte) (hc : content.length < 2 ^ 32)
    (offset length : BitVec 32) (r : FileReader) (qs : List ReadRequest) :
    Serves content (range content offset length) qs
        (r.open offset length content.length true).2 ↔
      Within content.length offset length ∧ Countable (range content offset length).length qs := by
  constructor
  · intro h
    have hwithin : Within content.length offset length := by
      refine within_of_remaining offset length r hc ?_
      cases qs with
      | nil => exact h
      | cons q qs => exact h.1
    exact ⟨hwithin, (serves_iff_countable (open_at offset length r hc hwithin) hc qs).mp h⟩
  · intro h
    obtain ⟨hwithin, hcount⟩ := h
    exact (serves_iff_countable (open_at offset length r hc hwithin) hc qs).mpr hcount

/-- A buffer of two bytes, over a file that hands over one byte at a time. -/
def twoBytes : ReadRequest := ⟨2, fun _ => 0, by decide⟩

/-- Three bytes of five, two at a time, and then no more. -/
theorem reader_serves_iff_within : Serves [1, 2, 3, 4, 5] [2, 3, 4] [twoBytes, twoBytes, twoBytes]
    (({} : FileReader).open 1 3 5 true).2 :=
  (reader_serves_iff [1, 2, 3, 4, 5] (by decide) 1 3 {} [twoBytes, twoBytes, twoBytes]).mpr
    ⟨Or.inl (by decide), by simp [Countable, twoBytes, range]⟩

/-- Behind the end of a file of three bytes five seem to be left, and more. -/
theorem reader_past_end : ¬ ∀ (content : List Byte) (offset length : BitVec 32) (r : FileReader)
    (qs : List ReadRequest), content.length < 2 ^ 32 →
    Serves content (range content offset length) qs
      (r.open offset length content.length true).2 := by
  intro hall
  have hleft : _ = _ := hall [1, 2, 3] 10 5 {} [] (by decide)
  exact absurd hleft (by decide)

end ReadRange

end FieldKit
