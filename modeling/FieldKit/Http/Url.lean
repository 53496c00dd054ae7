/-
  File:      FieldKit/Http/Url.lean
  Subject:   `Url` (url_parser.h): a URL is formatted into a buffer and cut in place.

  The constructor walks over the buffer with a pointer. `scan` is that walk: `p` is the position,
  and the list is what stands from there on, so that `p[0]` and `p[1]` are its first two bytes. The
  cuts are made behind the walk. `none` is a read outside of the buffer.

  `alogging_vsnprintf` is a library's: a function from what the buffer held and the format to what
  it holds.

  * `parsed_iff` -- a URL that was written is parsed again exactly if it has a port or a path;
  * `slash_kept` -- one that has neither.
-/
import FieldKit.Http.ResponseHead
import FieldKit.Lib.CString

namespace FieldKit

open Lib

/-- `Url`; `server` and `path` point into the buffer, `none` is a null pointer. -/
structure Url where
  buffer : List Byte
  server : Option Nat := none
  path : Option Nat := none
  port : BitVec 16 := 80
  deriving DecidableEq, Repr

namespace Url

open HttpResponseParser (numeral numeral_ne_nil not_mem_numeral isDigit_of_mem_numeral
  atoi_numeral)

/-- `BufferSize`. -/
def bufferSize : Nat := 256

/-! ## 1. The scanner -/

/-- The inner loop, over the port: up to the slash behind it. -/
def scanPort (portBegin : Nat) : Nat → List Byte → Url → Option Url
  | _, [], _ => none
  | p, c :: rest, u =>
    if c = 0 then some u
    else if c = ascii '/' then
      let buffer := u.buffer.set p 0
      (ctext (buffer.drop portBegin)).map fun digits =>
        { u with buffer, port := BitVec.ofInt 16 (atoi digits), path := some (p + 1) }
    else scanPort portBegin (p + 1) rest u

/-- The loop of the constructor. Behind the two slashes it passes over one more byte unseen. -/
def scan : Nat → List Byte → Url → Option Url
  | _, [], _ => none
  | _, [c], u => if c = 0 then some u else none
  | p, c :: d :: rest, u =>
    if c = 0 ∨ d = 0 then some u
    else if u.server = none ∧ c = ascii '/' ∧ d = ascii '/' then
      match rest with
      | [] => none
      | _ :: rest => scan (p + 3) rest { u with server := some (p + 2) }
    else if u.server ≠ none ∧ c = ascii ':' then
      scanPort (p + 1) (p + 1) (d :: rest) { u with buffer := u.buffer.set p 0 }
    else if u.server ≠ none ∧ c = ascii '/' then
      some { u with buffer := u.buffer.set p 0, path := some (p + 1) }
    else scan (p + 1) (d :: rest) u

/-- What the constructor makes of a buffer that is formatted. -/
def ofBuffer (buffer : List Byte) : Option Url := scan 0 buffer { buffer }

/-- `Url(f)`, over a buffer that held `old`. -/
def construct (vsnprintf : List Byte → List Byte → List Byte) (old f : List Byte) : Option Url :=
  ofBuffer (vsnprintf old f)

/-- The string that `server` points to. -/
def serverText (u : Url) : Option (List Byte) := u.server.bind fun p => ctext (u.buffer.drop p)

/-- The string that `path` points to. -/
def pathText (u : Url) : Option (List Byte) := u.path.bind fun p => ctext (u.buffer.drop p)

/-! ## 2. URLs as they are written -/

/-- `:port`, if there is one. -/
def portText : Option Nat → List Byte
  | none => []
  | some port => ascii ':' :: numeral port

/-- `scheme://host[:port]/path`. -/
def written (scheme host : List Byte) (port : Option Nat) (path : List Byte) : List Byte :=
  scheme ++ ascii ':' :: ascii '/' :: ascii '/' :: (host ++ (portText port ++ ascii '/' :: path))

/-- A format without directives is copied, and ended. -/
def PlainFormat (vsnprintf : List Byte → List Byte → List Byte) : Prop :=
  ∀ old f, ascii '%' ∉ f → f.length < old.length →
    vsnprintf old f = f ++ 0 :: old.drop (f.length + 1)

/-- **The parts that were written are the parts that are read.** -/
def Reads (host : List Byte) (port : Option Nat) (path : List Byte) (u : Url) : Prop :=
  u.serverText = some host ∧ u.port.toNat = port.getD 80 ∧ u.pathText = some path

instance (host : List Byte) (port : Option Nat) (path : List Byte) (u : Url) :
    Decidable (Reads host port path u) :=
  inferInstanceAs (Decidable (_ ∧ _ ∧ _))

/-! ## 3. What the scanner does -/

/-- One byte that neither ends the string nor cuts it. -/
theorem scan_next {c d : Byte} (hc : c ≠ 0) (hd : d ≠ 0) (hslash : c ≠ ascii '/') {u : Url}
    (hcolon : u.server ≠ none → c ≠ ascii ':') (p : Nat) (rest : List Byte) :
    scan p (c :: d :: rest) u = scan (p + 1) (d :: rest) u := by
  rw [scan.eq_def]
  dsimp only
  rw [if_neg (not_or.mpr ⟨hc, hd⟩), if_neg fun h => hslash h.2.1, if_neg fun h => hcolon h.1 h.2,
    if_neg fun h => hslash h.2]

/-- The two slashes, and the first byte of the host. -/
theorem scan_slashes {u : Url} (hserver : u.server = none) (p : Nat) (c : Byte)
    (rest : List Byte) :
    scan p (ascii '/' :: ascii '/' :: c :: rest) u =
      scan (p + 3) rest { u with server := some (p + 2) } := by
  rw [scan.eq_def]
  dsimp only
  rw [if_neg (by decide), if_pos ⟨hserver, rfl, rfl⟩]

/-- The slash behind the host, if more follows. -/
theorem scan_slash {u : Url} (hserver : u.server ≠ none) (p : Nat) {d : Byte} (hd : d ≠ 0)
    (rest : List Byte) :
    scan p (ascii '/' :: d :: rest) u =
      some { u with buffer := u.buffer.set p 0, path := some (p + 1) } := by
  have hnonzero : ascii '/' ≠ 0 := by decide
  have hcolon : ascii '/' ≠ ascii ':' := by decide
  rw [scan.eq_def]
  dsimp only
  rw [if_neg (not_or.mpr ⟨hnonzero, hd⟩), if_neg fun h => hserver h.1, if_neg fun h => hcolon h.2,
    if_pos ⟨hserver, rfl⟩]

/-- **The slash behind the host, if nothing follows**: the loop has ended in front of it. -/
theorem scan_last (u : Url) (p : Nat) (c : Byte) (rest : List Byte) :
    scan p (c :: 0 :: rest) u = some u := by
  rw [scan.eq_def]
  dsimp only
  rw [if_pos (Or.inr rfl)]

/-- The colon behind the host. -/
theorem scan_colon {u : Url} (hserver : u.server ≠ none) (p : Nat) {d : Byte} (hd : d ≠ 0)
    (rest : List Byte) :
    scan p (ascii ':' :: d :: rest) u =
      scanPort (p + 1) (p + 1) (d :: rest) { u with buffer := u.buffer.set p 0 } := by
  have hnonzero : ascii ':' ≠ 0 := by decide
  have hslash : ascii ':' ≠ ascii '/' := by decide
  rw [scan.eq_def]
  dsimp only
  rw [if_neg (not_or.mpr ⟨hnonzero, hd⟩), if_neg fun h => hslash h.2.1, if_pos ⟨hserver, rfl⟩]

/-- Bytes that neither end the string nor cut it are passed over. -/
theorem scan_word {word : List Byte} {u : Url} (hword : ∀ c ∈ word,
      c ≠ 0 ∧ c ≠ ascii '/' ∧ (u.server ≠ none → c ≠ ascii ':')) (p : Nat) {d : Byte} (hd : d ≠ 0)
    (rest : List Byte) : scan p (word ++ d :: rest) u = scan (p + word.length) (d :: rest) u := by
  induction word generalizing p with
  | nil => rfl
  | cons c cs ih =>
      obtain ⟨hzero, hslash, hcolon⟩ := hword c List.mem_cons_self
      have htail : ∃ e es, cs ++ d :: rest = e :: es ∧ e ≠ 0 := by
        cases cs with
        | nil => exact ⟨d, rest, rfl, hd⟩
        | cons e es =>
            exact ⟨e, es ++ d :: rest, rfl, (hword e (List.mem_cons_of_mem _ List.mem_cons_self)).1⟩
      obtain ⟨e, es, heq, he⟩ := htail
      rw [List.cons_append, heq, scan_next hzero he hslash hcolon, ← heq,
        ih (fun x hx => hword x (List.mem_cons_of_mem _ hx)), List.length_cons, Nat.add_assoc,
        Nat.add_comm 1]

/-- The digits of a port are passed over. -/
theorem scanPort_digits {digits : List Byte} (hdigits : ∀ c ∈ digits, isDigit c = true)
    (portBegin p : Nat) (rest : List Byte) (u : Url) :
    scanPort portBegin p (digits ++ rest) u = scanPort portBegin (p + digits.length) rest u := by
  induction digits generalizing p with
  | nil => rfl
  | cons c cs ih =>
      have hdigit : isDigit c = true := hdigits c List.mem_cons_self
      have hzero : c ≠ 0 := by
        rintro rfl
        exact absurd hdigit (by decide)
      have hslash : c ≠ ascii '/' := by
        rintro rfl
        exact absurd hdigit (by decide)
      rw [List.cons_append, scanPort, if_neg hzero, if_neg hslash,
        ih fun x hx => hdigits x (List.mem_cons_of_mem _ hx), List.length_cons, Nat.add_assoc,
        Nat.add_comm 1]

/-! ## 4. Written and parsed -/

section Parsed

variable {scheme host : List Byte}

/-- Up to the host. -/
theorem scan_front (hscheme : ascii '/' ∉ scheme) (hne : host ≠ []) (hslash : ascii '/' ∉ host)
    (hcolon : ascii ':' ∉ host) (hzero : 0 ∉ scheme ∧ 0 ∉ host) {d : Byte} (hd : d ≠ 0)
    (rest buffer : List Byte) :
    scan 0 (scheme ++ ascii ':' :: ascii '/' :: ascii '/' :: (host ++ d :: rest)) { buffer } =
      scan (scheme.length + 3 + host.length) (d :: rest)
        { buffer, server := some (scheme.length + 3) } := by
  obtain ⟨c, cs, rfl⟩ := List.exists_cons_of_ne_nil hne
  rw [List.mem_cons, not_or] at hslash hcolon
  have hcs : 0 ∉ cs := fun h => hzero.2 (List.mem_cons_of_mem c h)
  have hword : ∀ x ∈ scheme ++ [ascii ':'], x ≠ 0 ∧ x ≠ ascii '/' := by
    intro x hx
    rcases List.mem_append.mp hx with hx | hx
    · exact ⟨fun h => hzero.1 (h ▸ hx), fun h => hscheme (h ▸ hx)⟩
    · rw [List.mem_singleton.mp hx]
      decide
  have hassoc : scheme ++ ascii ':' :: ascii '/' :: ascii '/' :: (c :: cs ++ d :: rest) =
      (scheme ++ [ascii ':']) ++ ascii '/' :: ascii '/' :: c :: (cs ++ d :: rest) := by simp
  rw [hassoc, scan_word (fun x hx => ⟨(hword x hx).1, (hword x hx).2, fun h => absurd rfl h⟩) 0
      (by decide), scan_slashes rfl,
    scan_word (fun x hx => ⟨fun h => hcs (h ▸ hx), fun h => hslash.2 (h ▸ hx),
      fun _ h => hcolon.2 (h ▸ hx)⟩) _ hd]
  simp only [List.length_append, List.length_cons, List.length_nil, Nat.zero_add]
  congr 1
  omega

/-- Where a byte is cut out. -/
theorem set_behind (front : List Byte) {n : Nat} (hn : front.length = n) (c : Byte)
    (rest : List Byte) : (front ++ c :: rest).set n 0 = front ++ 0 :: rest := by
  rw [List.set_append_right _ _ hn.le, hn, Nat.sub_self, List.set_cons_zero]

/-- What stands behind a front, ended. -/
theorem ctext_behind {front text : List Byte} {n : Nat} (hn : front.length = n) (htext : 0 ∉ text)
    (rest : List Byte) : ctext ((front ++ (text ++ 0 :: rest)).drop n) = some text := by
  rw [List.drop_left' hn, ctext_ended htext]

/-- **With a path and no port.** -/
theorem scan_path (front : List Byte) {k : Nat} (hk : front.length = k) (hhost : 0 ∉ host)
    {path : List Byte} (hpath : 0 ∉ path) (hne : path ≠ []) (stale : List Byte) {buffer : List Byte}
    (hbuffer : buffer = front ++ (host ++ ascii '/' :: (path ++ 0 :: stale))) :
    ∃ u, scan (k + host.length) (ascii '/' :: (path ++ 0 :: stale)) { buffer, server := some k } =
      some u ∧ Reads host none path u := by
  obtain ⟨d, ds, rfl⟩ := List.exists_cons_of_ne_nil hne
  have hd : d ≠ 0 := fun h => hpath (h ▸ List.mem_cons_self)
  have hcut : buffer.set (k + host.length) 0 = front ++ (host ++ 0 :: (d :: ds ++ 0 :: stale)) := by
    rw [hbuffer, ← List.append_assoc, set_behind _ (by rw [List.length_append, hk]),
      List.append_assoc]
  refine ⟨_, scan_slash (Option.some_ne_none k) _ hd _, ?_, rfl, ?_⟩
  · show ctext ((buffer.set (k + host.length) 0).drop k) = some host
    rw [hcut, ctext_behind hk hhost]
  · show ctext ((buffer.set (k + host.length) 0).drop (k + host.length + 1)) = some (d :: ds)
    have hfront : front ++ (host ++ 0 :: (d :: ds ++ 0 :: stale)) =
        (front ++ host ++ [0]) ++ (d :: ds ++ 0 :: stale) := by simp
    rw [hcut, hfront, ctext_behind (by simp [hk, Nat.add_assoc]) hpath]

/-- **With a port**, whatever the path. -/
theorem scan_port (front : List Byte) {k : Nat} (hk : front.length = k) (hhost : 0 ∉ host)
    {path : List Byte} (hpath : 0 ∉ path) {port : Nat} (hport : port ≤ 65535) (stale : List Byte)
    {buffer : List Byte} (hbuffer : buffer =
      front ++ (host ++ (portText (some port) ++ ascii '/' :: (path ++ 0 :: stale)))) :
    ∃ u, scan (k + host.length) (portText (some port) ++ ascii '/' :: (path ++ 0 :: stale))
        { buffer, server := some k } = some u ∧ Reads host (some port) path u := by
  obtain ⟨d, ds, hdigits⟩ := List.exists_cons_of_ne_nil (numeral_ne_nil port)
  have hdigit : ∀ c ∈ numeral port, isDigit c = true := fun c hc => isDigit_of_mem_numeral hc
  have hzero : 0 ∉ numeral port := not_mem_numeral port (by decide)
  have hd : d ≠ 0 := fun h => hzero (by rw [hdigits, h]; exact List.mem_cons_self)
  -- the colon is cut first, the slash behind the digits next
  have hcolon : buffer.set (k + host.length) 0 =
      (front ++ host ++ 0 :: numeral port) ++ ascii '/' :: (path ++ 0 :: stale) := by
    have hassoc : buffer = (front ++ host) ++
        ascii ':' :: (numeral port ++ ascii '/' :: (path ++ 0 :: stale)) := by
      rw [hbuffer, portText, List.append_assoc, List.cons_append]
    rw [hassoc, set_behind _ (by rw [List.length_append, hk])]
    simp
  have hslash : (buffer.set (k + host.length) 0).set
      (k + host.length + 1 + (numeral port).length) 0 =
        front ++ (host ++ 0 :: (numeral port ++ 0 :: (path ++ 0 :: stale))) := by
    rw [hcolon, set_behind _ (by simp [hk]; omega)]
    simp
  have hport' : ctext ((front ++ (host ++ 0 :: (numeral port ++ 0 :: (path ++ 0 :: stale)))).drop
      (k + host.length + 1)) = some (numeral port) := by
    have hfront : front ++ (host ++ 0 :: (numeral port ++ 0 :: (path ++ 0 :: stale))) =
        (front ++ host ++ [0]) ++ (numeral port ++ 0 :: (path ++ 0 :: stale)) := by simp
    rw [hfront, ctext_behind (by simp [hk, Nat.add_assoc]) hzero]
  have hscan : scan (k + host.length) (portText (some port) ++ ascii '/' :: (path ++ 0 :: stale))
      { buffer, server := some k } =
        some ⟨front ++ (host ++ 0 :: (numeral port ++ 0 :: (path ++ 0 :: stale))), some k,
          some (k + host.length + 1 + (numeral port).length + 1),
          BitVec.ofInt 16 (atoi (numeral port))⟩ := by
    rw [portText, List.cons_append, hdigits, List.cons_append, scan_colon (Option.some_ne_none k) _ hd,
      ← List.cons_append, ← hdigits, scanPort_digits hdigit, scanPort, if_neg (by decide),
      if_pos rfl]
    dsimp only
    rw [hslash, hport', Option.map_some]
  refine ⟨_, hscan, ctext_behind hk hhost _, ?_, ?_⟩
  · show (BitVec.ofInt 16 (atoi (numeral port))).toNat = port
    rw [atoi_numeral hport, BitVec.ofInt_natCast, BitVec.toNat_ofNat, Nat.mod_eq_of_lt (by omega)]
  · show ctext (List.drop _ _) = some path
    have hfront : front ++ (host ++ 0 :: (numeral port ++ 0 :: (path ++ 0 :: stale))) =
        (front ++ host ++ 0 :: numeral port ++ [0]) ++ (path ++ 0 :: stale) := by simp
    rw [hfront, ctext_behind (by simp [hk]; omega) hpath]

end Parsed

/-- The text is formatted, and what follows it in the buffer is stale. -/
theorem ofBuffer_formatted {vsnprintf : List Byte → List Byte → List Byte}
    (hformat : PlainFormat vsnprintf) {old f : List Byte} (hplain : ascii '%' ∉ f)
    (hshort : f.length < old.length) :
    ∃ stale, construct vsnprintf old f = ofBuffer (f ++ 0 :: stale) :=
  ⟨old.drop (f.length + 1), by rw [construct, hformat old f hplain hshort]⟩

/-- **A URL that was written is parsed again exactly if it has a port or a path.** -/
theorem parsed_iff {vsnprintf : List Byte → List Byte → List Byte}
    (hformat : PlainFormat vsnprintf) {old scheme host path : List Byte} {port : Option Nat}
    (hold : old.length = bufferSize) (hscheme : ascii '/' ∉ scheme) (hne : host ≠ [])
    (hslash : ascii '/' ∉ host) (hcolon : ascii ':' ∉ host)
    (hport : ∀ n ∈ port, 1 ≤ n ∧ n ≤ 65535) (hzero : 0 ∉ written scheme host port path)
    (hplain : ascii '%' ∉ written scheme host port path)
    (hshort : (written scheme host port path).length < bufferSize) :
    (∃ u, construct vsnprintf old (written scheme host port path) = some u ∧
        Reads host port path u) ↔ port ≠ none ∨ path ≠ [] := by
  obtain ⟨stale, hconstruct⟩ := ofBuffer_formatted hformat hplain (hold ▸ hshort)
  have hzeros : 0 ∉ scheme ∧ 0 ∉ host ∧ 0 ∉ path := by
    unfold written at hzero
    simp only [List.mem_append, List.mem_cons, not_or] at hzero
    exact ⟨hzero.1, hzero.2.2.2.2.1, hzero.2.2.2.2.2.2.2⟩
  obtain ⟨hzeroScheme, hzeroHost, hzeroPath⟩ := hzeros
  have hassoc : written scheme host port path ++ 0 :: stale =
      scheme ++ ascii ':' :: ascii '/' :: ascii '/' ::
        (host ++ (portText port ++ ascii '/' :: (path ++ 0 :: stale))) := by
    simp [written]
  have hfront : written scheme host port path ++ 0 :: stale =
      (scheme ++ [ascii ':', ascii '/', ascii '/']) ++
        (host ++ (portText port ++ ascii '/' :: (path ++ 0 :: stale))) := by
    simp [written]
  have hk : (scheme ++ [ascii ':', ascii '/', ascii '/']).length = scheme.length + 3 := by simp
  rw [hconstruct, ofBuffer]
  cases port with
  | none =>
      rw [hassoc, portText, List.nil_append,
        scan_front hscheme hne hslash hcolon ⟨hzeroScheme, hzeroHost⟩ (by decide)]
      cases path with
      | nil =>
          rw [List.nil_append, scan_last]
          refine ⟨?_, fun h => absurd rfl (h.resolve_left fun h => h rfl)⟩
          intro h
          obtain ⟨u, hu, _, _, hpath⟩ := h
          cases hu
          cases hpath
      | cons c cs =>
          have hparsed := scan_path _ hk hzeroHost hzeroPath (List.cons_ne_nil c cs) stale
            (hassoc.symm.trans hfront)
          exact ⟨fun _ => Or.inr (List.cons_ne_nil c cs), fun _ => hparsed⟩
  | some n =>
      have hparsed := scan_port _ hk hzeroHost hzeroPath (hport n rfl).2 stale hfront
      rw [hassoc] at hparsed ⊢
      rw [portText, List.cons_append] at hparsed ⊢
      rw [scan_front hscheme hne hslash hcolon ⟨hzeroScheme, hzeroHost⟩ (by decide)]
      exact ⟨fun _ => Or.inl (Option.some_ne_none n), fun _ => hparsed⟩

/-- `vsnprintf` of formats without directives. -/
def copyFormat (old f : List Byte) : List Byte := f ++ 0 :: old.drop (f.length + 1)

/-- A buffer nobody has written to. -/
def fresh : List Byte := List.replicate bufferSize 0

/-- `http`, and `h`. -/
def http : List Byte := ['h', 't', 't', 'p'].map ascii
def oneHost : List Byte := [ascii 'h']

/-- `http://h/i` is parsed. -/
theorem parsed_path : ∃ u, construct copyFormat fresh (written http oneHost none [ascii 'i']) =
    some u ∧ Reads oneHost none [ascii 'i'] u :=
  (parsed_iff (fun _ _ _ _ => rfl) List.length_replicate (by decide) (by decide) (by decide) (by decide)
    (fun _ h => absurd h (Option.not_mem_none _)) (by decide) (by decide) (by decide)).mpr
      (Or.inr (by decide))

/-- **`http://h/` keeps its slash**: the server is `h/`, and there is no path. -/
theorem slash_kept : ¬ ∀ (vsnprintf : List Byte → List Byte → List Byte), PlainFormat vsnprintf →
    ∀ (old scheme host path : List Byte) (port : Option Nat), old.length = bufferSize →
      ascii '/' ∉ scheme → host ≠ [] → ascii '/' ∉ host → ascii ':' ∉ host →
      (∀ n ∈ port, 1 ≤ n ∧ n ≤ 65535) → 0 ∉ written scheme host port path →
      ascii '%' ∉ written scheme host port path →
      (written scheme host port path).length < bufferSize →
      ∃ u, construct vsnprintf old (written scheme host port path) = some u ∧
        Reads host port path u := by
  intro hall
  obtain ⟨u, hu, hreads⟩ := hall copyFormat (fun _ _ _ _ => rfl) fresh http oneHost [] none
    List.length_replicate (by decide) (by decide) (by decide) (by decide)
    (fun _ h => absurd h (Option.not_mem_none _)) (by decide) (by decide) (by decide)
  have hread : ((construct copyFormat fresh (written http oneHost none [])).map fun u =>
      (u.serverText, u.pathText)) = some (some (oneHost ++ [ascii '/']), none) := by decide
  rw [hu, Option.map_some, hreads.1, hreads.2.2] at hread
  cases hread

end Url

end FieldKit
