/-
  File:      FieldKit/Http/UrlMemory.lean
  Subject:   The loops of `Url`'s constructor (url_parser.h), round by round, with every byte of the
             buffer that they read and write.

  What the constructor makes of a buffer is `Url.scan`. Here the pointer may come anywhere, and a
  byte is looked up when it is read.

  * `ofBuffer_ends` -- the rounds come to what `scan` comes to;
  * `outer_inside`, `inner_inside` -- one round stays in front of the 0, and gets closer to it;
  * `stays_iff` -- the loops end without a look behind the 0 exactly if the text does not end in its
    first two slashes;
  * `leaves_buffer` -- a text that does, and fills the buffer.
-/
import FieldKit.Http.Url
import FieldKit.Lib.Run

namespace FieldKit.UrlMemory

open Lib

/-! ## 1. The loops -/

/-- An access to a byte of the buffer, by its position. -/
inductive Access where
  | read (i : Nat)
  | write (i : Nat)
  deriving DecidableEq, Repr

def Access.position : Access → Nat
  | .read i => i
  | .write i => i

/-- In front of the check of the outer loop, or of the loop over the port; both are over; or a byte
    outside of the buffer was read. -/
inductive Phase where
  | outer
  | inner (portBegin : Nat)
  | done
  | outside
  deriving DecidableEq, Repr

/-- The constructor at work: `p`, and what it has accessed, the last first. -/
structure Scanner where
  url : Url
  p : Nat := 0
  phase : Phase := .outer
  accesses : List Access := []
  deriving DecidableEq, Repr

namespace Scanner

/-- The byte at `i` is read. -/
def read (i : Nat) (s : Scanner) : Scanner := { s with accesses := .read i :: s.accesses }

/-- `p[0] = 0`. -/
def cut (s : Scanner) : Scanner :=
  { s with
    url := { s.url with buffer := s.url.buffer.set s.p 0 }
    accesses := .write s.p :: s.accesses }

/-- The body of the outer loop, where `p[0]` is `c` and `p[1]` is `d`, and its `++p`. -/
def body (c d : Byte) (s : Scanner) : Scanner :=
  if s.url.server = none ∧ c = ascii '/' ∧ d = ascii '/' then
    { s with url := { s.url with server := some (s.p + 2) }, p := s.p + 3 }
  else if s.url.server ≠ none ∧ c = ascii ':' then
    { s.cut with p := s.p + 1, phase := .inner (s.p + 1) }
  else if s.url.server ≠ none ∧ c = ascii '/' then
    { s.cut with url := { s.cut.url with path := some (s.p + 1) }, phase := .done }
  else { s with p := s.p + 1 }

/-- The check of the outer loop, and its body. What was read once is not noted again. -/
def outer (s : Scanner) : Scanner :=
  match s.url.buffer[s.p]? with
  | none => { s.read s.p with phase := .outside }
  | some c =>
    if c = 0 then { s.read s.p with phase := .done }
    else
      match s.url.buffer[s.p + 1]? with
      | none => { (s.read s.p).read (s.p + 1) with phase := .outside }
      | some d =>
        if d = 0 then { (s.read s.p).read (s.p + 1) with phase := .done }
        else ((s.read s.p).read (s.p + 1)).body c d

/-- Behind the port, which is cut: `atoi` reads the string up to its 0 at most. -/
def finish (portBegin : Nat) (s : Scanner) : Scanner :=
  match ctext (s.url.buffer.drop portBegin) with
  | none => { s with phase := .outside }
  | some digits =>
    { s with
      url := { s.url with port := BitVec.ofInt 16 (atoi digits), path := some (s.p + 1) }
      phase := .done
      accesses := (List.range (digits.length + 1)).map (fun i => .read (portBegin + i)) ++ s.accesses }

/-- The check of the loop over the port, and its body. -/
def inner (portBegin : Nat) (s : Scanner) : Scanner :=
  match s.url.buffer[s.p]? with
  | none => { s.read s.p with phase := .outside }
  | some c =>
    if c = 0 then { s.read s.p with phase := .done }
    else if c = ascii '/' then (s.read s.p).cut.finish portBegin
    else { s.read s.p with p := s.p + 1 }

end Scanner

/-- One round of the loop it is in. -/
def step (s : Scanner) (_ : Unit) : Option Scanner :=
  match s.phase with
  | .outer => some s.outer
  | .inner portBegin => some (s.inner portBegin)
  | .done => none
  | .outside => none

/-- Behind the formatting. -/
def start (buffer : List Byte) : Scanner := { url := { buffer } }

/-- **The loops end, and nothing is read or written behind the 0** that ends the text. -/
structure Stays (buffer text : List Byte) : Prop where
  ends : ∃ tr s, Run step (start buffer) tr s ∧ s.phase = .done
  inside : ∀ tr s, Run step (start buffer) tr s → ∀ a ∈ s.accesses, a.position ≤ text.length

/-- Two slashes. -/
def SlashesAt (text : List Byte) (i : Nat) : Prop :=
  text[i]? = some (ascii '/') ∧ text[i + 1]? = some (ascii '/')

instance (text : List Byte) (i : Nat) : Decidable (SlashesAt text i) :=
  inferInstanceAs (Decidable (_ ∧ _))

/-- The first two slashes of the text are its end. -/
def EndsInSlashes (text : List Byte) : Prop :=
  SlashesAt text (text.length - 2) ∧ ∀ i < text.length - 2, ¬ SlashesAt text i

instance (text : List Byte) : Decidable (EndsInSlashes text) :=
  inferInstanceAs (Decidable (_ ∧ ∀ i < text.length - 2, ¬ SlashesAt text i))

/-! ## 2. What a round comes to -/

section Rounds

variable {s : Scanner} {c d : Byte}

theorem body_slashes (hserver : s.url.server = none) :
    s.body (ascii '/') (ascii '/') =
      { s with url := { s.url with server := some (s.p + 2) }, p := s.p + 3 } :=
  if_pos ⟨hserver, rfl, rfl⟩

theorem body_colon (hserver : s.url.server ≠ none) (d : Byte) :
    s.body (ascii ':') d = { s.cut with p := s.p + 1, phase := .inner (s.p + 1) } := by
  rw [Scanner.body, if_neg fun h => hserver h.1, if_pos ⟨hserver, rfl⟩]

theorem body_slash (hserver : s.url.server ≠ none) (d : Byte) :
    s.body (ascii '/') d =
      { s.cut with url := { s.cut.url with path := some (s.p + 1) }, phase := .done } := by
  have hcolon : ascii '/' ≠ ascii ':' := by decide
  rw [Scanner.body, if_neg fun h => hserver h.1, if_neg fun h => hcolon h.2, if_pos ⟨hserver, rfl⟩]

theorem body_next (hslashes : ¬ (s.url.server = none ∧ c = ascii '/' ∧ d = ascii '/'))
    (hcolon : ¬ (s.url.server ≠ none ∧ c = ascii ':'))
    (hslash : ¬ (s.url.server ≠ none ∧ c = ascii '/')) :
    s.body c d = { s with p := s.p + 1 } := by
  rw [Scanner.body, if_neg hslashes, if_neg hcolon, if_neg hslash]

theorem outer_outside (h : s.url.buffer[s.p]? = none) :
    s.outer = { s.read s.p with phase := .outside } := by
  rw [Scanner.outer, h]

theorem outer_ended (h : s.url.buffer[s.p]? = some 0) :
    s.outer = { s.read s.p with phase := .done } := by
  rw [Scanner.outer, h]
  exact if_pos rfl

theorem outer_next_outside (h : s.url.buffer[s.p]? = some c) (hc : c ≠ 0)
    (hnext : s.url.buffer[s.p + 1]? = none) :
    s.outer = { (s.read s.p).read (s.p + 1) with phase := .outside } := by
  rw [Scanner.outer, h]
  dsimp only
  rw [if_neg hc, hnext]

theorem outer_next_ended (h : s.url.buffer[s.p]? = some c) (hc : c ≠ 0)
    (hnext : s.url.buffer[s.p + 1]? = some 0) :
    s.outer = { (s.read s.p).read (s.p + 1) with phase := .done } := by
  rw [Scanner.outer, h]
  dsimp only
  rw [if_neg hc, hnext]
  exact if_pos rfl

theorem outer_body (h : s.url.buffer[s.p]? = some c) (hc : c ≠ 0)
    (hnext : s.url.buffer[s.p + 1]? = some d) (hd : d ≠ 0) :
    s.outer = ((s.read s.p).read (s.p + 1)).body c d := by
  rw [Scanner.outer, h]
  dsimp only
  rw [if_neg hc, hnext]
  exact if_neg hd

/-- The byte at `p` is always read. -/
theorem read_mem_outer (s : Scanner) : .read s.p ∈ s.outer.accesses := by
  unfold Scanner.outer
  split
  · exact List.mem_cons_self
  · split
    · exact List.mem_cons_self
    · have hread : .read s.p ∈ ((s.read s.p).read (s.p + 1)).accesses :=
        List.mem_cons_of_mem _ List.mem_cons_self
      split
      · exact hread
      · split
        · exact hread
        · unfold Scanner.body
          split
          · exact hread
          · split
            · exact List.mem_cons_of_mem _ hread
            · split
              · exact List.mem_cons_of_mem _ hread
              · exact hread

theorem inner_outside (h : s.url.buffer[s.p]? = none) (portBegin : Nat) :
    s.inner portBegin = { s.read s.p with phase := .outside } := by
  rw [Scanner.inner, h]

theorem inner_ended (h : s.url.buffer[s.p]? = some 0) (portBegin : Nat) :
    s.inner portBegin = { s.read s.p with phase := .done } := by
  rw [Scanner.inner, h]
  exact if_pos rfl

theorem inner_slash (h : s.url.buffer[s.p]? = some (ascii '/')) (portBegin : Nat) :
    s.inner portBegin = (s.read s.p).cut.finish portBegin := by
  rw [Scanner.inner, h]
  exact (if_neg (by decide)).trans (if_pos rfl)

theorem inner_next (h : s.url.buffer[s.p]? = some c) (hc : c ≠ 0) (hslash : c ≠ ascii '/')
    (portBegin : Nat) : s.inner portBegin = { s.read s.p with p := s.p + 1 } := by
  rw [Scanner.inner, h]
  exact (if_neg hc).trans (if_neg hslash)

theorem step_outer (h : s.phase = .outer) : step s () = some s.outer := by
  rw [step, h]

theorem step_inner {portBegin : Nat} (h : s.phase = .inner portBegin) :
    step s () = some (s.inner portBegin) := by
  rw [step, h]

end Rounds

/-! ## 3. What the rounds come to -/

/-- A run ends with this `Url`, or outside of the buffer. -/
def Ends (buffer : List Byte) (result : Option Url) : Prop :=
  ∃ tr s, Run step (start buffer) tr s ∧
    match result with
    | some u => s.phase = .done ∧ s.url = u
    | none => s.phase = .outside

theorem getElem?_of_drop_nil {l : List Byte} {p : Nat} (h : l.drop p = []) : l[p]? = none := by
  rw [← List.head?_drop, h]
  rfl

theorem getElem?_of_drop_cons {l rest : List Byte} {p : Nat} {c : Byte} (h : l.drop p = c :: rest) :
    l[p]? = some c ∧ l.drop (p + 1) = rest := by
  constructor
  · rw [← List.head?_drop, h]
    rfl
  · rw [← List.tail_drop, h]
    rfl

section Refines

variable {buffer : List Byte} {tr : List (Scanner × Unit)} {s : Scanner}

theorem Ends.outside {s' : Scanner} (hrun : Run step (start buffer) tr s)
    (hs : step s () = some s') (h : s'.phase = .outside) : Ends buffer none :=
  ⟨_, s', .step tr s () s' hrun hs, h⟩

theorem Ends.done {s' : Scanner} {u : Url} (hrun : Run step (start buffer) tr s)
    (hs : step s () = some s') (h : s'.phase = .done) (hu : s'.url = u) : Ends buffer (some u) :=
  ⟨_, s', .step tr s () s' hrun hs, h, hu⟩

/-- The pointer has passed the end of the buffer. -/
theorem Ends.past (hrun : Run step (start buffer) tr s) (hphase : s.phase = .outer)
    (hsize : s.url.buffer.length ≤ s.p) : Ends buffer none := by
  have hs := step_outer hphase
  rw [outer_outside (List.getElem?_eq_none hsize)] at hs
  exact .outside hrun hs rfl

/-- The loop over the port. -/
theorem scanPort_ends {portBegin : Nat} (hrun : Run step (start buffer) tr s)
    (hphase : s.phase = .inner portBegin) {rest : List Byte} (hrest : s.url.buffer.drop s.p = rest) :
    Ends buffer (Url.scanPort portBegin s.p rest s.url) := by
  induction rest generalizing tr s with
  | nil =>
      have hs := step_inner hphase
      rw [inner_outside (getElem?_of_drop_nil hrest)] at hs
      exact .outside hrun hs rfl
  | cons c rest ih =>
      obtain ⟨hbyte, hbehind⟩ := getElem?_of_drop_cons hrest
      have hs := step_inner hphase
      rw [Url.scanPort]
      by_cases hzero : c = 0
      · rw [hzero] at hbyte
        rw [inner_ended hbyte] at hs
        rw [if_pos hzero]
        exact .done hrun hs rfl rfl
      rw [if_neg hzero]
      by_cases hslash : c = ascii '/'
      · rw [hslash] at hbyte
        rw [inner_slash hbyte, Scanner.finish] at hs
        rw [if_pos hslash]
        dsimp only
        have hcut : (s.read s.p).cut.url.buffer = s.url.buffer.set s.p 0 := rfl
        rw [hcut] at hs
        cases hport : ctext ((s.url.buffer.set s.p 0).drop portBegin) with
        | none =>
            rw [hport] at hs
            exact .outside hrun hs rfl
        | some digits =>
            rw [hport] at hs
            exact .done hrun hs rfl rfl
      · rw [inner_next hbyte hzero hslash] at hs
        rw [if_neg hslash]
        exact ih (.step tr s () _ hrun hs) hphase hbehind

/-- The outer loop. -/
theorem scan_ends : ∀ (rest : List Byte) {tr : List (Scanner × Unit)} {s : Scanner},
    Run step (start buffer) tr s → s.phase = .outer → s.url.buffer.drop s.p = rest →
      Ends buffer (Url.scan s.p rest s.url)
  | [], tr, s, hrun, hphase, hrest => .past hrun hphase (List.drop_eq_nil_iff.mp hrest)
  | [c], tr, s, hrun, hphase, hrest => by
      obtain ⟨hbyte, hbehind⟩ := getElem?_of_drop_cons hrest
      have hs := step_outer hphase
      rw [Url.scan]
      by_cases hzero : c = 0
      · rw [hzero] at hbyte
        rw [outer_ended hbyte] at hs
        rw [if_pos hzero]
        exact .done hrun hs rfl rfl
      · rw [outer_next_outside hbyte hzero (getElem?_of_drop_nil hbehind)] at hs
        rw [if_neg hzero]
        exact .outside hrun hs rfl
  | c :: d :: rest, tr, s, hrun, hphase, hrest => by
      obtain ⟨hbyte, hnext⟩ := getElem?_of_drop_cons hrest
      obtain ⟨hbyte', hbehind⟩ := getElem?_of_drop_cons hnext
      have hs := step_outer hphase
      rw [Url.scan.eq_def]
      dsimp only
      by_cases hzero : c = 0
      · rw [hzero] at hbyte
        rw [outer_ended hbyte] at hs
        rw [if_pos (Or.inl hzero)]
        exact .done hrun hs rfl rfl
      by_cases hzero' : d = 0
      · rw [hzero'] at hbyte'
        rw [outer_next_ended hbyte hzero hbyte'] at hs
        rw [if_pos (Or.inr hzero')]
        exact .done hrun hs rfl rfl
      rw [outer_body hbyte hzero hbyte' hzero'] at hs
      rw [if_neg (not_or.mpr ⟨hzero, hzero'⟩)]
      by_cases hslashes : s.url.server = none ∧ c = ascii '/' ∧ d = ascii '/'
      · rw [if_pos hslashes]
        obtain ⟨hserver, rfl, rfl⟩ := hslashes
        rw [body_slashes (s := (s.read s.p).read (s.p + 1)) hserver] at hs
        cases rest with
        | nil =>
            -- the buffer ends behind the slashes, and the pointer is one further
            have hsize : s.url.buffer.length ≤ s.p + 2 := List.drop_eq_nil_iff.mp hbehind
            exact .past (.step tr s () _ hrun hs) hphase (Nat.le_succ_of_le hsize)
        | cons x rest =>
            exact scan_ends rest (.step tr s () _ hrun hs) hphase (getElem?_of_drop_cons hbehind).2
      rw [if_neg hslashes]
      by_cases hcolon : s.url.server ≠ none ∧ c = ascii ':'
      · rw [if_pos hcolon]
        obtain ⟨hserver, rfl⟩ := hcolon
        rw [body_colon (s := (s.read s.p).read (s.p + 1)) hserver] at hs
        have hcut : (s.url.buffer.set s.p 0).drop (s.p + 1) = d :: rest := by
          rw [List.drop_set_of_lt (Nat.lt_succ_self s.p), hnext]
        exact scanPort_ends (.step tr s () _ hrun hs) rfl hcut
      rw [if_neg hcolon]
      by_cases hslash : s.url.server ≠ none ∧ c = ascii '/'
      · rw [if_pos hslash]
        obtain ⟨hserver, rfl⟩ := hslash
        rw [body_slash (s := (s.read s.p).read (s.p + 1)) hserver] at hs
        exact .done hrun hs rfl rfl
      · rw [if_neg hslash]
        rw [body_next (s := (s.read s.p).read (s.p + 1)) hslashes hcolon hslash] at hs
        exact scan_ends (d :: rest) (.step tr s () _ hrun hs) hphase hnext

/-- **The rounds come to what the constructor makes of the buffer.** -/
theorem ofBuffer_ends (buffer : List Byte) : Ends buffer (Url.ofBuffer buffer) :=
  scan_ends buffer .start rfl rfl

end Refines

/-! ## 4. In front of the 0 -/

/-- Nothing behind `n` has been accessed. -/
def Within (n : Nat) (s : Scanner) : Prop := ∀ a ∈ s.accesses, a.position ≤ n

/-- From the pointer on the buffer is as it was. -/
def Ahead (buffer : List Byte) (s : Scanner) : Prop := ∀ i, s.p ≤ i → s.url.buffer[i]? = buffer[i]?

/-- The pointer is in the text, or at its 0; and without a server there were no two slashes yet. -/
def Here (buffer text : List Byte) (s : Scanner) : Prop :=
  match s.phase with
  | .outer => s.p ≤ text.length ∧ Ahead buffer s ∧
      (s.url.server = none → ∀ i < s.p, ¬ SlashesAt text i)
  | .inner portBegin => s.p ≤ text.length ∧ Ahead buffer s ∧ portBegin ≤ s.p
  | .done => True
  | .outside => False

/-- The invariant. -/
structure Inside (buffer text : List Byte) (s : Scanner) : Prop where
  within : Within text.length s
  here : Here buffer text s

/-- How far it may still go. -/
def left (text : List Byte) (s : Scanner) : Nat :=
  match s.phase with
  | .outer => text.length + 1 - s.p
  | .inner _ => text.length + 1 - s.p
  | .done => 0
  | .outside => 0

section Invariant

variable {buffer text : List Byte} {s : Scanner} {n : Nat}

theorem Within.read (h : Within n s) {i : Nat} (hi : i ≤ n) : Within n (s.read i) := by
  intro a ha
  rcases List.mem_cons.mp ha with rfl | ha
  · exact hi
  · exact h a ha

theorem Within.cut (h : Within n s) (hp : s.p ≤ n) : Within n s.cut := by
  intro a ha
  rcases List.mem_cons.mp ha with rfl | ha
  · exact hp
  · exact h a ha

/-- A cut is made at the pointer, and the pointer goes on. -/
theorem Ahead.cut (h : Ahead buffer s) {i : Nat} (hi : s.p < i) :
    s.cut.url.buffer[i]? = buffer[i]? := by
  show (s.url.buffer.set s.p 0)[i]? = buffer[i]?
  rw [List.getElem?_set_ne (Nat.ne_of_lt hi), h i (Nat.le_of_lt hi)]

/-- Two slashes are in front of the end. -/
theorem SlashesAt.lt {i : Nat} (h : SlashesAt text i) : i + 1 < text.length :=
  (List.getElem?_eq_some_iff.mp h.2).1

/-- **Behind the first two slashes there is another byte**, if they are not the end. -/
theorem behind_slashes (hends : ¬ EndsInSlashes text) {i : Nat} (hat : SlashesAt text i)
    (hfirst : ∀ j < i, ¬ SlashesAt text j) : i + 3 ≤ text.length := by
  refine Nat.lt_of_le_of_ne hat.lt fun hlast => hends ?_
  have hwhere : text.length - 2 = i := by omega
  unfold EndsInSlashes
  rw [hwhere]
  exact ⟨hat, hfirst⟩

theorem here_outer (h : s.phase = .outer) : Here buffer text s ↔ s.p ≤ text.length ∧ Ahead buffer s ∧
    (s.url.server = none → ∀ i < s.p, ¬ SlashesAt text i) := by
  rw [Here, h]

theorem here_inner {portBegin : Nat} (h : s.phase = .inner portBegin) :
    Here buffer text s ↔ s.p ≤ text.length ∧ Ahead buffer s ∧ portBegin ≤ s.p := by
  rw [Here, h]

theorem left_outer (h : s.phase = .outer) : left text s = text.length + 1 - s.p := by
  rw [left, h]

theorem left_inner {portBegin : Nat} (h : s.phase = .inner portBegin) :
    left text s = text.length + 1 - s.p := by
  rw [left, h]

/-- **The body**, with two bytes of the text in front of it: the pointer does not pass the 0, since the
    first two slashes are not the end of the text. -/
theorem body_inside (hends : ¬ EndsInSlashes text) {c d : Byte} (hphase : s.phase = .outer)
    (hwithin : Within text.length s) (hahead : Ahead buffer s)
    (hnone : s.url.server = none → ∀ i < s.p, ¬ SlashesAt text i) (hc : text[s.p]? = some c)
    (hd : text[s.p + 1]? = some d) :
    Inside buffer text (s.body c d) ∧ left text (s.body c d) < text.length + 1 - s.p := by
  have hnext : s.p + 1 < text.length := (List.getElem?_eq_some_iff.mp hd).1
  have hp : s.p ≤ text.length := by omega
  by_cases hslashes : s.url.server = none ∧ c = ascii '/' ∧ d = ascii '/'
  · obtain ⟨hserver, rfl, rfl⟩ := hslashes
    have hbehind : s.p + 3 ≤ text.length := behind_slashes hends ⟨hc, hd⟩ (hnone hserver)
    have hphase' : ({ s with
        url := { s.url with server := some (s.p + 2) }, p := s.p + 3 } : Scanner).phase = .outer :=
      hphase
    rw [body_slashes hserver, left_outer hphase']
    refine ⟨⟨hwithin, (here_outer hphase').mpr ⟨hbehind, fun i hi => ?_, fun h => ?_⟩⟩, ?_⟩
    · exact hahead i (Nat.le_trans (Nat.le_add_right s.p 3) hi)
    · exact absurd h (Option.some_ne_none _)
    · show text.length + 1 - (s.p + 3) < text.length + 1 - s.p
      omega
  by_cases hcolon : s.url.server ≠ none ∧ c = ascii ':'
  · obtain ⟨hserver, rfl⟩ := hcolon
    rw [body_colon hserver]
    refine ⟨⟨hwithin.cut hp, Nat.le_of_lt hnext, fun i hi => hahead.cut hi, Nat.le_refl _⟩, ?_⟩
    show text.length + 1 - (s.p + 1) < text.length + 1 - s.p
    omega
  by_cases hslash : s.url.server ≠ none ∧ c = ascii '/'
  · obtain ⟨hserver, rfl⟩ := hslash
    rw [body_slash hserver]
    refine ⟨⟨hwithin.cut hp, trivial⟩, ?_⟩
    show 0 < text.length + 1 - s.p
    omega
  have hphase' : ({ s with p := s.p + 1 } : Scanner).phase = .outer := hphase
  rw [body_next hslashes hcolon hslash, left_outer hphase']
  refine ⟨⟨hwithin, (here_outer hphase').mpr ⟨Nat.le_of_lt hnext, fun i hi => ?_,
    fun hserver i hi => ?_⟩⟩, ?_⟩
  · exact hahead i (Nat.le_of_lt hi)
  · rcases Nat.lt_succ_iff_lt_or_eq.mp hi with hi | rfl
    · exact hnone hserver i hi
    · intro hat
      rw [SlashesAt, hc, hd] at hat
      exact hslashes ⟨hserver, Option.some.inj hat.1, Option.some.inj hat.2⟩
  · show text.length + 1 - (s.p + 1) < text.length + 1 - s.p
    omega

/-- What stands in the buffer at a place of the text that the pointer has not passed. -/
theorem Ahead.byte (h : Ahead buffer s) (htext : ctext buffer = some text) {i : Nat} (hp : s.p ≤ i)
    (hi : i < text.length) : ∃ c, text[i]? = some c ∧ s.url.buffer[i]? = some c ∧ c ≠ 0 := by
  obtain ⟨hsame, hzero⟩ := getElem?_inside htext hi
  have hc : text[i]? = some text[i] := List.getElem?_eq_getElem hi
  rw [hsame, hc] at hzero
  exact ⟨text[i], hc, (h i hp).trans (hsame.trans hc), fun h => hzero (congrArg some h)⟩

theorem Ahead.ended (h : Ahead buffer s) (htext : ctext buffer = some text) {i : Nat}
    (hp : s.p ≤ i) (hend : i = text.length) : s.url.buffer[i]? = some 0 := by
  rw [h i hp, hend, getElem?_ended htext]

/-- **A round of the outer loop.** -/
theorem outer_inside (htext : ctext buffer = some text) (hends : ¬ EndsInSlashes text)
    (h : Inside buffer text s) (hphase : s.phase = .outer) :
    Inside buffer text s.outer ∧ left text s.outer < left text s := by
  obtain ⟨hp, hahead, hnone⟩ := (here_outer hphase).mp h.here
  have hover : 0 < text.length + 1 - s.p := by omega
  rw [left_outer hphase]
  rcases Nat.lt_or_eq_of_le hp with hlt | hend
  · obtain ⟨c, hc, hbyte, hzero⟩ := hahead.byte htext (Nat.le_refl _) hlt
    have hread : Within text.length ((s.read s.p).read (s.p + 1)) := (h.within.read hp).read hlt
    rcases Nat.lt_or_eq_of_le (Nat.succ_le_of_lt hlt) with hlt' | hend
    · obtain ⟨d, hd, hbyte', hzero'⟩ := hahead.byte htext (Nat.le_succ s.p) hlt'
      rw [outer_body hbyte hzero hbyte' hzero']
      exact body_inside (s := (s.read s.p).read (s.p + 1)) hends hphase hread hahead hnone hc hd
    · rw [outer_next_ended hbyte hzero (hahead.ended htext (Nat.le_succ s.p) hend)]
      exact ⟨⟨hread, trivial⟩, hover⟩
  · rw [outer_ended (hahead.ended htext (Nat.le_refl _) hend)]
    exact ⟨⟨h.within.read hp, trivial⟩, hover⟩

/-- Behind the cut the port is ended. -/
theorem finish_inside {portBegin : Nat} (hwithin : Within text.length s) (hp : s.p ≤ text.length)
    (hbegin : portBegin ≤ s.p) (hcut : s.url.buffer[s.p]? = some 0) :
    Inside buffer text (s.finish portBegin) ∧ left text (s.finish portBegin) = 0 := by
  have hzero : (s.url.buffer.drop portBegin)[s.p - portBegin]? = some 0 := by
    rw [List.getElem?_drop, Nat.add_sub_cancel' hbegin]
    exact hcut
  obtain ⟨digits, hdigits, hlength⟩ := ctext_of_getElem? hzero
  unfold Scanner.finish
  rw [hdigits]
  refine ⟨⟨fun a ha => ?_, trivial⟩, rfl⟩
  rcases List.mem_append.mp ha with ha | ha
  · obtain ⟨i, hi, rfl⟩ := List.mem_map.mp ha
    have hi := List.mem_range.mp hi
    show portBegin + i ≤ text.length
    omega
  · exact hwithin a ha

/-- **A round of the loop over the port.** -/
theorem inner_inside (htext : ctext buffer = some text) (h : Inside buffer text s) {portBegin : Nat}
    (hphase : s.phase = .inner portBegin) :
    Inside buffer text (s.inner portBegin) ∧ left text (s.inner portBegin) < left text s := by
  obtain ⟨hp, hahead, hbegin⟩ := (here_inner hphase).mp h.here
  have hover : 0 < text.length + 1 - s.p := by omega
  have hread : Within text.length (s.read s.p) := h.within.read hp
  rw [left_inner hphase]
  rcases Nat.lt_or_eq_of_le hp with hlt | hend
  · obtain ⟨c, _, hbyte, hzero⟩ := hahead.byte htext (Nat.le_refl _) hlt
    by_cases hslash : c = ascii '/'
    · rw [hslash] at hbyte
      have hin : s.p < s.url.buffer.length := (List.getElem?_eq_some_iff.mp hbyte).1
      have hfinish : Inside buffer text ((s.read s.p).cut.finish portBegin) ∧
          left text ((s.read s.p).cut.finish portBegin) = 0 :=
        finish_inside (hread.cut hp) hp hbegin (List.getElem?_set_self hin)
      rw [inner_slash hbyte, hfinish.2]
      exact ⟨hfinish.1, hover⟩
    · have hphase' : ({ s.read s.p with p := s.p + 1 } : Scanner).phase = .inner portBegin := hphase
      rw [inner_next hbyte hzero hslash, left_inner hphase']
      refine ⟨⟨hread, (here_inner hphase').mpr ⟨hlt, fun i hi => ?_, ?_⟩⟩, ?_⟩
      · exact hahead i (Nat.le_of_lt hi)
      · exact Nat.le_succ_of_le hbegin
      · show text.length + 1 - (s.p + 1) < text.length + 1 - s.p
        omega
  · rw [inner_ended (hahead.ended htext (Nat.le_refl _) hend)]
    exact ⟨⟨hread, trivial⟩, hover⟩

/-- **Where it is not over, there is a round**, and every round keeps the invariant. -/
theorem round_inside (htext : ctext buffer = some text) (hends : ¬ EndsInSlashes text)
    (h : Inside buffer text s) : s.phase = .done ∨
      ∃ s', step s () = some s' ∧ Inside buffer text s' ∧ left text s' < left text s := by
  cases hphase : s.phase with
  | outer => exact Or.inr ⟨_, step_outer hphase, outer_inside htext hends h hphase⟩
  | inner portBegin => exact Or.inr ⟨_, step_inner hphase, inner_inside htext h hphase⟩
  | done => exact Or.inl rfl
  | outside =>
      have hhere := h.here
      rw [Here, hphase] at hhere
      exact hhere.elim

theorem start_inside (buffer text : List Byte) : Inside buffer text (start buffer) where
  within := fun _ ha => absurd ha List.not_mem_nil
  here := ⟨Nat.zero_le _, fun _ _ => rfl, fun _ i hi => absurd hi (Nat.not_lt_zero i)⟩

/-- **A text that does not end in its first two slashes.** -/
theorem stays (htext : ctext buffer = some text) (hends : ¬ EndsInSlashes text) :
    Stays buffer text where
  ends := by
    refine Run.start.reaches (Inside buffer text) (fun s => s.phase = .done) (left text)
      (fun s hi hgoes => ?_) (start_inside buffer text)
    exact ⟨(), (round_inside htext hends hi).resolve_left hgoes⟩
  inside tr s hrun := by
    refine (hrun.inv (Inside buffer text) (start_inside buffer text) fun s _ s' hi hs => ?_).within
    rcases round_inside htext hends hi with hover | ⟨s₁, hs₁, hi', _⟩
    · rw [step, hover] at hs
      cases hs
    · have heq : s₁ = s' := Option.some.inj (hs₁.symm.trans hs)
      exact heq ▸ hi'

end Invariant

/-! ## 5. Behind the 0 -/

section Behind

variable {buffer text : List Byte}

/-- In front of the first two slashes the pointer goes on byte by byte. -/
theorem reaches_place (htext : ctext buffer = some text) {k : Nat} (hk : k + 1 < text.length)
    (hnone : ∀ i < k, ¬ SlashesAt text i) :
    ∃ tr accesses, Run step (start buffer) tr { url := { buffer }, p := k, accesses } := by
  induction k with
  | zero => exact ⟨[], [], .start⟩
  | succ k ih =>
      obtain ⟨tr, accesses, hrun⟩ := ih (by omega) fun i hi => hnone i (Nat.lt_succ_of_lt hi)
      have hahead : Ahead buffer { url := { buffer }, p := k, accesses } := fun _ _ => rfl
      obtain ⟨c, hc, hbyte, hzero⟩ := hahead.byte htext (Nat.le_refl k) (by omega)
      obtain ⟨d, hd, hbyte', hzero'⟩ := hahead.byte htext (Nat.le_succ k) (by omega)
      have hslashes : ¬ (c = ascii '/' ∧ d = ascii '/') := by
        intro h
        refine hnone k (Nat.lt_succ_self k) ?_
        rw [SlashesAt, hc, hd, h.1, h.2]
        exact ⟨rfl, rfl⟩
      have hnext : step { url := { buffer }, p := k, accesses } () = some {
          url := { buffer }, p := k + 1, accesses := .read (k + 1) :: .read k :: accesses } := by
        rw [step_outer rfl, outer_body hbyte hzero hbyte' hzero',
          body_next (fun h => hslashes h.2) (fun h => h.1 rfl) fun h => h.1 rfl]
        rfl
      exact ⟨_, _, .step tr _ () _ hrun hnext⟩

/-- **Behind the first two slashes the pointer is at the byte behind the next one**, and so, where
    that is the 0, behind it. -/
theorem reads_behind (htext : ctext buffer = some text) (hends : EndsInSlashes text) :
    ∃ tr s, Run step (start buffer) tr s ∧ .read (text.length + 1) ∈ s.accesses ∧
      (buffer.length = text.length + 1 → s.phase = .outside) := by
  obtain ⟨hlast, hnone⟩ := hends
  have hlt := hlast.lt
  obtain ⟨tr, accesses, hrun⟩ := reaches_place htext hlt hnone
  have hahead : Ahead buffer { url := { buffer }, p := text.length - 2, accesses } :=
    fun _ _ => rfl
  obtain ⟨c, hc, hbyte, hzero⟩ := hahead.byte htext (Nat.le_refl _) (Nat.lt_of_succ_lt hlt)
  obtain ⟨d, hd, hbyte', hzero'⟩ := hahead.byte htext (Nat.le_succ _) hlt
  obtain ⟨hfirst, hsecond⟩ := hlast
  have hc : c = ascii '/' := Option.some.inj (hc.symm.trans hfirst)
  have hd : d = ascii '/' := Option.some.inj (hd.symm.trans hsecond)
  have hpassed : step { url := { buffer }, p := text.length - 2, accesses } () = some {
      url := { buffer, server := some (text.length - 2 + 2) }
      p := text.length - 2 + 3
      accesses := .read (text.length - 2 + 1) :: .read (text.length - 2) :: accesses } := by
    rw [step_outer rfl, outer_body hbyte hzero hbyte' hzero', hc, hd, body_slashes rfl]
    rfl
  have hp : text.length - 2 + 3 = text.length + 1 := by omega
  rw [hp] at hpassed
  refine ⟨_, _, .step _ _ () _ (.step tr _ () _ hrun hpassed) (step_outer rfl), ?_, fun hsize => ?_⟩
  · exact read_mem_outer _
  · rw [outer_outside]
    exact List.getElem?_eq_none (Nat.le_of_eq hsize)

/-- **A text of 255 bytes that ends in its first two slashes** is followed out of the buffer. -/
theorem leaves_buffer (hsize : buffer.length = Url.bufferSize) (htext : ctext buffer = some text)
    (hlong : text.length = 255) (hends : EndsInSlashes text) :
    ∃ tr s, Run step (start buffer) tr s ∧ s.phase = .outside := by
  obtain ⟨tr, s, hrun, _, hout⟩ := reads_behind htext hends
  exact ⟨tr, s, hrun, hout (by rw [hsize, hlong]; rfl)⟩

end Behind

/-- **The loops end and stay in front of the 0 exactly if the first two slashes of the text are not its
    end.** -/
theorem stays_iff {buffer text : List Byte} (htext : ctext buffer = some text) :
    Stays buffer text ↔ ¬ EndsInSlashes text := by
  constructor
  · intro h hends
    obtain ⟨tr, s, hrun, hread, _⟩ := reads_behind htext hends
    exact absurd (h.inside tr s hrun _ hread) (Nat.not_succ_le_self text.length)
  · intro hends
    exact stays htext hends

/-- `http://h:1/` is scanned up to its last slash. -/
theorem port_stays :
    Stays (Url.copyFormat Url.fresh (Url.written Url.http Url.oneHost (some 1) []))
      (Url.written Url.http Url.oneHost (some 1) []) :=
  (stays_iff (by decide)).mpr (by decide)

/-- What is copied into a buffer leaves its size. -/
theorem length_copyFormat {old f : List Byte} {n : Nat} (hold : old.length = n)
    (hshort : f.length < n) : (Url.copyFormat old f).length = n := by
  unfold Url.copyFormat
  rw [List.length_append, List.length_cons, List.length_drop, hold]
  omega

/-- `http://`. -/
def noHost : List Byte := Url.http ++ [ascii ':', ascii '/', ascii '/']

/-- **The 0 behind `http://` is passed.** -/
theorem end_passed : ¬ ∀ buffer text : List Byte, buffer.length = Url.bufferSize →
    ctext buffer = some text → Stays buffer text := by
  intro hall
  have htext : ctext (Url.copyFormat Url.fresh noHost) = some noHost := by decide
  obtain ⟨tr, s, hrun, hread, _⟩ := reads_behind htext (by decide)
  have hstays := hall _ noHost (length_copyFormat List.length_replicate (by decide)) htext
  exact absurd (hstays.inside tr s hrun _ hread) (by decide)

end FieldKit.UrlMemory
