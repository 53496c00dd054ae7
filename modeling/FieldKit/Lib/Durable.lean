/-
  File:      FieldKit/Lib/Durable.lean
  Subject:   A store of one value: what is live, what would be loaded, and what a restart finds.

  A value is changed in memory and put down as a whole. What is put down is `staged` first, and
  `durable` if the medium takes it. A value that is put down without a date counts as none.

  * `durable_last` -- along any run, what is durable is what the last successful commit or format
    has left;
  * `restart_live` -- so that is what a restart brings back.
-/
import FieldKit.Lib.Run

namespace FieldKit.Lib

/-- The store. -/
structure Durable (α : Type) where
  live : α
  staged : Option α := none
  durable : Option α := none

namespace Durable

variable {α : Type}

/-- What is done with it. -/
inductive Op (α : Type) where
  | change (f : α → α)
  | commit (dated ok : Bool)
  | load
  | format (ok : Bool)
  | restart

/-- One operation; `blank` is what a restart finds where nothing is durable. -/
def apply (blank : α) (s : Durable α) : Op α → Durable α
  | .change f => { s with live := f s.live }
  | .commit dated ok =>
    let staged := if dated then some s.live else none
    { s with staged, durable := if ok then staged else s.durable }
  | .load => { s with live := s.staged.getD s.live }
  | .format ok => if ok then { s with staged := none, durable := none } else s
  | .restart => { live := s.durable.getD blank, staged := s.durable, durable := s.durable }

/-- The operation replaces what is durable. -/
def Op.writes : Op α → Bool
  | .commit _ ok => ok
  | .format ok => ok
  | _ => false

/-- What it puts there. -/
def written (s : Durable α) : Op α → Option α
  | .commit true _ => some s.live
  | _ => none

/-- **The last write of a run**, or what was durable at its beginning. -/
def lastWritten (durable : Option α) (tr : List (Durable α × Op α)) : Option α :=
  match (tr.filter fun p => p.2.writes).getLast? with
  | some (s, op) => s.written op
  | none => durable

theorem lastWritten_concat (durable : Option α) (tr : List (Durable α × Op α)) (s : Durable α)
    (op : Op α) : lastWritten durable (tr ++ [(s, op)]) =
      if op.writes then s.written op else lastWritten durable tr := by
  unfold lastWritten
  rw [List.filter_append, List.filter_cons]
  cases op.writes <;> simp

theorem apply_durable (blank : α) (s : Durable α) (op : Op α) :
    (s.apply blank op).durable = if op.writes then s.written op else s.durable := by
  cases op with
  | change f => rfl
  | commit dated ok => cases dated <;> cases ok <;> rfl
  | load => rfl
  | format ok => cases ok <;> rfl
  | restart => rfl

section Runs

variable {blank : α} {s0 s : Durable α} {tr : List (Durable α × Op α)}

/-- One more operation. -/
theorem run_one (h : Run (fun s op => some (s.apply blank op)) s0 tr s) (durable : Option α)
    (op : Op α) : ∃ tr', Run (fun s op => some (s.apply blank op)) s0 tr' (s.apply blank op) ∧
      lastWritten durable tr' = if op.writes then s.written op else lastWritten durable tr :=
  ⟨tr ++ [(s, op)], .step tr s op _ h rfl, lastWritten_concat durable tr s op⟩

/-- Two more, of which the first writes nothing. -/
theorem run_two (h : Run (fun s op => some (s.apply blank op)) s0 tr s) (durable : Option α)
    {op : Op α} (hop : op.writes = false) (op' : Op α) :
    ∃ tr', Run (fun s op => some (s.apply blank op)) s0 tr' ((s.apply blank op).apply blank op') ∧
      lastWritten durable tr' =
        if op'.writes then (s.apply blank op).written op' else lastWritten durable tr := by
  obtain ⟨tr', hrun, hlast⟩ := run_one h durable op
  obtain ⟨tr'', hrun', hlast'⟩ := run_one hrun durable op'
  rw [hop] at hlast
  exact ⟨tr'', hrun', hlast' ▸ hlast ▸ rfl⟩

/-- **What is durable is what was written last.** -/
theorem durable_last (h : Run (fun s op => some (s.apply blank op)) s0 tr s) :
    s.durable = lastWritten s0.durable tr := by
  induction h with
  | start => rfl
  | step tr s op s' _ hs ih =>
      cases hs
      rw [apply_durable, lastWritten_concat, ih]

/-- **A restart brings it back.** -/
theorem restart_live (h : Run (fun s op => some (s.apply blank op)) s0 tr s) :
    (s.apply blank .restart).live = (lastWritten s0.durable tr).getD blank :=
  congrArg (fun d => Option.getD d blank) (durable_last h)

end Runs

end Durable

end FieldKit.Lib
