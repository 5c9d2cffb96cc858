import Linewise.Align.Run
/-! Sliding changes along equal lines. A change moves past kept lines that match its own, is
exchanged with a neighbour of the other move and merged with one of its own; each change goes up
as far as it can and then down, deleted runs in a first pass and added runs in a second. -/
namespace Linewise.Align

def swapNext (rs : List Run) (i : Nat) : List Run :=
  match rs[i]?, rs[i + 1]? with
  | some a, some b => (rs.set i b).set (i + 1) a
  | _, _ => rs

def keepsAt (rs : List Run) (i : Nat) : Bool :=
  match rs[i]? with
  | some r => r.move == .keep
  | none => false

/-- How many lines a change `cur` can move towards the start past the kept run `prev`: the
common suffix of the kept run's old lines and the change's new lines. A deletion covers no new
lines, so it never moves past kept lines. -/
def upwardRoom (old new : Array String) (prev cur : Run) : Nat :=
  commonSuffix old prev.oldStart prev.oldEnd new cur.newStart cur.newEnd

/-- How many lines a change `cur` can move towards the end past the kept run `next`: the common
prefix of the kept run's old lines and the change's new lines. -/
def downwardRoom (old new : Array String) (cur next : Run) : Nat :=
  commonPrefix old next.oldStart next.oldEnd new cur.newStart cur.newEnd

/-- Moves the change at `p` towards the start as far as it goes; answers the runs and the
change's new place. -/
def slideUp (old new : Array String) : Nat → List Run → Nat → List Run × Nat
  | 0, rs, p => (rs, p)
  | fuel + 1, rs, p =>
    match p, rs[p]? with
    | q + 1, some cur =>
      match rs[q]? with
      | none => (rs, p)
      | some prev =>
        match cur.move, prev.move with
        | .keep, _ => (rs, p)
        | _, .keep =>
          let s := upwardRoom old new prev cur
          if 0 < s then
            let rs :=
              if keepsAt rs (p + 1) then rs.modify (p + 1) (·.growLeft s)
              else rs.insertIdx (p + 1) ⟨.keep, prev.oldEnd - s, cur.newEnd - s, s⟩
            let rs := (rs.modify p (·.shiftLeft s)).modify q (·.shrinkLeft s)
            if prev.len - s == 0 then slideUp old new fuel (rs.eraseIdx q) q
            else slideUp old new fuel rs p
          else if prev.isEmpty then slideUp old new fuel (rs.eraseIdx q) q
          else (rs, p)
        | .add, .drop | .drop, .add => slideUp old new fuel (swapNext rs q) q
        | .add, .add => slideUp old new fuel ((rs.modify q (·.growRight cur.newLen)).eraseIdx p) q
        | .drop, .drop => slideUp old new fuel ((rs.modify q (·.growRight cur.oldLen)).eraseIdx p) q
    | _, _ => (rs, p)

/-- Moves the change at `p` towards the end as far as it goes; answers the runs and the
change's new place. -/
def slideDown (old new : Array String) : Nat → List Run → Nat → List Run × Nat
  | 0, rs, p => (rs, p)
  | fuel + 1, rs, p =>
    match rs[p]?, rs[p + 1]? with
    | some cur, some next =>
      match cur.move, next.move with
      | .keep, _ => (rs, p)
      | _, .keep =>
        let s := downwardRoom old new cur next
        if 0 < s then
          let (rs, p) :=
            if 0 < p && keepsAt rs (p - 1) then (rs.modify (p - 1) (·.growRight s), p)
            else (rs.insertIdx p ⟨.keep, next.oldStart, cur.newStart, s⟩, p + 1)
          let rs := (rs.modify p (·.shiftRight s)).modify (p + 1) (·.shrinkRight s)
          if next.len - s == 0 then slideDown old new fuel (rs.eraseIdx (p + 1)) p
          else slideDown old new fuel rs p
        else if next.isEmpty then slideDown old new fuel (rs.eraseIdx (p + 1)) p
        else (rs, p)
      | .add, .drop | .drop, .add => slideDown old new fuel (swapNext rs p) (p + 1)
      | .add, .add => slideDown old new fuel ((rs.modify p (·.growRight next.newLen)).eraseIdx (p + 1)) p
      | .drop, .drop => slideDown old new fuel ((rs.modify p (·.growRight next.oldLen)).eraseIdx (p + 1)) p
    | _, _ => (rs, p)

/-- One pass over the runs sliding every run of move `m` up and then down. -/
def slidePass (old new : Array String) (m : Move) (fuel : Nat) : Nat → List Run → Nat → List Run
  | 0, rs, _ => rs
  | steps + 1, rs, p =>
    match rs[p]? with
    | none => rs
    | some r =>
      if r.move == m then
        let (rs, p) := slideUp old new fuel rs p
        let (rs, p) := slideDown old new fuel rs p
        slidePass old new m fuel steps rs (p + 1)
      else slidePass old new m fuel steps rs (p + 1)

/-- Slides deleted runs and then added runs. The fuel is never used up (`slideChanges_eq_of_fuel_le`):
any larger fuel gives the same runs. -/
def slideChanges (old new : Array String) (rs : List Run) : List Run :=
  let fuel := (old.size + new.size + rs.length + 2) * (rs.length + 2) * 4
  let rs := slidePass old new .drop fuel fuel rs 0
  slidePass old new .add fuel fuel rs 0

end Linewise.Align
