import Mathlib.Data.List.Basic

/-!
# Replaying a log against what it holds

The models record the calls a backend makes in a log. A `Ledger` says what each call acquires
and releases, and which resource has to be released before which. `Ledger.replay` runs a log
against what is held and fails as soon as a call acquires what is held, or releases what is not
held or what something still held uses. `dri_init` and the bo functions of `dri.c` are checked
against it, and so are the hbm bos of `hbm.c`.
-/

namespace Minigbm

/-- What a log of calls does to resources: what each call acquires and releases, and
`uses r r'` when `r` has to be released before `r'`. -/
structure Ledger (C R : Type) where
  acquires : C → Option R
  releases : C → Option R
  uses : R → R → Bool

/-- Replays calls against what is held: `none` as soon as a call acquires what is held, or
releases what is not held or what something still held uses. -/
def Ledger.replay {C R : Type} [DecidableEq R] (L : Ledger C R) :
    List C → List R → Option (List R)
  | [], held => some held
  | c :: calls, held =>
    match L.acquires c, L.releases c with
    | some r, _ => if r ∈ held then none else L.replay calls (r :: held)
    | none, some r =>
      if r ∈ held ∧ ∀ r' ∈ held.erase r, L.uses r' r = false then L.replay calls (held.erase r)
      else none
    | none, none => L.replay calls held

theorem Ledger.replay_append {C R : Type} [DecidableEq R] (L : Ledger C R)
    (calls calls' : List C) (held : List R) :
    L.replay (calls ++ calls') held = (L.replay calls held).bind (L.replay calls') := by
  induction calls generalizing held with
  | nil => rfl
  | cons c calls ih =>
    simp only [List.cons_append, Ledger.replay]
    split
    · split_ifs <;> simp [ih]
    · split_ifs <;> simp [ih]
    · exact ih held

end Minigbm
