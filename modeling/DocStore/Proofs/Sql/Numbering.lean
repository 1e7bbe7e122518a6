import DocStore.Proofs.Sql.Scope

/-!
# Numbering parameters as they come

A text that is written in one pass gets the number of every placeholder from the list of the
parameters so far (`Listing.push`).  Where a part ends up is then seen from where the list stands
when it is written: `Listing.Yields n a more` says that from number `n` on the part is `a`, and
that the parameters `more` are appended.

`Template.shift` goes through everything that templates are made of, so the part that is written
from number `n + k` on is the one that is written from `n` on, moved behind `k` parameters.
-/

namespace DocStore

namespace Sql

/-! ### Moving templates -/

namespace Template

variable (k : Nat)

@[simp] theorem shift_text (s : String) : shift k [.text s] = [.text s] := rfl

@[simp] theorem shift_slot (n : Nat) : (slot n).shift k = slot (n + k) := rfl

@[simp] theorem shift_sql (parts : List Template) :
    (sql parts).shift k = sql (parts.map (shift k)) := by
  simp only [sql, shift, List.map_flatten]
  rfl

theorem shift_join (separator : String) (parts : List Template) :
    (join separator parts).shift k = join separator (parts.map (shift k)) := by
  induction parts with
  | nil => rfl
  | cons t rest ih =>
    cases rest with
    | nil => rfl
    | cons u rest =>
      rw [join_cons_cons, shift_append, List.map_cons, List.map_cons, join_cons_cons,
        ← List.map_cons, ← ih]
      rfl

end Template

/-- One template for each number of a range with steps of a width. -/
theorem map_shift_range' {f g : Nat → Template} {k : Nat}
    (h : ∀ i, (f i).shift k = g (i + k)) (n count width : Nat) :
    ((List.range' n count width).map f).map (Template.shift k) =
      (List.range' (n + k) count width).map g := by
  rw [Nat.add_comm n k, ← List.map_add_range', List.map_map, List.map_map]
  exact List.map_congr_left fun i _ => (h i).trans (congrArg g (Nat.add_comm i k))

theorem map_shift_slotsFrom (k n count : Nat) :
    (slotsFrom n count).map (Template.shift k) = slotsFrom (n + k) count :=
  map_shift_range' (fun i => Template.shift_slot k i) n count 1

/-! ### Lists of parameters -/

namespace ParamList

variable (ps : ParamList)

/-- The first number, behind as many parameters as numbers are left out. -/
theorem next_startingAt (start : Nat) : (startingAt start).next = start - 1 + 1 := by
  simp only [startingAt, next, List.length_nil]
  omega

@[simp] theorem extend_nil : ps.extend [] = ps := by simp [extend]

@[simp] theorem extend_extend (more rest : List Param) :
    (ps.extend more).extend rest = ps.extend (more ++ rest) := by
  simp [extend]

@[simp] theorem next_extend (more : List Param) :
    (ps.extend more).next = ps.next + more.length := by
  simp [extend, next, Nat.add_assoc]

end ParamList

/-- Writing with a list of parameters at hand. -/
abbrev Listing := StateT ParamList (Except Fault)

namespace Listing

variable {α β : Type} {m : Listing α} {n : Nat} {a : α} {more : List Param}

/-- Append a parameter and give its placeholder. -/
def push (p : Param) : Listing Template := modifyGet fun ps => ps.push p

/-- From number `n` on, `a` is given and the parameters `more` are appended. -/
def Yields (m : Listing α) (n : Nat) (a : α) (more : List Param) : Prop :=
  ∀ ps : ParamList, ps.next = n → m.run ps = .ok (a, ps.extend more)

/-- From number `n` on, there is a fault. -/
def Fails (m : Listing α) (n : Nat) (fault : Fault) : Prop :=
  ∀ ps : ParamList, ps.next = n → m.run ps = .error fault

theorem yields_pure (a : α) (n : Nat) : (pure a : Listing α).Yields n a [] :=
  fun ps _ => by rw [StateT.run_pure, ps.extend_nil]; rfl

theorem yields_push (p : Param) (n : Nat) : (push p).Yields n (.slot n) [p] := by
  rintro ps rfl
  rfl

theorem fails_throw (fault : Fault) (n : Nat) : (throw fault : Listing α).Fails n fault :=
  fun _ _ => rfl

theorem Yields.bind {f : α → Listing β} {b : β} {rest all : List Param} (hm : m.Yields n a more)
    (hf : (f a).Yields (n + more.length) b rest) (hall : more ++ rest = all) :
    (m >>= f).Yields n b all := by
  rintro ps rfl
  have hf := hf (ps.extend more) (ps.next_extend more)
  rw [StateT.run_bind, hm ps rfl, ← hall, ← ps.extend_extend, ← hf]
  rfl

theorem Yields.map {g : α → β} (hm : m.Yields n a more) :
    (m >>= fun a => pure (g a)).Yields n (g a) more :=
  hm.bind (f := fun a => pure (g a)) (yields_pure (g a) _) (List.append_nil more)

theorem Yields.bind_fails {f : α → Listing β} {fault : Fault} (hm : m.Yields n a more)
    (hf : (f a).Fails (n + more.length) fault) : (m >>= f).Fails n fault := by
  rintro ps rfl
  rw [StateT.run_bind, hm ps rfl, ← hf (ps.extend more) (ps.next_extend more)]
  rfl

theorem Fails.bind {fault : Fault} (hm : m.Fails n fault) (f : α → Listing β) :
    (m >>= f).Fails n fault := by
  intro ps hps
  rw [StateT.run_bind, hm ps hps]
  rfl

/-- Templates that take as many parameters each as the width says. -/
theorem yields_mapM_width {f : α → Listing Template} {g : Nat → Template} {p : α → List Param}
    {width : Nat} (h : ∀ a n, (f a).Yields n (g n) (p a)) (hwidth : ∀ a, (p a).length = width)
    (as : List α) (n : Nat) :
    (as.mapM f).Yields n ((List.range' n as.length width).map g) (as.flatMap p) := by
  induction as generalizing n with
  | nil => exact yields_pure [] n
  | cons a rest ih =>
    have hrest := (ih (n + (p a).length)).map (g := (g n :: ·))
    rw [hwidth] at hrest
    rw [List.mapM_cons]
    refine (h a n).bind (f := fun t => rest.mapM f >>= fun ts => pure (t :: ts)) ?_ rfl
    rw [hwidth]
    exact hrest

/-- Templates that take one parameter each. -/
theorem yields_mapM {f : α → Listing Template} {g : Nat → Template} {p : α → Param}
    (h : ∀ a n, (f a).Yields n (g n) [p a]) (as : List α) (n : Nat) :
    (as.mapM f).Yields n ((List.range' n as.length).map g) (as.map p) := by
  have hparams : as.map p = as.flatMap fun a => [p a] := List.map_eq_flatMap
  rw [hparams]
  exact yields_mapM_width h (fun _ => rfl) as n

/-- From number `n` on, writing ends as a result says. -/
def Follows (m : Listing α) (n : Nat) : Except Fault (α × List Param) → Prop
  | .ok (a, more) => m.Yields n a more
  | .error fault => m.Fails n fault

end Listing

end Sql

end DocStore
