import DocStore.Sql.Statement

/-!
# Placeholders in scope

A template is *within* a range of numbers if every placeholder has a number of that range and none
is too wide for a machine word (`Template.Within`).  A statement is *scoped* if its placeholders
number its own parameters.

`Template.fill f` is the text of a template whose placeholder `n` is written as `f n`.  Rendering a
scoped statement fills every placeholder with the text of its parameter (`Statement.render_eq`), and
moving a template behind `k` parameters does not change what is filled in (`Template.fill_shift`).
So a part that was written on its own has the same text wherever it is put
(`Template.fill_placed`).
-/

namespace DocStore

namespace Sql

namespace Piece

/-- A placeholder has a number from `lo` on and below `hi`. -/
def Within (lo hi : Nat) : Piece → Prop
  | .text _ => True
  | .slot n => lo ≤ n ∧ n < hi
  | .wide _ => False

/-- The text of a piece, placeholder `n` being written as `f n`. -/
def fill (f : Nat → String) : Piece → String
  | .text s => s
  | .slot n => f n
  | .wide n => f n

@[simp] theorem within_text (lo hi : Nat) (s : String) : (text s).Within lo hi := trivial

@[simp] theorem within_slot (lo hi n : Nat) : (slot n).Within lo hi ↔ lo ≤ n ∧ n < hi := Iff.rfl

@[simp] theorem fill_text (f : Nat → String) (s : String) : (text s).fill f = s := rfl

@[simp] theorem fill_slot (f : Nat → String) (n : Nat) : (slot n).fill f = f n := rfl

theorem print_eq_fill (p : Piece) : p.print = p.fill fun n => "$" ++ toString n := by
  cases p <;> rfl

end Piece

namespace Template

/-- Every placeholder has a number from `lo` on and below `hi`. -/
def Within (lo hi : Nat) (t : Template) : Prop := ∀ p ∈ t, p.Within lo hi

/-- The text of a template, placeholder `n` being written as `f n`. -/
def fill (f : Nat → String) (t : Template) : String := String.join (t.map (Piece.fill f))

theorem join_cons_cons (separator : String) (t u : Template) (rest : List Template) :
    join separator (t :: u :: rest) = t ++ .text separator :: join separator (u :: rest) := rfl

/-! ### Range of the placeholders -/

variable {lo hi lo' hi' : Nat} {t u : Template}

@[simp] theorem within_nil : Within lo hi [] := by simp [Within]

@[simp] theorem within_cons {p : Piece} :
    Within lo hi (p :: t) ↔ p.Within lo hi ∧ Within lo hi t := by
  simp [Within]

@[simp] theorem within_append : Within lo hi (t ++ u) ↔ Within lo hi t ∧ Within lo hi u := by
  simp only [Within, List.mem_append]
  constructor
  · intro h
    exact ⟨fun p hp => h p (.inl hp), fun p hp => h p (.inr hp)⟩
  · rintro ⟨ht, hu⟩ p (hp | hp)
    · exact ht p hp
    · exact hu p hp

@[simp] theorem within_slot {n : Nat} : Within lo hi (slot n) ↔ lo ≤ n ∧ n < hi := by
  simp [slot]

theorem within_sql {parts : List Template} :
    Within lo hi (sql parts) ↔ ∀ t ∈ parts, Within lo hi t := by
  induction parts with
  | nil => simp [sql]
  | cons t rest ih =>
    rw [sql, List.flatten_cons, within_append, ← sql, ih]
    simp

@[simp] theorem within_sql_nil : Within lo hi (sql []) := by simp [within_sql]

@[simp] theorem within_sql_cons {t : Template} {rest : List Template} :
    Within lo hi (sql (t :: rest)) ↔ Within lo hi t ∧ Within lo hi (sql rest) := by
  simp [within_sql]

theorem within_join {parts : List Template} (separator : String)
    (h : ∀ t ∈ parts, Within lo hi t) : Within lo hi (join separator parts) := by
  induction parts with
  | nil => simp [join]
  | cons t rest ih =>
    have ht := h t List.mem_cons_self
    have hrest := ih fun u hu => h u (List.mem_cons_of_mem _ hu)
    cases rest with
    | nil => simpa [join] using ht
    | cons u rest =>
      rw [join_cons_cons, within_append, within_cons]
      exact ⟨ht, trivial, hrest⟩

theorem Within.mono (h : Within lo hi t) (hlo : lo' ≤ lo) (hhi : hi ≤ hi') : Within lo' hi' t := by
  intro p hp
  have := h p hp
  cases p with
  | text s => trivial
  | slot n => exact ⟨Nat.le_trans hlo this.1, Nat.lt_of_lt_of_le this.2 hhi⟩
  | wide n => exact this

theorem Within.shift (h : Within lo hi t) (k : Nat) : Within (lo + k) (hi + k) (t.shift k) := by
  intro p hp
  obtain ⟨q, hq, rfl⟩ := List.mem_map.1 hp
  have := h q hq
  cases q with
  | text s => trivial
  | slot n => exact ⟨Nat.add_le_add_right this.1 k, Nat.add_lt_add_right this.2 k⟩
  | wide n => exact this.elim

/-! ### Filling -/

variable {f g : Nat → String}

@[simp] theorem fill_nil : fill f [] = "" := rfl

@[simp] theorem fill_cons (p : Piece) (t : Template) : fill f (p :: t) = p.fill f ++ fill f t := by
  simp [fill]

@[simp] theorem fill_append (t u : Template) : fill f (t ++ u) = fill f t ++ fill f u := by
  simp [fill]

@[simp] theorem fill_slot (n : Nat) : fill f (slot n) = f n := by simp [slot]

@[simp] theorem fill_sql_nil : fill f (sql []) = "" := rfl

@[simp] theorem fill_sql_cons (t : Template) (rest : List Template) :
    fill f (sql (t :: rest)) = fill f t ++ fill f (sql rest) := by
  simp [sql]

theorem fill_join (separator : String) (parts : List Template) :
    fill f (join separator parts) = separator.intercalate (parts.map (fill f)) := by
  induction parts with
  | nil => simp [join]
  | cons t rest ih =>
    cases rest with
    | nil => simp [join]
    | cons u rest =>
      rw [join_cons_cons, fill_append, fill_cons, ih]
      simp [String.intercalate_cons_cons, String.append_assoc]

theorem print_eq_fill (t : Template) : t.print = t.fill fun n => "$" ++ toString n := by
  have : Piece.print = Piece.fill fun n => "$" ++ toString n := funext Piece.print_eq_fill
  rw [print, fill, this]

theorem fill_congr (h : Within lo hi t) (hfg : ∀ n, lo ≤ n → n < hi → f n = g n) :
    fill f t = fill g t := by
  have hpieces : t.map (Piece.fill f) = t.map (Piece.fill g) := by
    refine List.map_congr_left fun p hp => ?_
    have := h p hp
    cases p with
    | text s => rfl
    | slot n => exact hfg n this.1 this.2
    | wide n => exact this.elim
  rw [fill, hpieces, ← fill]

theorem fill_shift (h : Within lo hi t) (k : Nat) :
    fill f (t.shift k) = fill (fun n => f (n + k)) t := by
  have hpieces : (t.shift k).map (Piece.fill f) = t.map (Piece.fill fun n => f (n + k)) := by
    rw [Template.shift, List.map_map]
    refine List.map_congr_left fun p hp => ?_
    have := h p hp
    cases p with
    | text s => rfl
    | slot n => rfl
    | wide n => exact this.elim
  rw [fill, hpieces, ← fill]

end Template

namespace Param

/-- The text of parameter `n` of a list, counted from one. -/
def textAt (params : List Param) (n : Nat) : String := ((params[n - 1]?).map render).getD ""

variable {n : Nat} {params more : List Param}

@[simp] theorem textAt_cons_one (p : Param) (params : List Param) :
    textAt (p :: params) 1 = p.render := rfl

theorem textAt_append_left (h1 : 1 ≤ n) (h2 : n < params.length + 1) :
    textAt (params ++ more) n = textAt params n := by
  rw [textAt, List.getElem?_append_left (by omega), ← textAt]

theorem textAt_append_right (h : 1 ≤ n) :
    textAt (params ++ more) (n + params.length) = textAt more n := by
  rw [textAt, List.getElem?_append_right (by omega)]
  have : n + params.length - 1 - params.length = n - 1 := by omega
  rw [this, ← textAt]

end Param

/-- A template that is written on its own has the same text behind the parameters `front` and in
front of the parameters `back`. -/
theorem Template.fill_placed {t : Template} {params : List Param}
    (h : t.Within 1 (params.length + 1)) (front back : List Param) :
    (t.shift front.length).fill (Param.textAt (front ++ (params ++ back))) =
      t.fill (Param.textAt params) := by
  rw [Template.fill_shift h]
  refine Template.fill_congr h fun n h1 h2 => ?_
  rw [Param.textAt_append_right h1, Param.textAt_append_left h1 h2]

namespace Statement

/-- The placeholders number the statement's own parameters. -/
def Scoped (s : Statement) : Prop := s.text.Within 1 (s.params.length + 1)

theorem renderPieces_eq {params : List Param} {t : Template} (whole : String)
    (h : t.Within 1 (params.length + 1)) :
    renderPieces params whole t = .ok (t.fill (Param.textAt params)) := by
  induction t with
  | nil => rfl
  | cons p t ih =>
    obtain ⟨hp, ht⟩ := Template.within_cons.1 h
    have hpiece : renderPiece params whole p = .ok (p.fill (Param.textAt params)) := by
      cases p with
      | text s => rfl
      | slot n =>
        obtain ⟨h1, h2⟩ := hp
        have hlt : n - 1 < params.length := by omega
        simp [renderPiece, Piece.fill, Param.textAt, List.getElem?_eq_getElem hlt]
      | wide n => exact hp.elim
    rw [renderPieces, hpiece, ih ht, Template.fill_cons]
    rfl

/-- **A scoped statement renders.** -/
theorem render_eq {s : Statement} (h : s.Scoped) :
    s.render = .ok (s.text.fill (Param.textAt s.params)) :=
  renderPieces_eq _ h

end Statement

end Sql

end DocStore
