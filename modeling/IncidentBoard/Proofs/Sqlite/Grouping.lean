import IncidentBoard.Proofs.Sql.Readback

/-! Which trees SQLite reads as they were built. The parentheses are set by a table in which `||`
binds less than arithmetic and all comparisons bind alike; to SQLite `||` binds most, and `<` more
than `=`. -/
namespace IncidentBoard.Sql.Sqlite

/-- How strongly SQLite's operators bind. -/
def opStrength : BinOp → Nat
  | .or => 1
  | .and => 2
  | .eq | .ne => 4
  | .lt | .gt | .le | .ge => 5
  | .plus | .minus => 6
  | .times | .divide => 7
  | .concat => 8

def strengths : Strengths := ⟨opStrength, 3, 4⟩

theorem orderly_strengths : strengths.Orderly where
  op_lt op := by cases op <;> decide
  op_ne_not op := by cases op <;> decide
  test_ne_not := by decide
  op_unique op op' := by cases op <;> cases op' <;> decide
  test_ne_op op := by cases op <;> decide
  and_le_test := by decide

def ordering : List BinOp := [.lt, .gt, .le, .ge]

def arithmetic : List BinOp := [.plus, .minus, .times, .divide]

def equality : List BinOp := [.eq, .ne]

def isArithmetic : Expr → Bool
  | .binary op _ _ => op ∈ arithmetic
  | _ => false

/-- What binds as `=` does. -/
def isEquality : Expr → Bool
  | .binary op _ _ => op ∈ equality
  | .inList .. | .between .. | .isNull .. | .like .. => true
  | _ => false

/-- Nothing stands without parentheses beside an operator that would take a part of it. -/
def Aligned : Expr → Prop
  | .binary op left right =>
    (op = .concat → isArithmetic left = false ∧ isArithmetic right = false) ∧
      (op ∈ ordering → isEquality left = false)
  | _ => True

section Fits

variable {e : Expr}

theorem strength_cases (e : Expr) : (∃ op left right, e = .binary op left right) ∨
    e.strength strengths = Reading.tightest ∨
    e.strength strengths = e.precedence ∧ e.precedence ≤ 4 ∧ (e.precedence = 4 → isEquality e) := by
  cases e with
  | binary op left right => exact .inl ⟨op, left, right, rfl⟩
  | not e => exact .inr (.inr ⟨rfl, Nat.le_succ 3, fun h => absurd h (Nat.succ_ne_self 3).symm⟩)
  | inList e values negated =>
    cases values <;> cases negated <;> exact .inr (.inr ⟨rfl, Nat.le_refl 4, fun _ => rfl⟩)
  | between | isNull | like => exact .inr (.inr ⟨rfl, Nat.le_refl 4, fun _ => rfl⟩)
  | _ => exact .inr (.inl rfl)

/-- How strongly an operand binds follows from its place, with exceptions where the two tables
differ. -/
theorem le_shown {place k : Nat} (hk : k ≤ Reading.tightest)
    (hop : ∀ op left right, e = .binary op left right → place ≤ op.precedence → k ≤ opStrength op)
    (hother : k ≤ place ∨ 5 ≤ place ∨ place = 4 ∧ isEquality e = false) :
    k ≤ e.shown strengths place := by
  unfold Expr.shown
  split
  · exact hk
  next h =>
    obtain ⟨op, left, right, rfl⟩ | he | ⟨he, hle, heq⟩ := strength_cases e
    · exact hop op left right rfl (Nat.not_lt.1 h)
    · exact he ▸ hk
    · rw [he]
      rcases hother with hother | hother | ⟨rfl, hother⟩
      · omega
      · omega
      · rw [heq (by omega)] at hother
        cases hother

/-- A bound or a pattern, and the right operand of a comparison. -/
theorem six_le_shown (e : Expr) : 6 ≤ e.shown strengths 5 :=
  le_shown (by decide) (fun op _ _ _ => by cases op <;> decide) (.inr (.inl (Nat.le_refl 5)))

/-- What the two tables agree on. -/
theorem opStrength_le {op op' : BinOp} (h : op.precedence ≤ op'.precedence)
    (hc : op = .concat → op' ∉ arithmetic) (ho : op ∈ ordering → op' ∉ equality) :
    opStrength op ≤ opStrength op' := by
  revert h hc ho
  cases op <;> cases op' <;> decide

theorem opStrength_lt {op op' : BinOp} (h : op.precedence < op'.precedence)
    (hc : op = .concat → op' ∉ arithmetic) :
    opStrength op < opStrength op' := by
  revert h hc
  cases op <;> cases op' <;> decide

theorem le_shown_left {op : BinOp} (hconcat : op = .concat → isArithmetic e = false)
    (hordering : op ∈ ordering → isEquality e = false) :
    opStrength op ≤ e.shown strengths op.leftPlace := by
  refine le_shown (by cases op <;> decide) ?_ ?_
  · rintro op' l r rfl hplace
    exact opStrength_le hplace (fun ho => of_decide_eq_false (hconcat ho)) fun ho =>
      of_decide_eq_false (hordering ho)
  · have hplace : op ∈ ordering ∧ op.leftPlace = 4 ∨ opStrength op ≤ op.leftPlace ∨
        5 ≤ op.leftPlace := by
      cases op <;> decide
    rcases hplace with ⟨ho, hplace⟩ | hle | hle
    · exact .inr (.inr ⟨hplace, hordering ho⟩)
    · exact .inl hle
    · exact .inr (.inl hle)

theorem fitsRight {op : BinOp} (hconcat : op = .concat → isArithmetic e = false) :
    e.FitsRight strengths op := by
  have harith : ∀ op' l r, e = .binary op' l r → op = .concat → op' ∉ arithmetic := by
    rintro op' l r rfl ho
    exact of_decide_eq_false (hconcat ho)
  have hplace :
      if op.associative then op ∉ ordering ∧ (opStrength op ≤ op.precedence ∨ 5 ≤ op.precedence)
      else opStrength op ≤ op.precedence ∨ 4 ≤ op.precedence := by
    cases op <;> decide
  unfold Expr.FitsRight BinOp.rightPlace
  split at hplace
  next ha =>
    rw [if_pos ha, if_pos ha]
    refine le_shown (by cases op <;> decide) (fun op' l r he hle => ?_) (hplace.2.imp id .inl)
    exact opStrength_le hle (harith op' l r he) fun ho => absurd ho hplace.1
  next ha =>
    rw [if_neg ha, if_neg ha]
    refine le_shown (k := opStrength op + 1) (by cases op <;> decide) (fun op' l r he hle => ?_)
      (hplace.imp Nat.succ_le_succ fun h => .inl (Nat.succ_le_succ h))
    exact opStrength_lt hle (harith op' l r he)

theorem fits_of_aligned (h : Aligned e) : e.Fits strengths := by
  have four : ∀ x : Expr, 4 < x.shown strengths 5 :=
    fun x => Nat.lt_of_lt_of_le (by decide) (six_le_shown x)
  cases e with
  | binary op left right =>
    exact ⟨le_shown_left (fun ho => (h.1 ho).1) h.2, fitsRight fun ho => (h.1 ho).2⟩
  | not e =>
    exact le_shown (by decide) (fun op _ _ _ => by cases op <;> decide) (.inl (Nat.le_refl 3))
  | inList e values negated =>
    cases values with
    | nil => trivial
    | cons => exact Nat.le_of_lt (four e)
  | isNull e negated => exact Nat.le_of_lt (four e)
  | between e low high negated => exact ⟨Nat.le_of_lt (four e), four low, four high⟩
  | like e pattern => exact ⟨Nat.le_of_lt (four e), four pattern⟩
  | _ => trivial

end Fits

/-- Where nothing is misaligned SQLite reads the text as the tree it was printed from, up to
parentheses, the grouping of chains of `AND`, `OR` and `||`, and the comparison that stands for an
empty list. -/
theorem map_normal_read?_tokens_of_aligned {e : Expr} (he : e.All (·.isPlain))
    (ha : e.All Aligned) :
    (Reading.read? strengths (e.tokens .sqlite)).map Expr.normal = some e.normal := by
  have hf : e.All (Expr.Fits strengths) := fun n hn => fits_of_aligned (ha n hn)
  rw [Reading.read?_tokens orderly_strengths he hf, Option.map_some, Expr.normal_reading]

/-- `(a < b) = c AND (d + e) || f NOT BETWEEN 1 AND 2` -/
def wellRead : Expr :=
  .and (.eq (.binary .lt (.col "a") (.col "b")) (.col "c"))
    (.between (.binary .concat (.paren (.binary .plus (.col "d") (.col "e"))) (.col "f"))
      (.int 1) (.int 2) true)

theorem map_normal_read?_tokens_wellRead : (wellRead.All (·.isPlain) ∧ wellRead.All Aligned) ∧
    (Reading.read? strengths (wellRead.tokens .sqlite)).map Expr.normal = some wellRead.normal := by
  have plain : wellRead.All (·.isPlain) := by
    simp [wellRead, Expr.and, Expr.eq, Expr.col, Expr.int, Expr.isPlain]
  have allAligned : wellRead.All Aligned := by
    simp [wellRead, Expr.and, Expr.eq, Expr.col, Expr.int, Aligned, isArithmetic, isEquality,
      ordering, arithmetic, equality]
  exact ⟨⟨plain, allAligned⟩, map_normal_read?_tokens_of_aligned plain allAligned⟩

section Misread

open Reading (IsRead)

variable {a b c : Expr} {op op' : BinOp} {d : Dialect}

/-- `(a = b) < c` is read as `a = (b < c)`. -/
theorem read?_ordering_of_equality (hop : op ∈ equality) (hop' : op' ∈ ordering)
    (ha : IsRead strengths d a) (hb : IsRead strengths d b) (hc : IsRead strengths d c) :
    Reading.read? strengths ((Expr.binary op' (.binary op a b) c).tokens d) =
      some (.binary op a.reading (.binary op' b.reading c.reading)) := by
  obtain ⟨hconcat, hnot, hright⟩ : op ≠ .concat ∧ op ∉ ordering ∧ op.rightPlace = 5 := by
    revert hop
    cases op <;> decide
  obtain ⟨hconcat', hassoc, hle⟩ : op' ≠ .concat ∧ ¬ op'.associative ∧ opStrength op' ≤ 6 := by
    revert hop'
    cases op' <;> decide
  obtain ⟨hplace, hlt⟩ : op'.leftPlace ≤ op.precedence ∧ opStrength op < opStrength op' := by
    revert hop hop'
    cases op <;> cases op' <;> decide
  have hfb : opStrength op' ≤ b.shown strengths op.rightPlace :=
    hright ▸ Nat.le_trans hle (six_le_shown b)
  rw [Reading.read?_left_regrouped ha hb hc hplace hlt
      (le_shown_left (fun h => absurd h hconcat) fun h => absurd h hnot) hfb
      (fitsRight fun h => absurd h hconcat'),
    Expr.readAfter_some fun _ _ _ => hassoc]

theorem isRead_col (name : String) : IsRead strengths d (.col name) :=
  Reading.isRead_of_fits orderly_strengths (by simp [Expr.col, Expr.isPlain])
    (by simp [Expr.col, Expr.Fits])

/-- `(a = b) < c`, which is written `"a" = "b" < "c"`. -/
def misread : Expr := .binary .lt (.eq (.col "a") (.col "b")) (.col "c")

theorem map_normal_read?_tokens_misread : misread.All (·.isPlain) ∧
    (Reading.read? strengths (misread.tokens .sqlite)).map Expr.normal =
      some (.eq (.col "a") (.binary .lt (.col "b") (.col "c"))) ∧
    (Reading.read? strengths (misread.tokens .sqlite)).map Expr.normal ≠ some misread.normal := by
  have plain : misread.All (·.isPlain) := by
    simp [misread, Expr.eq, Expr.col, Expr.isPlain]
  have hread : (Reading.read? strengths (misread.tokens .sqlite)).map Expr.normal =
      some (.eq (.col "a") (.binary .lt (.col "b") (.col "c"))) := by
    have heq : BinOp.eq ∈ equality := by decide
    have hlt : BinOp.lt ∈ ordering := by decide
    have h :=
      read?_ordering_of_equality (d := .sqlite) heq hlt (isRead_col "a") (isRead_col "b")
        (isRead_col "c")
    exact congrArg (Option.map Expr.normal) h
  refine ⟨plain, hread, fun h => ?_⟩
  rw [hread] at h
  cases h

end Misread

end IncidentBoard.Sql.Sqlite
