import IncidentBoard.Proofs.Sql.Nodes

/-! What the text of an expression keeps of its tree. -/
namespace IncidentBoard.Sql

namespace Expr

/-- `a op b`, where the operands of a chain of `op` in `b` follow `a` one by one. -/
def chain (op : BinOp) (a : Expr) : Expr → Expr
  | .binary op' b c =>
      if op' = op then .binary op (chain op a b) c else .binary op a (.binary op' b c)
  | b => .binary op a b

theorem chain_chain (op : BinOp) (a b c : Expr) :
    chain op (chain op a b) c = chain op a (chain op b c) := by
  induction c using parts_induct with
  | step c ih =>
    cases c with
    | binary op' c₁ c₂ =>
      by_cases h : op' = op
      · subst h
        simp only [chain, if_true, ih c₁ (by simp [parts])]
      · simp [chain, h]
    | _ => simp [chain]

/-- `a op b` with chains of associative operators put together from the left. -/
def join (op : BinOp) (a b : Expr) : Expr := if op.associative then chain op a b else .binary op a b

theorem join_join {op : BinOp} (h : op.associative) (a b c : Expr) :
    join op (join op a b) c = join op a (join op b c) := by
  simp only [join, if_pos h, chain_chain]

/-- `1 <> 1`, or `1 = 1`: nothing is in the empty list. -/
def emptyList (negated : Bool) : Expr := .binary (if negated then .eq else .ne) (int 1) (int 1)

mutual

/-- The tree of an expression, in which parentheses are gone, chains of `AND`, `OR` and `||` hang to
the left and the empty list is the comparison that stands for it. -/
def normal : Expr → Expr
  | .binary op left right => join op left.normal right.normal
  | .not e => .not e.normal
  | .call name distinct args => .call name distinct (normalList args)
  | .case branches none => .case (normalBranches branches) none
  | .case branches (some e) => .case (normalBranches branches) (some e.normal)
  | .inList _ [] negated => emptyList negated
  | .inList e (v :: vs) negated => .inList e.normal (v.normal :: normalList vs) negated
  | .inQuery e query negated => .inQuery e.normal query negated
  | .between e low high negated => .between e.normal low.normal high.normal negated
  | .isNull e negated => .isNull e.normal negated
  | .like e pattern escape anyCase => .like e.normal pattern.normal escape anyCase
  | .paren e => e.normal
  | .bucket e b => .bucket e.normal b
  | .timestamp e => .timestamp e.normal
  | e => e

def normalList : List Expr → List Expr
  | [] => []
  | e :: es => e.normal :: normalList es

def normalBranches : List (Expr × Expr) → List (Expr × Expr)
  | [] => []
  | (condition, result) :: rest => (condition.normal, result.normal) :: normalBranches rest

end

/-- An expression after an operator and its left operand, if there are any. -/
def after : Option (BinOp × Expr) → Expr → Expr
  | none, e => e
  | some (op, x), e => .binary op x e

/-- Whether an operand of `op` follows the operator `op` itself, so that the two are one chain. -/
def chains (op : BinOp) : Option (BinOp × Expr) → Bool
  | none => false
  | some (op', _) => op' = op ∧ op.associative

mutual

/-- The tree that the text of an expression has, read from left to right after `before`. -/
def readAfter (before : Option (BinOp × Expr)) : Expr → Expr
  | .binary op left right =>
    if chains op before then readAfter (some (op, readAfter before left)) right
    else after before (readAfter (some (op, readAfter none left)) right)
  | .not e => after before (.not (readAfter none e))
  | .call name distinct args => after before (.call name distinct (readList args))
  | .case branches none => after before (.case (readBranches branches) none)
  | .case branches (some e) =>
      after before (.case (readBranches branches) (some (readAfter none e)))
  | .inList _ [] negated => after before (emptyList negated)
  | .inList e (v :: vs) negated =>
    after before (.inList (readAfter none e) (readAfter none v :: readList vs) negated)
  | .inQuery e query negated => after before (.inQuery (readAfter none e) query negated)
  | .between e low high negated =>
    after before (.between (readAfter none e) (readAfter none low) (readAfter none high) negated)
  | .isNull e negated => after before (.isNull (readAfter none e) negated)
  | .like e pattern escape anyCase =>
    after before (.like (readAfter none e) (readAfter none pattern) escape anyCase)
  | .paren e => after before (readAfter none e)
  | .bucket e b => after before (.bucket (readAfter none e) b)
  | .timestamp e => after before (.timestamp (readAfter none e))
  | e => after before e

def readList : List Expr → List Expr
  | [] => []
  | e :: es => readAfter none e :: readList es

def readBranches : List (Expr × Expr) → List (Expr × Expr)
  | [] => []
  | (condition, result) :: rest =>
      (readAfter none condition, readAfter none result) :: readBranches rest

end

/-- The tree that the text of an expression has. -/
def reading (e : Expr) : Expr := readAfter none e

@[simp] theorem normalList_eq (es : List Expr) : normalList es = es.map normal := by
  induction es with
  | nil => rfl
  | cons e es ih => rw [normalList, ih, List.map_cons]

@[simp] theorem normalBranches_eq (branches : List (Expr × Expr)) :
    normalBranches branches = branches.map fun b => (b.1.normal, b.2.normal) := by
  induction branches with
  | nil => rfl
  | cons b rest ih => rw [normalBranches, ih, List.map_cons]

@[simp] theorem readList_eq (es : List Expr) : readList es = es.map reading := by
  induction es with
  | nil => rfl
  | cons e es ih => rw [readList, ih, List.map_cons, reading]

@[simp] theorem readBranches_eq (branches : List (Expr × Expr)) :
    readBranches branches = branches.map fun b => (b.1.reading, b.2.reading) := by
  induction branches with
  | nil => rfl
  | cons b rest ih => rw [readBranches, ih, List.map_cons, reading, reading]

theorem case_normal_eq (branches : List (Expr × Expr)) (otherwise : Option Expr) :
    (Expr.case branches otherwise).normal =
      .case (branches.map fun b => (b.1.normal, b.2.normal)) (otherwise.map normal) := by
  cases otherwise <;> simp [normal]

theorem case_readAfter_eq (before : Option (BinOp × Expr)) (branches : List (Expr × Expr))
    (otherwise : Option Expr) :
    readAfter before (.case branches otherwise) =
      after before (.case (branches.map fun b => (b.1.reading, b.2.reading))
        (otherwise.map reading)) := by
  cases otherwise <;> simp [readAfter, reading]

/-- Only an operand that continues a chain is read otherwise than on its own. -/
theorem readAfter_some {op : BinOp} {e : Expr} (h : ∀ l r, e = .binary op l r → ¬ op.associative)
    (x : Expr) :
    readAfter (some (op, x)) e = .binary op x e.reading := by
  cases e with
  | binary op' l r =>
    have : chains op' (some (op, x)) = false := by
      simp only [chains, decide_eq_false_iff_not, not_and]
      rintro rfl
      exact h l r rfl
    rw [reading, readAfter, readAfter, this]
    rfl
  | case branches otherwise => rw [reading, case_readAfter_eq, case_readAfter_eq]; rfl
  | inList e values => cases values <;> simp [readAfter, reading, after]
  | _ => simp [readAfter, reading, after]

/-- The normal form of `after`. -/
def joinAfter : Option (BinOp × Expr) → Expr → Expr
  | none, e => e
  | some (op, x), e => join op x.normal e

theorem normal_after (before : Option (BinOp × Expr)) (e : Expr) :
    (after before e).normal = joinAfter before e.normal := by
  cases before <;> simp [after, joinAfter, normal]

theorem normal_emptyList (negated : Bool) : (emptyList negated).normal = emptyList negated := by
  cases negated <;> rfl

theorem normal_readAfter (e : Expr) (before : Option (BinOp × Expr)) :
    (readAfter before e).normal = joinAfter before e.normal := by
  induction e using parts_induct generalizing before with
  | step e ih =>
    have part : ∀ x ∈ e.parts, x.reading.normal = x.normal := fun x hx => ih x hx none
    cases e with
    | column | literal | param => simp [readAfter, normal_after]
    | binary op left right =>
      have hl := ih left (by simp [parts])
      have hr := ih right (by simp [parts])
      rw [readAfter]
      split
      next hc =>
        -- the chain before the left operand goes on behind it
        obtain _ | ⟨op', x⟩ := before
        · simp [chains] at hc
        obtain ⟨rfl, ha⟩ : op' = op ∧ op.associative := by simpa [chains] using hc
        rw [hr, joinAfter, hl, joinAfter, join_join ha, joinAfter, normal]
      next => rw [normal_after, hr, joinAfter, hl, joinAfter, normal]
    | call name distinct args =>
      have : args.map (normal ∘ reading) = args.map normal := List.map_congr_left part
      simp [readAfter, normal_after, normal, this]
    | case branches otherwise =>
      have hpart (b) (hb : b ∈ branches) (x) (hx : x ∈ [b.1, b.2]) :
          x ∈ (case branches otherwise).parts :=
        List.mem_append_left _ (List.mem_flatMap.2 ⟨b, hb, hx⟩)
      have hb : ∀ b ∈ branches, b.1.reading.normal = b.1.normal ∧ b.2.reading.normal = b.2.normal :=
        fun b hb => ⟨part _ (hpart b hb _ (by simp)), part _ (hpart b hb _ (by simp))⟩
      have ho : otherwise.map (normal ∘ reading) = otherwise.map normal :=
        Option.map_congr fun x hx => part x (by simp [parts, hx])
      rw [case_readAfter_eq, normal_after, case_normal_eq, case_normal_eq, List.map_map,
        Option.map_map, ho]
      congr 2
      exact List.map_congr_left fun b h => Prod.ext (hb b h).1 (hb b h).2
    | inList e values negated =>
      cases values with
      | nil => rw [readAfter, normal_after, normal_emptyList, normal]
      | cons v vs =>
        have : vs.map (normal ∘ reading) = vs.map normal :=
          List.map_congr_left fun x hx => part x (by simp [parts, hx])
        have he := part e (by simp [parts])
        have hv := part v (by simp [parts])
        rw [reading] at he hv
        simp [readAfter, normal_after, normal, this, he, hv]
    | between | like | not | paren | isNull | bucket | timestamp | inQuery =>
      simp only [parts, List.forall_mem_cons, reading] at part
      simp [readAfter, normal_after, normal, part]

theorem normal_reading (e : Expr) : e.reading.normal = e.normal := normal_readAfter e none

end Expr

end IncidentBoard.Sql
