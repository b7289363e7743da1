import IncidentBoard.Proofs.Sql.Normal
import IncidentBoard.Proofs.Sql.Words

/-! The text of an expression is read as the tree that was printed, by every table of strengths that
the parentheses suit. -/
namespace IncidentBoard.Sql

/-- What a table has to say about associative operators, `NOT` and the `AND` of `BETWEEN`. -/
structure Strengths.Orderly (g : Strengths) : Prop where
  op_lt : ∀ op, g.op op < Reading.tightest
  op_ne_not : ∀ op, g.op op ≠ g.not
  test_ne_not : g.test ≠ g.not
  op_unique : ∀ op op', op.associative → g.op op' = g.op op → op' = op
  test_ne_op : ∀ op, op.associative → g.test ≠ g.op op
  and_le_test : g.op .and ≤ g.test

theorem Strengths.Orderly.suffix_ne_not {g : Strengths} (hg : g.Orderly) (f : Suffix) :
    g.suffix f ≠ g.not := by
  cases f with
  | binary op => exact hg.op_ne_not op
  | _ => exact hg.test_ne_not

namespace Expr

/-- How strongly the text of an expression binds. -/
def strength (g : Strengths) : Expr → Nat
  | .binary op _ _ => g.op op
  | .not _ => g.not
  | .inList _ [] negated => g.op (if negated then .eq else .ne)
  | .inList .. | .between .. | .isNull .. | .like .. => g.test
  | _ => Reading.tightest

/-- How strongly the text of an operand binds. -/
def shown (g : Strengths) (e : Expr) (place : Nat) : Nat :=
  if e.precedence < place then Reading.tightest else e.strength g

/-- Whether a right operand of `op` is read as one. -/
def FitsRight (g : Strengths) (op : BinOp) (e : Expr) : Prop :=
  if op.associative then g.op op ≤ e.shown g op.rightPlace else g.op op < e.shown g op.rightPlace

/-- The operands of an expression are read as its operands. -/
def Fits (g : Strengths) : Expr → Prop
  | .binary op left right => g.op op ≤ left.shown g op.leftPlace ∧ right.FitsRight g op
  | .not e => g.not ≤ e.shown g 3
  | .inList _ [] _ => True
  | .inList e _ _ | .isNull e _ => g.test ≤ e.shown g 5
  | .between e low high _ => g.test ≤ e.shown g 5 ∧ g.test < low.shown g 5 ∧ g.test < high.shown g 5
  | .like e pattern _ _ => g.test ≤ e.shown g 5 ∧ g.test < pattern.shown g 5
  | _ => True

/-- Whether an expression is written in the same way in all dialects, without a query. -/
def isPlain : Expr → Bool
  | .bucket .. | .timestamp _ | .inQuery .. => false
  | _ => true

end Expr

namespace Reading

variable {g : Strengths}

theorem length_lt_append_cons (ts : List Token) (t : Token) (rest : List Token) :
    rest.length < (ts ++ t :: rest).length := by
  rw [List.length_append, List.length_cons]
  omega

theorem length_lt_append {ts : List Token} (h : ts ≠ []) (rest : List Token) :
    rest.length < (ts ++ rest).length := by
  have := List.length_pos_iff.2 h
  rw [List.length_append]
  omega

/-- What follows binds less than `s`. -/
structure Below (g : Strengths) (s : Nat) (rest : List Token) : Prop where
  suffix : ∀ f ts, suffix? rest = some (f, ts) → g.suffix f < s
  dot : ∀ ts, rest ≠ .symbol .dot :: ts

theorem Below.mono {s s' : Nat} {rest : List Token} (h : Below g s rest) (hs : s ≤ s') :
    Below g s' rest :=
  ⟨fun f ts hf => Nat.lt_of_lt_of_le (h.suffix f ts hf) hs, h.dot⟩

theorem below_nil (s : Nat) : Below g s [] where
  suffix _ _ h := by cases h
  dot _ h := by cases h

/-- The tokens that end an expression inside another one. -/
def closes : Token → Bool
  | .symbol .rparen | .symbol .comma | .keyword .escape => true
  | .keyword .when' | .keyword .then' | .keyword .else' | .keyword .end' => true
  | _ => false

theorem below_closing {t : Token} (h : closes t) (s : Nat) (ts : List Token) :
    Below g s (t :: ts) where
  suffix f us hf := by
    unfold closes at h
    split at h <;> first | cases hf | cases h
  dot us hd := by
    cases hd
    cases h

@[simp] theorem suffix?_op (op : BinOp) (ts : List Token) :
    suffix? (op.token :: ts) = some (.binary op, ts) := by
  cases op <;> rfl

theorem below_op {s : Nat} (op : BinOp) (ts : List Token) (h : g.op op < s) :
    Below g s (op.token :: ts) where
  suffix f us hf := by
    rw [suffix?_op] at hf
    cases hf
    exact h
  dot us h := by cases op <;> simp [BinOp.token] at h

/-- The words `ts` of strength `s` are read as `t`, whatever may follow them. -/
structure Reads (g : Strengths) (ts : List Token) (s : Nat) (t : Expr) : Prop where
  ne : ts ≠ []
  readFrom : ∀ least rest, least ≤ s → Below g (s + 1) rest →
    readFrom? g least (ts ++ rest) = goOn? g least s t rest

/-- The words `ts` of a right operand of `op`, behind the left operand `x`, make it `t x`. -/
def GoesOn (g : Strengths) (op : BinOp) (ts : List Token) (t : Expr → Expr) : Prop :=
  ∀ least most x rest, least ≤ g.op op → g.op op ≤ most → Below g (g.op op + 1) rest →
    goOn? g least most x (op.token :: (ts ++ rest)) = goOn? g least (g.op op) (t x) rest

theorem goOn?_of_below {least most : Nat} {e : Expr} {rest : List Token} (h : Below g least rest) :
    goOn? g least most e rest = some (e, rest) := by
  rw [goOn?]
  split
  · rfl
  next f ts hf =>
    have := h.suffix f ts hf
    exact if_neg (by omega)

theorem goOn?_of_readSuffix? {least most : Nat} {e e' : Expr} {ts rest rest' : List Token}
    {f : Suffix} (hf : suffix? ts = some (f, rest)) (hl : least ≤ g.suffix f)
    (hm : g.suffix f ≤ most) (hread : readSuffix? g e f rest = some (e', rest'))
    (hlt : rest'.length < ts.length) :
    goOn? g least most e ts = goOn? g least (g.suffix f) e' rest' := by
  rw [goOn?]
  split
  next hnone => rw [hf] at hnone; cases hnone
  next f' ts' hsome =>
    rw [hf] at hsome
    cases hsome
    simp only [if_pos (And.intro hl hm), hread, Option.bind_eq_bind, Option.bind_some, dif_pos hlt]

/-- An expression that nothing goes on with is read to its end. -/
theorem Reads.to_end {ts rest : List Token} {s least : Nat} {t : Expr} (h : Reads g ts s t)
    (hl : least ≤ s) (hr : Below g least rest) :
    readFrom? g least (ts ++ rest) = some (t, rest) := by
  rw [h.readFrom least rest hl (hr.mono (by omega)), goOn?_of_below hr]

theorem readFrom?_of_readOperand? {ts rest : List Token} {least : Nat} {t : Expr}
    (h : readOperand? g ts = some (t, rest)) (hlt : rest.length < ts.length) :
    readFrom? g least ts = goOn? g least tightest t rest := by
  have hne : ∀ us, ts ≠ .keyword .not :: us := by
    rintro us rfl
    simp [readOperand?, readLeaf?] at h
  rw [readFrom?]
  · simp only [h, Option.bind_eq_bind, Option.bind_some, dif_pos hlt]
  · exact hne

theorem reads_of_readOperand? {ts : List Token} {t : Expr} (hne : ts ≠ [])
    (h : ∀ rest, (∀ us, rest ≠ .symbol .dot :: us) → readOperand? g (ts ++ rest) = some (t, rest)) :
    Reads g ts tightest t where
  ne := hne
  readFrom _ rest _ hr := readFrom?_of_readOperand? (h rest hr.dot) (length_lt_append hne rest)

theorem Reads.parens {ts : List Token} {s : Nat} {t : Expr} (h : Reads g ts s t) :
    Reads g (parens ts) tightest t := by
  refine reads_of_readOperand? (List.cons_ne_nil _ _) fun rest _ => ?_
  have hrest : Below g 0 (.symbol .rparen :: rest) := below_closing rfl 0 rest
  have := h.to_end (Nat.zero_le s) hrest
  simp [Sql.parens, readOperand?, this, close?]

/-- A suffix that binds no more than what stands before it takes all of that as its operand. -/
theorem Reads.suffix {ts us : List Token} {s : Nat} {t t' : Expr} (h : Reads g ts s t) (f : Suffix)
    (vs : List Token) (hs : g.suffix f ≤ s)
    (hf : ∀ rest, suffix? (us ++ rest) = some (f, vs ++ rest))
    (hr : ∀ rest, Below g (g.suffix f + 1) rest →
      readSuffix? g t f (vs ++ rest) = some (t', rest)) :
    Reads g (ts ++ us) (g.suffix f) t' := by
  have hus : us ≠ [] := by
    rintro rfl
    have := hf []
    cases this
  refine ⟨List.append_ne_nil_of_left_ne_nil h.ne us, fun least rest hl hrest => ?_⟩
  have hb : Below g (s + 1) (us ++ rest) := by
    refine ⟨fun f' ts' h' => ?_, fun ts' h' => ?_⟩
    · rw [hf] at h'
      cases h'
      omega
    · have := hf rest
      rw [h'] at this
      cases this
  rw [List.append_assoc, h.readFrom least _ (by omega) hb,
    goOn?_of_readSuffix? (hf rest) hl hs (hr rest hrest) (length_lt_append hus rest)]

theorem goesOn_of_reads {op : BinOp} {ts : List Token} {s : Nat} {t : Expr} (h : Reads g ts s t)
    (hs : g.op op < s) :
    GoesOn g op ts fun x => .binary op x t := by
  intro least most x rest hl hm hr
  have hread : readSuffix? g x (.binary op) (ts ++ rest) = some (.binary op x t, rest) := by
    rw [readSuffix?, h.to_end hs hr]
    rfl
  exact goOn?_of_readSuffix? (suffix?_op op _) hl hm hread
    (Nat.lt_succ_of_lt (length_lt_append h.ne rest))

/-- A chain that stands behind its own operator goes on operand by operand. -/
theorem GoesOn.chain {op : BinOp} {ts us : List Token} {t u : Expr → Expr} (ht : GoesOn g op ts t)
    (hu : GoesOn g op us u) : GoesOn g op (ts ++ op.token :: us) fun x => u (t x) := by
  intro least most x rest hl hm hr
  rw [List.append_assoc, List.cons_append,
    ht least most x _ hl hm (below_op op _ (Nat.lt_succ_self _)),
    hu least _ _ rest hl (Nat.le_refl _) hr]

theorem Reads.binary {op : BinOp} {ts us : List Token} {s : Nat} {t : Expr} {u : Expr → Expr}
    (h : Reads g ts s t) (hs : g.op op ≤ s) (hu : GoesOn g op us u) :
    Reads g (ts ++ op.token :: us) (g.op op) (u t) := by
  refine ⟨List.append_ne_nil_of_left_ne_nil h.ne _, fun least rest hl hr => ?_⟩
  rw [List.append_assoc, List.cons_append, h.readFrom least _ (by omega) (below_op op _ (by omega)),
    hu least s t rest hl hs hr]

theorem Reads.not {ts : List Token} {s : Nat} {t : Expr} (hg : g.Orderly) (h : Reads g ts s t)
    (hs : g.not ≤ s) :
    Reads g (.keyword .not :: ts) g.not (.not t) := by
  refine ⟨List.cons_ne_nil _ _, fun least rest hl hr => ?_⟩
  have hrest : Below g g.not rest := ⟨fun f us hf => by
    have := hr.suffix f us hf
    have := hg.suffix_ne_not f
    omega, hr.dot⟩
  have hlt := Nat.lt_succ_of_lt (length_lt_append h.ne rest)
  rw [List.cons_append, readFrom?, if_pos hl, h.to_end hs hrest]
  exact dif_pos hlt

/-! Tests. -/

section Tests

variable {ts us vs : List Token} {s r q : Nat} {t u v : Expr}

theorem Reads.isNull (h : Reads g ts s t) (hs : g.test ≤ s) (negated : Bool) :
    Reads g (ts ++ [.keyword (if negated then .isNotNull else .isNull)]) g.test
      (.isNull t negated) := by
  refine h.suffix (.isNull negated) [] hs (fun rest => ?_) fun rest _ => ?_
  · cases negated <;> rfl
  · rw [readSuffix?]
    rfl

theorem Reads.inList (h : Reads g ts s t) (hs : g.test ≤ s) (negated : Bool) {values : List Expr}
    (hv : ∀ rest, readList? g (us ++ .symbol .rparen :: rest) = some (values, rest)) :
    Reads g (ts ++ (Expr.notWord negated ++ .keyword .in' :: Sql.parens us)) g.test
      (.inList t values negated) := by
  refine h.suffix (.inList negated) (Sql.parens us) hs (fun rest => ?_) fun rest _ => ?_
  · cases negated <;> rfl
  · simp [Sql.parens, readSuffix?, hv]

theorem Reads.between (hg : g.Orderly) (h : Reads g ts s t) (hs : g.test ≤ s) (negated : Bool)
    (hu : Reads g us r u) (hr : g.test < r) (hv : Reads g vs q v) (hq : g.test < q) :
    Reads g (ts ++ (Expr.notWord negated ++ .keyword .between :: (us ++ .keyword .and :: vs)))
      g.test
      (.between t u v negated) := by
  refine h.suffix (.between negated) (us ++ .keyword .and :: vs) hs (fun rest => ?_)
    fun rest hrest => ?_
  · cases negated <;> rfl
  · -- the `AND` binds less than the bound before it
    have hand : Below g (g.test + 1) (.keyword .and :: (vs ++ rest)) :=
      below_op .and (vs ++ rest) (Nat.lt_succ_of_le hg.and_le_test)
    have hlow := hu.to_end hr hand
    have hhigh := hv.to_end hq hrest
    simp only [List.append_assoc, List.cons_append, readSuffix?, hlow, Option.bind_eq_bind,
      Option.bind_some]
    rw [dif_pos (length_lt_append_cons _ _ _), hhigh]
    rfl

theorem Reads.like (h : Reads g ts s t) (hs : g.test ≤ s) (escape : Char) (anyCase : Bool)
    (hu : Reads g us r u) (hr : g.test < r) :
    Reads g (ts ++ Expr.likeToken anyCase ::
      (us ++ [.keyword .escape, .string (String.singleton escape)])) g.test
      (.like t u escape anyCase) := by
  refine h.suffix (.like anyCase) (us ++ [.keyword .escape, .string (String.singleton escape)]) hs
    (fun rest => ?_) fun rest _ => ?_
  · cases anyCase <;> rfl
  · have hescape : Below g (g.test + 1)
        (.keyword .escape :: .string (String.singleton escape) :: rest) :=
      below_closing rfl _ _
    have hpattern := hu.to_end hr hescape
    simp [readSuffix?, hpattern, escape?]

end Tests

/-! Expressions. -/

/-- The words of an expression are read as its text has it, on their own and as the right operand of
any operator that they suit. -/
structure IsRead (g : Strengths) (d : Dialect) (e : Expr) : Prop where
  reads : Reads g (e.words d) (e.strength g) e.reading
  goesOn : ∀ op, e.FitsRight g op → GoesOn g op (e.operandWords d op.rightPlace) fun x =>
    e.readAfter (some (op, x))

section Expressions

variable {d : Dialect} {e : Expr}

theorem Reads.operand (h : Reads g (e.words d) (e.strength g) e.reading) (place : Nat) :
    Reads g (e.operandWords d place) (e.shown g place) e.reading := by
  unfold Expr.operandWords Expr.shown
  split
  · exact h.parens
  · exact h

theorem IsRead.operand (h : IsRead g d e) (place : Nat) :
    Reads g (e.operandWords d place) (e.shown g place) e.reading := h.reads.operand place

theorem IsRead.to_end (h : IsRead g d e) {rest : List Token} (hr : Below g 0 rest) :
    readFrom? g 0 (e.words d ++ rest) = some (e.reading, rest) :=
  h.reads.to_end (Nat.zero_le _) hr

theorem readList?_commas {es : List Expr} (hne : es ≠ []) (h : ∀ e ∈ es, IsRead g d e)
    (rest : List Token) :
    readList? g (commas (es.map (Expr.words d)) ++ .symbol .rparen :: rest) =
      some (es.map Expr.reading, rest) := by
  induction es with
  | nil => exact absurd rfl hne
  | cons e es ih =>
    have he := h e (by simp)
    cases es with
    | nil =>
      have hrest : Below g 0 (.symbol .rparen :: rest) := below_closing rfl 0 rest
      have := he.to_end hrest
      rw [readList?]
      simp [commas, this, close?]
    | cons e' es =>
      have hes := ih (by simp) fun x hx => h x (by simp [hx])
      have hrest : Below g 0 (.symbol .comma ::
          (commas ((e' :: es).map (Expr.words d)) ++ .symbol .rparen :: rest)) :=
        below_closing rfl 0 _
      have := he.to_end hrest
      rw [readList?]
      simp only [List.map_cons] at this hes
      simp only [List.map_cons, commas, List.append_assoc, List.cons_append, this,
        Option.bind_eq_bind, Option.bind_some]
      rw [dif_pos (length_lt_append_cons _ _ _), hes]
      rfl

@[simp] theorem readFrom?_rparen (least : Nat) (ts : List Token) :
    readFrom? g least (.symbol .rparen :: ts) = none := by
  rw [readFrom?] <;> simp [readOperand?, readLeaf?]

@[simp] theorem readFrom?_distinct (least : Nat) (ts : List Token) :
    readFrom? g least (.keyword .distinct :: ts) = none := by
  rw [readFrom?] <;> simp [readOperand?, readLeaf?]

theorem readArguments?_commas {es : List Expr} (h : ∀ e ∈ es, IsRead g d e) (rest : List Token) :
    readArguments? g (commas (es.map (Expr.words d)) ++ .symbol .rparen :: rest) =
      some (es.map Expr.reading, rest) := by
  by_cases hne : es = []
  · subst hne
    rw [readArguments?.eq_def]
    rfl
  have hlist := readList?_commas hne h rest
  generalize commas (es.map (Expr.words d)) ++ .symbol .rparen :: rest = ts at hlist ⊢
  rw [readArguments?]
  · exact hlist
  · rintro us rfl
    rw [readList?, readFrom?_rparen] at hlist
    cases hlist

theorem reads_call (name : String) (distinct : Bool) {args : List Expr}
    (h : ∀ a ∈ args, IsRead g d a) :
    Reads g ((Expr.call name distinct args).words d) tightest
      (.call name distinct (args.map Expr.reading)) := by
  rw [Expr.words_call]
  refine reads_of_readOperand? (List.cons_ne_nil _ _) fun rest _ => ?_
  have hargs := readArguments?_commas h rest
  cases distinct with
  | true => simp [Sql.parens, readOperand?, hargs]
  | false =>
    simp only [Sql.parens, Bool.false_eq_true, if_false, List.nil_append, List.cons_append,
      List.append_assoc]
    generalize commas (args.map (Expr.words d)) ++ .symbol .rparen :: rest = ts at hargs ⊢
    rw [readOperand?]
    · simp [hargs]
    · rintro us rfl
      rw [readArguments?, readList?, readFrom?_distinct] at hargs
      · cases hargs
      · simp

theorem below_branches (branches : List (Expr × Expr)) {rest : List Token} (hr : Below g 0 rest) :
    Below g 0 (branches.flatMap (Expr.branchWords d) ++ rest) := by
  cases branches with
  | nil => exact hr
  | cons b bs => exact below_closing rfl 0 _

theorem readBranches?_words {branches : List (Expr × Expr)}
    (h : ∀ b ∈ branches, IsRead g d b.1 ∧ IsRead g d b.2) {rest : List Token} (hr : Below g 0 rest)
    (hw : ∀ us, rest ≠ .keyword .when' :: us) :
    readBranches? g (branches.flatMap (Expr.branchWords d) ++ rest) =
      some (branches.map fun b => (b.1.reading, b.2.reading), rest) := by
  induction branches with
  | nil =>
    rw [List.flatMap_nil, List.nil_append, readBranches?]
    · rfl
    · exact hw
  | cons b bs ih =>
    have hbs := ih fun b hb => h b (by simp [hb])
    obtain ⟨hcondition, hresult⟩ := h b (by simp)
    have hthen :
        Below g 0 (.keyword .then' :: (b.2.words d ++ (bs.flatMap (Expr.branchWords d) ++ rest))) :=
      below_closing rfl 0 _
    have h₁ := hcondition.to_end hthen
    have h₂ := hresult.to_end (below_branches (d := d) bs hr)
    simp only [Expr.branchWords, List.flatMap_cons, List.cons_append, List.append_assoc,
      readBranches?, h₁, Option.bind_eq_bind, Option.bind_some]
    rw [dif_pos (length_lt_append_cons _ _ _), h₂]
    simp only [Option.bind_some]
    rw [dif_pos (by simp only [List.length_append, List.length_cons]; omega), hbs]
    rfl

theorem reads_case {branches : List (Expr × Expr)} {otherwise : Option Expr}
    (hb : ∀ b ∈ branches, IsRead g d b.1 ∧ IsRead g d b.2) (ho : ∀ e ∈ otherwise, IsRead g d e) :
    Reads g ((Expr.case branches otherwise).words d) tightest
      (.case (branches.map fun b => (b.1.reading, b.2.reading)) (otherwise.map Expr.reading)) := by
  rw [Expr.words_case]
  refine reads_of_readOperand? (List.cons_ne_nil _ _) fun rest _ => ?_
  have hend : Below g 0 (.keyword .end' :: rest) := below_closing rfl 0 rest
  cases otherwise with
  | none =>
    have := readBranches?_words hb hend (by simp)
    simp [readOperand?, this, end?]
  | some e =>
    have he := (ho e rfl).to_end hend
    have helse : Below g 0 (.keyword .else' :: (e.words d ++ .keyword .end' :: rest)) :=
      below_closing rfl 0 _
    have := readBranches?_words hb helse (by simp)
    simp only [Option.elim_some, List.cons_append, List.append_assoc, List.nil_append,
      readOperand?, this, Option.bind_eq_bind, Option.bind_some]
    rw [dif_pos (length_lt_append_cons _ _ _), he]
    rfl

theorem reads_column (table : Option String) (name : String) :
    Reads g ((Expr.column table name).words d) tightest (.column table name) := by
  rw [Expr.words_column]
  refine reads_of_readOperand? (by cases table <;> exact List.cons_ne_nil _ _) fun rest hrest => ?_
  cases table with
  | some t => simp [columnTokens, readOperand?, readLeaf?]
  | none =>
    have hleaf : readLeaf? (.ident name :: rest) = some (.column none name, rest) := by
      unfold readLeaf?
      split <;> simp_all
    simpa [columnTokens, readOperand?] using hleaf

theorem reads_literal (l : Literal) : Reads g ((Expr.literal l).words d) tightest (.literal l) := by
  rw [Expr.words_literal]
  refine reads_of_readOperand? (List.cons_ne_nil _ _) fun rest _ => ?_
  cases l <;> simp [Literal.token, readOperand?, readLeaf?]

theorem reads_param (index : Nat) :
    Reads g ((Expr.param index).words d) tightest (.param index) := by
  rw [Expr.words_param]
  refine reads_of_readOperand? (List.cons_ne_nil _ _) fun rest _ => ?_
  simp [readOperand?, readLeaf?]

theorem reads_emptyList (hg : g.Orderly) (e : Expr) (negated : Bool) :
    Reads g ((Expr.inList e [] negated).words d) (g.op (if negated then .eq else .ne))
      (Expr.emptyList negated) := by
  have one : Reads g [.int 1] tightest (Expr.int 1) := reads_literal (d := d) (.int 1)
  have hlt := hg.op_lt (if negated then .eq else .ne)
  have := one.binary (Nat.le_of_lt hlt) (goesOn_of_reads one hlt)
  rw [Expr.words_emptyList]
  cases negated <;> exact this

/-- The step of the induction, for an expression on its own. -/
theorem reads_of_parts (hg : g.Orderly) (hp : e.isPlain) (hf : e.Fits g)
    (part : ∀ x ∈ e.parts, IsRead g d x) :
    Reads g (e.words d) (e.strength g) e.reading := by
  cases e with
  | column table name => exact reads_column table name
  | literal l => exact reads_literal l
  | param index => exact reads_param index
  | binary op left right =>
    rw [Expr.words_binary]
    exact ((part left (by simp [Expr.parts])).operand _).binary hf.1
      ((part right (by simp [Expr.parts])).goesOn op hf.2)
  | not e =>
    rw [Expr.words_not]
    exact ((part e (by simp [Expr.parts])).operand 3).not hg hf
  | call name distinct args =>
    rw [Expr.reading, Expr.readAfter, Expr.readList_eq]
    exact reads_call name distinct part
  | case branches otherwise =>
    rw [Expr.reading, Expr.case_readAfter_eq]
    have hpart : ∀ b ∈ branches, b.1 ∈ (Expr.case branches otherwise).parts ∧
        b.2 ∈ (Expr.case branches otherwise).parts :=
      fun b hb => ⟨List.mem_append_left _ (List.mem_flatMap.2 ⟨b, hb, by simp⟩),
        List.mem_append_left _ (List.mem_flatMap.2 ⟨b, hb, by simp⟩)⟩
    exact reads_case (fun b hb => ⟨part _ (hpart b hb).1, part _ (hpart b hb).2⟩)
      fun e he => part e (by simpa [Expr.parts] using .inr he)
  | inList e values negated =>
    cases values with
    | nil => exact reads_emptyList hg e negated
    | cons v vs =>
      have hvs : ∀ x ∈ v :: vs, IsRead g d x := fun x hx => part x (List.mem_cons_of_mem e hx)
      rw [Expr.words_inList, Expr.reading, Expr.readAfter, Expr.readList_eq]
      exact ((part e (by simp [Expr.parts])).operand 5).inList hf negated
        (readList?_commas (by simp) hvs)
  | between e low high negated =>
    rw [Expr.words_between]
    obtain ⟨he, hlow, hhigh⟩ := hf
    exact ((part e (by simp [Expr.parts])).operand 5).between hg he negated
      ((part low (by simp [Expr.parts])).operand 5) hlow
        ((part high (by simp [Expr.parts])).operand 5) hhigh
  | isNull e negated =>
    rw [Expr.words_isNull]
    exact ((part e (by simp [Expr.parts])).operand 5).isNull hf negated
  | like e pattern escape anyCase =>
    rw [Expr.words_like]
    exact ((part e (by simp [Expr.parts])).operand 5).like hf.1 escape anyCase
      ((part pattern (by simp [Expr.parts])).operand 5) hf.2
  | paren e =>
    rw [Expr.words_paren]
    exact (part e (by simp [Expr.parts])).reads.parens
  | bucket | timestamp | inQuery => cases hp

/-- Only a chain binds as strongly as an associative operator. -/
theorem exists_of_strength_eq (hg : g.Orderly) {op : BinOp} (ha : op.associative)
    (h : e.strength g = g.op op) :
    ∃ l r, e = .binary op l r := by
  cases e with
  | binary op' l r =>
    obtain rfl := hg.op_unique op op' ha h
    exact ⟨l, r, rfl⟩
  | inList e values negated =>
    cases values with
    | nil =>
      obtain rfl := hg.op_unique op _ ha h
      cases negated <;> cases ha
    | cons v vs => exact absurd h (hg.test_ne_op op ha)
  | not e => exact absurd h.symm (hg.op_ne_not op)
  | between | isNull | like => exact absurd h (hg.test_ne_op op ha)
  | _ => exact absurd h (Nat.ne_of_gt (hg.op_lt op))

theorem rightPlace_of_associative {op : BinOp} (h : op.associative) :
    op.rightPlace = op.leftPlace := if_pos h

theorem leftPlace_le_precedence (op : BinOp) (l r : Expr) :
    op.leftPlace ≤ (Expr.binary op l r).precedence :=
  Nat.le_refl _

theorem shown_chain {op : BinOp} (ha : op.associative) (l r : Expr) :
    (Expr.binary op l r).shown g op.rightPlace = g.op op := by
  rw [rightPlace_of_associative ha]
  exact if_neg (Nat.not_lt.2 (leftPlace_le_precedence op l r))

/-- A right operand binds more than its operator, or it is a chain of the same operator without
parentheses. -/
theorem fitsRight_iff (hg : g.Orderly) {op : BinOp} : e.FitsRight g op ↔
    g.op op < e.shown g op.rightPlace ∨ op.associative ∧ ∃ l r, e = .binary op l r := by
  unfold Expr.FitsRight
  by_cases ha : op.associative
  · rw [if_pos ha, Nat.le_iff_lt_or_eq]
    refine or_congr_right ⟨fun h => ⟨ha, ?_⟩, ?_⟩
    · have htight := hg.op_lt op
      unfold Expr.shown at h
      split at h
      · exact absurd h (Nat.ne_of_lt htight)
      · exact exists_of_strength_eq hg ha h.symm
    · rintro ⟨-, l, r, rfl⟩
      exact (shown_chain ha l r).symm
  · simp [ha]

/-- The step of the induction, for a right operand. -/
theorem goesOn_of_parts (hg : g.Orderly) (hf : e.Fits g)
    (hreads : Reads g (e.words d) (e.strength g) e.reading) (part : ∀ x ∈ e.parts, IsRead g d x)
    (op : BinOp) (hright : e.FitsRight g op) :
    GoesOn g op (e.operandWords d op.rightPlace) fun x => e.readAfter (some (op, x)) := by
  rcases (fitsRight_iff hg).1 hright with hlt | ⟨ha, l, r, rfl⟩
  · have hchain : ∀ l r, e = .binary op l r → ¬ op.associative := by
      rintro l r rfl ha
      rw [shown_chain ha] at hlt
      exact Nat.lt_irrefl _ hlt
    simp only [Expr.readAfter_some hchain]
    exact goesOn_of_reads (hreads.operand _) hlt
  · have hl : l.FitsRight g op := by
      rw [Expr.FitsRight, if_pos ha, rightPlace_of_associative ha]
      exact hf.1
    have hleft := (part l (by simp [Expr.parts])).goesOn op hl
    have hright := (part r (by simp [Expr.parts])).goesOn op hf.2
    rw [rightPlace_of_associative ha] at hleft ⊢
    have hread : ∀ x, Expr.readAfter (some (op, x)) (.binary op l r) =
        r.readAfter (some (op, l.readAfter (some (op, x)))) := fun x => by
      rw [Expr.readAfter, if_pos (by simp [Expr.chains, ha])]
    simp only [hread]
    rw [Expr.operandWords_of_le (leftPlace_le_precedence op l r), Expr.words_binary]
    exact hleft.chain hright

theorem isRead_of_fits (hg : g.Orderly) (hp : e.All (·.isPlain)) (hf : e.All (Expr.Fits g)) :
    IsRead g d e := by
  induction e using Expr.parts_induct with
  | step e ih =>
    have part : ∀ x ∈ e.parts, IsRead g d x := fun x hx => ih x hx (hp.part hx) (hf.part hx)
    have hreads := reads_of_parts hg hp.self hf.self part
    exact ⟨hreads, goesOn_of_parts hg hf.self hreads part⟩

theorem read?_of_reads {s : Nat} {t : Expr} (h : Reads g (e.words d) s t) :
    read? g (e.tokens d) = some t := by
  have := h.to_end (Nat.zero_le s) (below_nil 0)
  rw [List.append_nil] at this
  rw [read?, Expr.bare_tokens, this]

theorem read?_tokens (hg : g.Orderly) (hp : e.All (·.isPlain)) (hf : e.All (Expr.Fits g)) :
    read? g (e.tokens d) = some e.reading :=
  read?_of_reads (isRead_of_fits hg hp hf).reads

section Regrouping

variable {a b c : Expr} {op op' : BinOp}

/-- `(a op b) op' c` without the parentheses is `a op (b op' c)` to a table where `op'` binds
more. -/
theorem read?_left_regrouped (ha : IsRead g d a) (hb : IsRead g d b) (hc : IsRead g d c)
    (hplace : op'.leftPlace ≤ (Expr.binary op a b).precedence) (hlt : g.op op < g.op op')
    (hfa : g.op op ≤ a.shown g op.leftPlace) (hfb : g.op op' ≤ b.shown g op.rightPlace)
    (hfc : c.FitsRight g op') :
    read? g ((Expr.binary op' (.binary op a b) c).tokens d) =
      some (.binary op a.reading (c.readAfter (some (op', b.reading)))) := by
  have hright := (hb.operand op.rightPlace).binary hfb (hc.goesOn op' hfc)
  have h := (ha.operand op.leftPlace).binary hfa (goesOn_of_reads hright hlt)
  refine read?_of_reads (s := g.op op) ?_
  rw [Expr.words_binary, Expr.operandWords_of_le hplace, Expr.words_binary, List.append_assoc]
  exact h

end Regrouping

end Expressions

end Reading

end IncidentBoard.Sql
