import IncidentBoard.Proofs.Plan.Nodes
import IncidentBoard.Proofs.Plan.Text
import IncidentBoard.Proofs.Sql.Frame

/-! The words of a plan's text. Nothing that a definition says reaches them but aliases and the
limit. -/
namespace IncidentBoard.Plan

open Sql Widget Schema Access

/-- The registered tables and columns, and the link table with its two columns. -/
def storedNames : List String :=
  tables.map (·.name) ++ columns.map (·.name) ++ [linkTable, linkRowColumn, linkCaseColumn]

def literalWords : List Token := [.int 0, .int 1, .float 100.0, .string "\\"]

/-- The literals and functions of outputs and conditions. -/
def fixedWords (d : Dialect) : List Token :=
  aggregateFunctions.map Token.function ++ literalWords ++ d.timeWords

/-- Literals, functions and names are from fixed lists; of a plan's own there are its aliases and
the numbers of its parameters. -/
inductive Vocabulary (d : Dialect) (labels : List String) : Token → Prop
  | keyword (k : Keyword) : Vocabulary d labels (.keyword k)
  | symbol (s : Symbol) : Vocabulary d labels (.symbol s)
  | space : Vocabulary d labels .space
  | newline : Vocabulary d labels .newline
  | indent : Vocabulary d labels (.indent 1)
  | likeAnyCase : Vocabulary d labels .likeAnyCase
  | param (index : Nat) : Vocabulary d labels (.param index)
  | stored {name : String} (h : name ∈ storedNames) : Vocabulary d labels (.ident name)
  | label {name : String} (h : name ∈ labels) : Vocabulary d labels (.ident name)
  | fixed {t : Token} (h : t ∈ fixedWords d) : Vocabulary d labels t

attribute [simp] Vocabulary.keyword Vocabulary.symbol Vocabulary.space Vocabulary.newline
  Vocabulary.indent
  Vocabulary.likeAnyCase Vocabulary.param

/-- The whole text is letters, digits and underscores of ASCII, and does not start with a digit. -/
def IsPlainName (s : String) : Prop := ∃ c cs, s.toList = c :: cs ∧
  ('a' ≤ c ∧ c ≤ 'z' ∨ 'A' ≤ c ∧ c ≤ 'Z' ∨ c = '_') ∧
  ∀ x ∈ cs, 'a' ≤ x ∧ x ≤ 'z' ∨ 'A' ≤ x ∧ x ≤ 'Z' ∨ '0' ≤ x ∧ x ≤ '9' ∨ x = '_'

theorem isAlpha_iff {c : Char} : c.isAlpha ↔ 'a' ≤ c ∧ c ≤ 'z' ∨ 'A' ≤ c ∧ c ≤ 'Z' := by
  have hupper : c.isUpper = decide ('A' ≤ c ∧ c ≤ 'Z') := rfl
  have hlower : c.isLower = (decide ('a' ≤ c) && decide (c ≤ 'z')) := rfl
  show (c.isUpper || c.isLower) = true ↔ _
  rw [hupper, hlower]
  simp only [Bool.or_eq_true, Bool.and_eq_true, decide_eq_true_eq]
  exact or_comm

theorem isAlphanum_iff {c : Char} :
    c.isAlphanum ↔ 'a' ≤ c ∧ c ≤ 'z' ∨ 'A' ≤ c ∧ c ≤ 'Z' ∨ '0' ≤ c ∧ c ≤ '9' := by
  have hdigit : c.isDigit = (decide ('0' ≤ c) && decide (c ≤ '9')) := rfl
  show (c.isAlpha || c.isDigit) = true ↔ _
  rw [Bool.or_eq_true, isAlpha_iff, hdigit, or_assoc]
  simp only [Bool.and_eq_true, decide_eq_true_eq]

theorem isPlainName_of_isAlias {s : String} (h : isAlias s) : IsPlainName s := by
  unfold isAlias at h
  split at h
  · contradiction
  · next c cs hs =>
    simp only [Bool.and_eq_true, Bool.or_eq_true, List.all_eq_true, beq_iff_eq, isAlpha_iff,
      isAlphanum_iff, or_assoc] at h
    exact ⟨c, cs, hs, h⟩

section Frames

variable {d : Dialect} {labels : List String}

theorem mem_storedNames_of_mem_storedColumns :
    ∀ c ∈ storedColumns, c.1 ∈ storedNames ∧ c.2 ∈ storedNames := by
  decide

theorem mem_storedNames_of_mem_joinSteps : ∀ j ∈ joinSteps, j.table ∈ storedNames := by
  decide

theorem vocabulary_layout : ∀ t ∈ layout, Vocabulary d labels t := by
  simp [layout]

theorem vocabulary_qualified {table name : String} (h : (table, name) ∈ storedColumns) :
    ∀ t ∈ (Expr.qualified table name).frame d, Vocabulary d labels t := by
  obtain ⟨ht, hn⟩ := mem_storedNames_of_mem_storedColumns _ h
  simp [Expr.qualified, Expr.frame, columnTokens, Vocabulary.stored ht, Vocabulary.stored hn]

theorem vocabulary_negation (negated : Bool) : ∀ t ∈ negation negated, Vocabulary d labels t := by
  cases negated <;> simp [negation]

theorem vocabulary_op (op : BinOp) : Vocabulary d labels op.token := by
  cases op <;> simp [BinOp.token]

theorem vocabulary_timeWords : ∀ t ∈ d.timeWords, Vocabulary d labels t :=
  fun _ ht => .fixed (List.mem_append_right _ ht)

theorem AggregateNode.vocabulary {n : Expr} (h : AggregateNode n) :
    ∀ t ∈ n.frame d, Vocabulary d labels t := by
  have fixed {t : Token} (ht : t ∈ aggregateFunctions.map Token.function ++ literalWords) :
      ∀ x ∈ [t], Vocabulary d labels x :=
        List.forall_mem_singleton.2 (.fixed (List.mem_append_left _ ht))
  cases h with
  | call hn args => exact fixed (List.mem_append_left _ (List.mem_map_of_mem hn))
  | case condition x y => simp [Expr.ifThen, Expr.frame, caseWords]
  | zero | one | hundred => exact fixed (by simp [Literal.token, literalWords])
  | null => simp [Expr.null, Expr.frame, Literal.token]
  | times x y | divide x y => exact List.forall_mem_singleton.2 (vocabulary_op _)

theorem Node.vocabulary {n : Expr} (h : Node n) : ∀ t ∈ n.frame d, Vocabulary d labels t := by
  have one : Vocabulary d labels (.int 1) := .fixed (by simp [fixedWords, literalWords])
  cases h with
  | column h => exact vocabulary_qualified h
  | param index => simp [Expr.frame]
  | compare hop a b => exact List.forall_mem_singleton.2 (vocabulary_op _)
  | list x values negated =>
    cases values with
    | nil => simp [Expr.frame, one]
    | cons v vs => exact List.forall_mem_cons.2 ⟨.keyword _, vocabulary_negation negated⟩
  | range x low high => simp [Expr.frame, negation]
  | null x negated => simp [Expr.frame]
  | text x pattern =>
    have hchar : String.singleton '\\' = "\\" := by decide
    have escape : Vocabulary d labels (.string "\\") := .fixed (by simp [fixedWords, literalWords])
    simp [Expr.frame, hchar, escape]
  | aggregate h => exact h.vocabulary
  | bucket x b | timestamp x => exact vocabulary_timeWords

theorem vocabulary_linkedRows (ids : List Expr) :
    ∀ t ∈ (Expr.inQuery rowColumn.expr (Scope.linkedRows ids) false).frame d,
      Vocabulary d labels t := by
  have hlink : Vocabulary d labels (.ident linkTable) := .stored (by decide)
  simp [Expr.frame, Scope.linkedRows, Query.frame, Query.empty, breaks, aliasTokens,
    negation, hlink]

theorem IsRestriction.vocabulary {e : Expr} (h : IsRestriction e) :
    e.All fun n => ∀ t ∈ n.frame d, Vocabulary d labels t := by
  obtain ⟨p, customers, cases, p', h⟩ := h
  refine h.all ?_ (fun _ _ hc => vocabulary_qualified hc) (fun i => ?_)
    (fun _ _ values _ => (Node.list _ values false).vocabulary) (fun _ =>
      vocabulary_linkedRows _) ?_
  · have hzero : ∀ t ∈ (Expr.int 0).frame d, Vocabulary d labels t := AggregateNode.zero.vocabulary
    have hone : ∀ t ∈ (Expr.int 1).frame d, Vocabulary d labels t := AggregateNode.one.vocabulary
    refine Expr.all_binary.2 ⟨?_, Expr.all_literal.2 hone, Expr.all_literal.2 hzero⟩
    exact List.forall_mem_singleton.2 (vocabulary_op .eq)
  · simp [Expr.frame]
  · rintro a b rfl
    exact List.forall_mem_singleton.2 (vocabulary_op .or)

end Frames

section Limit

/-- The last clause of a text. -/
def limitWords : Option Int64 → List Token
  | none => []
  | some n => [.newline, .keyword .limit, .space, .int n.toInt]

/-- A limit fits into 64 bits and is written as it is. -/
theorem limitClause_of_limitOf {o : Options} {maxLimit : Nat} {limit : Option Nat}
    (h : limitOf o maxLimit = .ok limit) : limitClause true limit = limitWords o.limit ∧
      ∀ n ∈ o.limit, 1 ≤ n.toInt ∧ n.toInt ≤ maxLimit := by
  unfold limitOf at h
  cases hl : o.limit with
  | none =>
    rw [hl] at h
    cases h
    exact ⟨rfl, by simp⟩
  | some n =>
    rw [hl] at h
    dsimp only at h
    split at h
    · next hn =>
      cases h
      have hword : Int.bmod (n.toInt.toNat : Int) Word.count = n.toInt := by
        rw [Int.toNat_of_nonneg (by omega)]
        exact Int64.toInt_bmod n
      refine ⟨?_, by simpa using hn⟩
      rw [limitClause, limitWords, hword]
      rfl
    · cases h

end Limit

theorem QueryPlan.Sound.vocabulary {p : QueryPlan} (h : p.Sound) (d : Dialect) :
    ∀ t ∈ ({ p.toQuery baseTable with limit := none } : Query).tokens d true,
      Vocabulary d p.selectLabels t := by
  have all {x : Expr} (hx : x.All Node) : x.All fun n =>
      ∀ t ∈ n.frame d, Vocabulary d p.selectLabels t :=
    fun n hn => (hx n hn).vocabulary
  have hexprs := h.all_exprs (Q := fun n => ∀ t ∈ n.frame d, Vocabulary d p.selectLabels t)
    (fun _ _ => List.forall_mem_singleton.2 (vocabulary_op .and)) (fun s hs => all hs.all_node)
    (fun j hj => all (all_node_on hj)) (fun e he => all he.all_node) (fun e he => he.vocabulary)
    (fun label hl => List.forall_mem_singleton.2 (.label hl)) baseTable
  refine Query.forall_mem_tokens vocabulary_layout ?_ fun e he =>
    Expr.forall_mem_tokens vocabulary_layout (hexprs e he)
  have hlabels : ∀ s ∈ p.selects, ∀ t ∈ aliasTokens (some s.label),
      Vocabulary d p.selectLabels t := by
    intro s hs
    have hlabel : Vocabulary d p.selectLabels (.ident s.label) :=
      .label (List.mem_map.2 ⟨s, hs, rfl⟩)
    simp [aliasTokens, hlabel]
  have hjoins : ∀ j ∈ p.joins, ∀ t ∈ joinHead j.table, Vocabulary d p.selectLabels t := by
    intro j hj
    have htable : Vocabulary d p.selectLabels (.ident j.table) :=
      .stored (mem_storedNames_of_mem_joinSteps j (h.joins j hj))
    simp [joinHead, htable]
  have hdirections : ∀ k ∈ p.orderBy, ∀ t ∈ Direction.tokens k.direction,
      Vocabulary d p.selectLabels t := by
    intro k _
    rcases k.direction with _ | _ | _ <;> simp [Direction.tokens]
  have hbase : Vocabulary d p.selectLabels (.ident baseTable) := .stored (by decide)
  simp only [Query.frame, QueryPlan.toQuery, List.forall_mem_append, List.forall_mem_cons,
    List.forall_mem_flatMap, List.forall_mem_map]
  refine ⟨⟨⟨⟨⟨⟨⟨?_, ?_, hlabels⟩, ?_⟩, hjoins⟩, ?_⟩, ?_⟩, hdirections⟩, ?_⟩
  all_goals simp [breaks, hbase]

/-- Nothing but aliases and the limit of a definition reaches the text of its plan, whatever scopes
restrict it: up to the limit, every token is fixed, a registered name, an alias or a placeholder;
all aliases are plain names; and the limit is written as the definition has it, from 1 to the
largest that is allowed. -/
theorem words_of_text {definition : Definition} {w : Timeframe} {maxLimit : Nat} {p : QueryPlan}
    (h : compile definition w maxLimit = .ok p) (scopes : List Scope) (d : Dialect) :
    (∃ body, (restrict scopes p).tokens d = body ++ limitWords definition.options.limit ∧
      ∀ t ∈ body, Vocabulary d p.selectLabels t) ∧
    (∀ label ∈ p.selectLabels, IsPlainName label) ∧
    ∀ n ∈ definition.options.limit, 1 ≤ n.toInt ∧ n.toInt ≤ maxLimit := by
  have hsound := (sound_of_compile h).restrict scopes
  obtain ⟨draft, hcompiled⟩ := compiled_of_compile h
  obtain ⟨hwords, hbounds⟩ := limitClause_of_limitOf hcompiled.limit
  have hselects := restrict_selects scopes p
  have hlimit := restrict_limit scopes p
  have hlabels : (restrict scopes p).selectLabels = p.selectLabels := by
    rw [QueryPlan.selectLabels, hselects, QueryPlan.selectLabels]
  refine ⟨⟨_, ?_, hlabels ▸ hsound.vocabulary d⟩, fun label hl => ?_, hbounds⟩
  · rw [QueryPlan.tokens, Query.tokens_eq_body, ← hwords, ← hlimit]
    rfl
  · obtain ⟨s, hs, rfl⟩ := List.mem_map.1 hl
    exact isPlainName_of_isAlias ((sound_of_compile h).outputs s hs).isAlias_label

theorem words_of_text_severeShare : ∃ p, compile severeShare sinceMarch 10000 = .ok p ∧
    ∀ d, ∃ body, (restrict [clientScope, .denyAll] p).tokens d = body ++ limitWords (some 25) ∧
      ∀ t ∈ body, Vocabulary d p.selectLabels t := by
  obtain ⟨p, h, -, -⟩ := exists_compile_severeShare
  exact ⟨p, h, fun d => (words_of_text h [clientScope, .denyAll] d).1⟩

end IncidentBoard.Plan
