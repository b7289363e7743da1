import IncidentBoard.Proofs.Sql.Nodes
import Mathlib.Data.List.Basic

/-! How deep the tokens of a text lie. An expression closes what it opens. -/
namespace IncidentBoard.Sql

/-- What can be open around a token: a parenthesis, a `CASE`, or a `BETWEEN` that awaits its
`AND`. -/
inductive Opener
  | paren | case | between
  deriving DecidableEq

/-- What is open behind a token, the innermost in front. -/
def Token.enter : Token → List Opener → List Opener
  | .symbol .lparen, around => .paren :: around
  | .symbol .rparen, .paren :: around => around
  | .keyword .case', around => .case :: around
  | .keyword .end', .case :: around => around
  | .keyword .between, around => .between :: around
  | .keyword .and, .between :: around => around
  | _, around => around

/-- What is open behind a text. -/
def opened (around : List Opener) (ts : List Token) : List Opener :=
  ts.foldl (fun around t => t.enter around) around

/-- The tokens of a text, each with what is open before it. -/
def levels (around : List Opener) : List Token → List (Token × List Opener)
  | [] => []
  | t :: ts => (t, around) :: levels (t.enter around) ts

def Token.isAnd : Token → Bool
  | .keyword .and => true
  | _ => false

/-- Closes whatever it opens, unless a `BETWEEN` waits for its `AND` just around it. -/
def Framed (ts : List Token) : Prop := ∀ around : List Opener, around.head? ≠ some .between →
  opened around ts = around ∧ ∀ x ∈ levels around ts, around <:+ x.2

/-- Closes whatever it opens, and has no `AND` to cut at. -/
def Solid (ts : List Token) : Prop := ∀ around : List Opener,
  opened around ts = around ∧ ∀ x ∈ levels around ts, around <:+ x.2 ∧ (x.1.isAnd → x.2 ≠ around)

section Levels

variable {around : List Opener}

@[simp] theorem opened_nil : opened around [] = around := rfl

@[simp] theorem opened_cons (t : Token) (ts : List Token) :
    opened around (t :: ts) = opened (t.enter around) ts := rfl

@[simp] theorem opened_append (a b : List Token) :
    opened around (a ++ b) = opened (opened around a) b :=
  List.foldl_append

@[simp] theorem levels_append (a b : List Token) :
    levels around (a ++ b) = levels around a ++ levels (opened around a) b := by
  induction a generalizing around with
  | nil => rfl
  | cons t a ih => rw [List.cons_append, levels, levels, ih, opened_cons, List.cons_append]

@[simp] theorem map_fst_levels (around : List Opener) (ts : List Token) :
    (levels around ts).map Prod.fst = ts := by
  induction ts generalizing around with
  | nil => rfl
  | cons t ts ih => rw [levels, List.map_cons, ih]

end Levels

/-- Opens nothing, closes nothing, and is no `AND`. -/
def Token.isPlain : Token → Bool
  | .symbol .lparen | .symbol .rparen => false
  | .keyword .case' | .keyword .end' | .keyword .between | .keyword .and => false
  | _ => true

theorem Token.enter_of_isPlain {t : Token} (h : t.isPlain) (around : List Opener) :
    t.enter around = around := by
  unfold enter
  split <;> first | rfl | contradiction

theorem Token.not_isAnd_of_isPlain {t : Token} (h : t.isPlain) : ¬ t.isAnd := by
  unfold isAnd
  split
  · contradiction
  · simp

namespace Framed

variable {a b : List Token}

theorem nil : Framed [] := fun _ _ => ⟨rfl, by simp [levels]⟩

theorem append (ha : Framed a) (hb : Framed b) : Framed (a ++ b) := by
  intro around h
  obtain ⟨hoa, hla⟩ := ha around h
  obtain ⟨hob, hlb⟩ := hb around h
  rw [opened_append, levels_append, hoa]
  exact ⟨hob, List.forall_mem_append.2 ⟨hla, hlb⟩⟩

theorem flatMap {α : Type} {l : List α} {f : α → List Token} (h : ∀ x ∈ l, Framed (f x)) :
    Framed (l.flatMap f) :=
  flatMap_induction nil (fun _ _ ha hb => ha.append hb) h

theorem intercalate {separator : List Token} (hs : Framed separator) {parts : List (List Token)}
    (h : ∀ ts ∈ parts, Framed ts) : Framed (separator.intercalate parts) :=
  intercalate_induction nil (fun _ _ ha hb => ha.append (hs.append hb)) h

end Framed

namespace Solid

variable {a b ts : List Token}

theorem framed (h : Solid ts) : Framed ts := fun around _ =>
  ⟨(h around).1, fun x hx => ((h around).2 x hx).1⟩

theorem append (ha : Solid a) (hb : Solid b) : Solid (a ++ b) := by
  intro around
  obtain ⟨hoa, hla⟩ := ha around
  obtain ⟨hob, hlb⟩ := hb around
  rw [opened_append, levels_append, hoa]
  exact ⟨hob, List.forall_mem_append.2 ⟨hla, hlb⟩⟩

theorem of_isPlain (h : ∀ t ∈ ts, t.isPlain) : Solid ts := by
  intro around
  induction ts with
  | nil => exact ⟨rfl, by simp [levels]⟩
  | cons t ts ih =>
    obtain ⟨ht, hts⟩ := List.forall_mem_cons.1 h
    obtain ⟨ho, hl⟩ := ih hts
    rw [opened_cons, levels, Token.enter_of_isPlain ht]
    refine ⟨ho, List.forall_mem_cons.2 ⟨⟨List.suffix_rfl, fun hand => ?_⟩, hl⟩⟩
    exact absurd hand (Token.not_isAnd_of_isPlain ht)

theorem plain {t : Token} (ht : t.isPlain) : Solid [t] :=
  of_isPlain (List.forall_mem_singleton.2 ht)

theorem cons {t : Token} (ht : t.isPlain) (h : Solid ts) : Solid (t :: ts) := (plain ht).append h

/-- Between an opener and its closer everything is deeper than around them. -/
theorem enclose {left right : Token} {o : Opener} (hl : ¬ left.isAnd)
    (hleft : ∀ around, left.enter around = o :: around)
    (hright : ∀ around, right.enter (o :: around) = around)
    (h : ∀ around, opened (o :: around) ts = o :: around ∧
      ∀ x ∈ levels (o :: around) ts, o :: around <:+ x.2) :
    Solid (left :: (ts ++ [right])) := by
  intro around
  obtain ⟨hin, hlevels⟩ := h around
  have deeper {x : Token × List Opener} (hx : o :: around <:+ x.2) :
      around <:+ x.2 ∧ (x.1.isAnd → x.2 ≠ around) := by
    refine ⟨(List.suffix_cons o around).trans hx, fun _ heq => ?_⟩
    have hlen := hx.length_le
    rw [heq, List.length_cons] at hlen
    omega
  rw [opened_cons, hleft, opened_append, hin, levels, hleft, levels_append, hin]
  refine ⟨hright around, List.forall_mem_cons.2 ⟨⟨List.suffix_rfl, fun h => absurd h hl⟩, ?_⟩⟩
  refine List.forall_mem_append.2 ⟨fun x hx => deeper (hlevels x hx), ?_⟩
  exact List.forall_mem_singleton.2 (deeper List.suffix_rfl)

theorem parens (h : Framed ts) : Solid (parens ts) :=
  enclose (o := .paren) (by simp [Token.isAnd]) (fun _ => rfl) (fun _ => rfl) fun around =>
    h _ (by simp)

theorem case (h : Framed ts) : Solid (Token.keyword .case' :: (ts ++ [Token.keyword .end'])) :=
  enclose (o := .case) (by simp [Token.isAnd]) (fun _ => rfl) (fun _ => rfl) fun around =>
    h _ (by simp)

/-- The first `AND` behind a `BETWEEN` belongs to it. -/
theorem between (h : Solid ts) : Solid (Token.keyword .between :: (ts ++ [Token.keyword .and])) :=
  enclose (o := .between) (by simp [Token.isAnd]) (fun _ => rfl) (fun _ => rfl) fun around =>
    ⟨(h _).1, fun x hx => ((h _).2 x hx).1⟩

end Solid

section Printer

theorem framed_and : Framed [.keyword .and] := by
  intro around h
  have henter : (Token.keyword .and).enter around = around := by
    unfold Token.enter
    split <;> simp_all
  exact ⟨henter, by simp [levels]⟩

theorem Framed.commaList {parts : List (List Token)} (h : ∀ ts ∈ parts, Framed ts) :
    Framed (commaList parts) :=
  Framed.intercalate (Solid.of_isPlain (by simp [Token.isPlain])).framed h

theorem Solid.infixed {a b : List Token} {op : Token} (ha : Solid a) (hop : op.isPlain)
    (hb : Solid b) :
    Solid (infixed a op b) :=
  ha.append (cons rfl (cons hop (cons rfl hb)))

theorem Solid.call {name : String} {args : List (List Token)} (h : ∀ ts ∈ args, Framed ts) :
    Solid (call name args) :=
  cons rfl (parens (Framed.commaList h))

theorem Solid.caseTokens {branches : List (List Token × List Token)}
    {otherwise : Option (List Token)} (hb : ∀ b ∈ branches, Framed b.1 ∧ Framed b.2)
    (ho : ∀ e ∈ otherwise, Framed e) :
    Solid (caseTokens branches otherwise) := by
  have word (k : Keyword) (hk : (Token.keyword k).isPlain) : Framed [.space, .keyword k, .space] :=
    (of_isPlain (by simpa [Token.isPlain] using hk)).framed
  have hbranches : Framed (branches.flatMap fun b => whenThen b.1 b.2) :=
    Framed.flatMap fun b hmem => by
    exact (((word .when' rfl).append (hb b hmem).1).append (word .then' rfl)).append (hb b hmem).2
  have hotherwise : Framed (elseTokens otherwise) := by
    cases otherwise with
    | none => exact Framed.nil
    | some e => exact (word .else' rfl).append (ho e rfl)
  have hbody := ((hbranches.append hotherwise).append (plain (t := .space) rfl).framed)
  rw [caseTokens_eq]
  simpa using case hbody

section Time

variable {ts : List Token}

theorem Solid.strftime {format : String} {modifiers : List String} (h : Framed ts) :
    Solid (Sqlite.strftime format ts modifiers) := by
  refine call (List.forall_mem_cons.2 ⟨?_,
    List.forall_mem_cons.2 ⟨h, List.forall_mem_map.2 fun m _ => ?_⟩⟩)
  · exact (plain rfl).framed
  · exact (plain rfl).framed

theorem Solid.sqliteTimestamp (h : Solid ts) : Solid (Sqlite.timestamp ts) := by
  have htype : Solid (Sql.infixed (Sql.call "TYPEOF" [ts]) (.symbol .eq) [.string "integer"]) :=
    infixed (call (by simpa using h.framed)) rfl (plain rfl)
  refine caseTokens (List.forall_mem_singleton.2 ⟨htype.framed, (strftime h.framed).framed⟩)
    fun e he => ?_
  rw [← Option.mem_some_iff.1 he]
  exact (strftime h.framed).framed

theorem Solid.timestampTokens (d : Dialect) (h : Solid ts) : Solid (d.timestampTokens ts) := by
  cases d with
  | sqlite => exact sqliteTimestamp h
  | postgres => exact h

theorem Solid.minuteMultiple {step : Int} (h : Solid ts) :
    Solid (Sqlite.minuteMultiple ts step) := by
  have hstep : Solid [.int step] := plain rfl
  have quotient : Solid (Sql.infixed (Sqlite.strftime "%M" ts []) (.symbol .divide) [.int step]) :=
    infixed (strftime h.framed) rfl hstep
  have minute :=
    infixed (parens quotient.framed) (show (Token.symbol .times).isPlain from rfl) hstep
  refine infixed (infixed (strftime h.framed) rfl (call ?_)) rfl (plain rfl)
  exact List.forall_mem_cons.2 ⟨(plain rfl).framed, List.forall_mem_singleton.2 minute.framed⟩

theorem Solid.bucketTokens (d : Dialect) (h : Solid ts) (b : Bucket) :
    Solid (d.bucketTokens ts b) := by
  cases d with
  | sqlite =>
    have htime := sqliteTimestamp h
    cases b with
    | fiveMinutes | fifteenMinutes => exact minuteMultiple htime
    | minute | hour | day | week | month | year => exact strftime htime.framed
  | postgres =>
    cases b with
    | fiveMinutes | fifteenMinutes =>
      refine call (List.forall_mem_cons.2 ⟨(plain rfl).framed,
        List.forall_mem_cons.2 ⟨h.framed, ?_⟩⟩)
      exact List.forall_mem_singleton.2 (plain rfl).framed
    | minute | hour | day | week | month | year =>
      exact call (List.forall_mem_cons.2 ⟨(plain rfl).framed, List.forall_mem_singleton.2 h.framed⟩)

end Time

section Clauses

variable {multiline : Bool}

theorem Framed.clause {ts : List Token} (h : Framed ts) : Framed (clause multiline ts) := by
  cases multiline with
  | true => exact (Solid.plain (t := .newline) rfl).framed.append h
  | false => exact (Solid.plain (t := .space) rfl).framed.append h

theorem Framed.listClause {head : Keyword} (hh : (Token.keyword head).isPlain)
    {parts : List (List Token)} (h : ∀ ts ∈ parts, Framed ts) :
    Framed (listClause multiline head parts) := by
  cases parts with
  | nil => exact nil
  | cons a rest =>
    have hhead : Solid [.keyword head, .space] := Solid.cons hh (Solid.plain rfl)
    exact clause (hhead.framed.append (commaList h))

theorem Framed.selectTokens {items : List (List Token)} (h : ∀ ts ∈ items, Framed ts) :
    Framed (selectTokens multiline items) := by
  have hstart : Framed (if multiline then [.newline, .indent 1] else [.space]) := by
    cases multiline with
    | true => exact (Solid.cons rfl (Solid.plain rfl)).framed
    | false => exact (Solid.plain rfl).framed
  have hitems : Framed ([Token.symbol .comma].intercalate
      (items.map ((if multiline then [.newline, .indent 1] else [.space]) ++ ·))) := by
    refine intercalate (Solid.plain rfl).framed ?_
    rw [List.forall_mem_map]
    exact fun ts hts => hstart.append (h ts hts)
  exact (Solid.plain (t := .keyword .select) rfl).framed.append hitems

theorem Query.framed_tokens {d : Dialect} {q : Query} (h : ∀ e ∈ q.exprs, Framed (e.tokens d)) :
    Framed (q.tokens d multiline) := by
  simp only [exprs, List.forall_mem_append, List.forall_mem_map] at h
  obtain ⟨⟨⟨⟨hselects, hjoins⟩, hfilter⟩, hgroups⟩, hkeys⟩ := h
  have words {ts : List Token} (h : ∀ t ∈ ts, t.isPlain) : Framed ts := (Solid.of_isPlain h).framed
  rw [tokens_eq, itemTokens_eq, joinTokens_eq, keyTokens_eq, Expr.listTokens_eq]
  refine (((((Framed.append ?_ ?_).append ?_).append ?_).append ?_).append ?_).append ?_
  · refine Framed.selectTokens (List.forall_mem_map.2 fun i hi => (hselects i hi).append (words ?_))
    cases i.label <;> simp [aliasTokens, Token.isPlain]
  · cases q.source with
    | none => exact Framed.nil
    | some table => exact Framed.clause (words (by simp [Token.isPlain]))
  · refine Framed.flatMap (List.forall_mem_map.2 fun j hj =>
      Framed.clause (.append (words ?_) (hjoins j hj)))
    simp [joinHead, Token.isPlain]
  · cases hf : q.filter with
    | none => exact Framed.nil
    | some e =>
      have hwhere : Framed [.keyword .where', .space] := words (by simp [Token.isPlain])
      exact Framed.clause (hwhere.append (hfilter e (by simp [hf])))
  · exact Framed.listClause rfl (List.forall_mem_map.2 hgroups)
  · refine Framed.listClause rfl (List.forall_mem_map.2 fun k hk => (hkeys k hk).append (words ?_))
    rcases k.direction with _ | _ | _ <;> simp [Direction.tokens, Token.isPlain]
  · cases q.limit with
    | none => exact Framed.nil
    | some n => exact Framed.clause (words (by simp [Token.isPlain]))

end Clauses

theorem solid_columnTokens (table : Option String) (name : String) :
    Solid (columnTokens table name) := by
  cases table <;> exact Solid.of_isPlain (by simp [columnTokens, Token.isPlain])

/-- Expressions that bind more strongly than `AND` are solid, and all others framed. -/
theorem Expr.solid_and_framed {d : Dialect} {e : Expr} (h : e.Regular) :
    (3 ≤ e.precedence → Solid (e.tokens d)) ∧ Framed (e.tokens d) := by
  induction e using Expr.parts_induct with
  | step e ih =>
    have part {x : Expr} (hx : x ∈ e.parts) := ih x hx (h.part hx)
    have framed {x : Expr} (hx : x ∈ e.parts) (place : Nat) :
        Framed (operand x (x.tokens d) place) := by
      unfold operand
      split
      · exact (Solid.parens (part hx).2).framed
      · exact (part hx).2
    have solid {x : Expr} (hx : x ∈ e.parts) {place : Nat} (hp : 3 ≤ place) :
        Solid (operand x (x.tokens d) place) := by
      unfold operand
      split
      · exact Solid.parens (part hx).2
      · exact (part hx).1 (by omega)
    have all (hs : Solid (e.tokens d)) : (3 ≤ e.precedence → Solid (e.tokens d)) ∧
        Framed (e.tokens d) :=
      ⟨fun _ => hs, hs.framed⟩
    have tested {x : Expr} (hx : x ∈ e.parts) (negated : Bool) :
        Solid (operand x (x.tokens d) 5 ++ negation negated) := by
      refine (solid hx (by decide)).append ?_
      cases negated with
      | true => exact Solid.cons rfl (Solid.plain rfl)
      | false => exact Solid.of_isPlain (by simp [negation])
    have within {x : Expr} {body : List Token} (hx : x ∈ e.parts) (hb : Framed body)
      (negated : Bool) :
        Solid (operand x (x.tokens d) 5 ++ negation negated
          ++ [Token.space, Token.keyword .in', Token.space] ++ parens body) := by
      refine ((tested hx negated).append ?_).append (Solid.parens hb)
      exact Solid.of_isPlain (by simp [Token.isPlain])
    have column {x : Expr} (hx : x.isColumn) : Solid (x.tokens d) := by
      obtain ⟨table, name, rfl⟩ := exists_of_isColumn hx
      exact solid_columnTokens table name
    cases e with
    | column table name => exact all (solid_columnTokens table name)
    | literal l => cases l <;> exact all (Solid.plain rfl)
    | param index => exact all (Solid.plain rfl)
    | binary op left right =>
      have hl := framed (x := left) (by simp [parts]) op.leftPlace
      have hr := framed (x := right) (by simp [parts]) op.rightPlace
      have spaced {t : Token} (ht : Framed [t]) : Framed [.space, t, .space] :=
        ((Solid.plain rfl).framed.append ht).append (Solid.plain rfl).framed
      have infixed {t : Token} (ht : Framed [t]) :
          Framed (Sql.infixed (operand left (left.tokens d) op.leftPlace) t
            (operand right (right.tokens d) op.rightPlace)) := by
        simpa [Sql.infixed] using (hl.append (spaced ht)).append hr
      by_cases hp : 3 ≤ op.precedence
      · have hplain : op.token.isPlain := by
          cases op <;> first | rfl | simp [BinOp.precedence] at hp
        have hplace : 3 ≤ op.rightPlace := by
          unfold BinOp.rightPlace
          split <;> omega
        exact all (Solid.infixed (solid (by simp [parts]) hp) hplain
          (solid (by simp [parts]) hplace))
      · refine ⟨fun h => absurd h hp, infixed ?_⟩
        cases op with
        | and => exact framed_and
        | _ => exact (Solid.plain rfl).framed
    | not x => exact all (Solid.cons rfl (Solid.cons rfl (solid (by simp [parts]) (Nat.le_refl 3))))
    | call name distinct args =>
      have hdistinct : Framed (if distinct then [.keyword .distinct, .space] else []) := by
        cases distinct with
        | true => exact (Solid.cons rfl (Solid.plain rfl)).framed
        | false => exact Framed.nil
      have hargs : Framed (commaList (Expr.listTokens d args)) := by
        rw [listTokens_eq]
        exact Framed.commaList (List.forall_mem_map.2 fun x hx => (part hx).2)
      exact all (Solid.cons rfl (Solid.parens (hdistinct.append hargs)))
    | case branches otherwise =>
      rw [case_tokens_eq, branchTokens_eq] at all ⊢
      refine all (Solid.caseTokens (List.forall_mem_map.2 fun b hb => ⟨?_, ?_⟩) fun ts hts => ?_)
      · exact (part (List.mem_append_left _ (List.mem_flatMap.2 ⟨b, hb, by simp⟩))).2
      · exact (part (List.mem_append_left _ (List.mem_flatMap.2 ⟨b, hb, by simp⟩))).2
      · obtain ⟨x, hx, rfl⟩ := Option.map_eq_some_iff.1 hts
        exact (part (List.mem_append_right _ (by simp [hx]))).2
    | inList x values negated =>
      cases values with
      | nil =>
        exact all (Solid.infixed (Solid.plain rfl) (by cases negated <;> rfl) (Solid.plain rfl))
      | cons v vs =>
        refine all (within (by simp [parts]) ?_ negated)
        rw [listTokens_eq, ← List.map_cons]
        exact Framed.commaList (List.forall_mem_map.2 fun y hy =>
          (part (List.mem_cons_of_mem _ hy)).2)
    | inQuery x query negated =>
      refine all (within (by simp [parts]) ?_ negated)
      exact Query.framed_tokens fun y hy => (part (List.mem_cons_of_mem _ hy)).2
    | between x low high negated =>
      have hlow : Solid (.space :: operand low (low.tokens d) 5 ++ [.space]) :=
        (Solid.cons rfl (solid (by simp [parts]) (by decide))).append (Solid.plain rfl)
      have hhigh : Solid (.space :: operand high (high.tokens d) 5) :=
        Solid.cons rfl (solid (by simp [parts]) (by decide))
      have hrange := Solid.cons (t := .space) rfl ((Solid.between hlow).append hhigh)
      exact all (by simpa [tokens, Sql.infixed]
        using (tested (by simp [parts]) negated).append hrange)
    | isNull x negated =>
      have hword : Solid [.space, .keyword (if negated then .isNotNull else .isNull)] :=
        Solid.cons rfl (Solid.plain (by cases negated <;> rfl))
      exact all ((solid (by simp [parts]) (by decide)).append hword)
    | like x pattern escape anyCase =>
      have hop : (if anyCase then Token.likeAnyCase else .keyword .like).isPlain := by
        cases anyCase <;> rfl
      have hlike :
          Solid (Sql.infixed (operand x (x.tokens d) 5) _ (operand pattern (pattern.tokens d) 5)) :=
        Solid.infixed (solid (by simp [parts]) (by decide)) hop
          (solid (by simp [parts]) (by decide))
      exact all (hlike.append (Solid.of_isPlain (by simp [Token.isPlain])))
    | paren x => exact all (Solid.parens (part (by simp [parts])).2)
    | bucket x b => exact all (Solid.bucketTokens d (column h.self) b)
    | timestamp x => exact all (Solid.timestampTokens d (column h.self))

end Printer

end IncidentBoard.Sql
