import IncidentBoard.Board
import IncidentBoard.Proofs.Access.Narrowing
import IncidentBoard.Proofs.Plan.Outline

/-! What the widgets of a board ask of the store, and what each of them gets out of its own
answer. -/
namespace IncidentBoard

open Access Store Widget Payload Plan

namespace Store

variable {σ : Type} {store : Store σ}

/-- The state of a store after some calls. -/
def after (store : Store σ) (calls : List Request) (s : σ) : σ :=
  calls.foldl (fun s request => (store.fetch request s).2) s

/-- From the state `s` on, a call is answered by its number alone, whatever was asked before it. -/
def AnswersInTurn (store : Store σ) (s : σ)
    (answers : Nat → Request → Except StoreError (List Row)) : Prop :=
  ∀ calls request, (store.fetch request (store.after calls s)).1 = answers calls.length request

/-- The same store with a list of the calls made to it. -/
def recorded (store : Store σ) : Store (σ × List Request) where
  dialect := store.dialect
  fetch request s :=
    let (answer, t) := store.fetch request s.1
    (answer, t, s.2 ++ [request])

theorem AnswersInTurn.first {s : σ} {answers : Nat → Request → Except StoreError (List Row)}
    (h : AnswersInTurn store s answers) (request : Request) :
    (store.fetch request s).1 = answers 0 request :=
  h [] request

theorem AnswersInTurn.after {s : σ} {answers : Nat → Request → Except StoreError (List Row)}
    (h : AnswersInTurn store s answers) (calls : List Request) :
    AnswersInTurn store (store.after calls s) fun i => answers (calls.length + i) := by
  intro more request
  have happend : store.after more (store.after calls s) = store.after (calls ++ more) s := by
    rw [Store.after, Store.after, Store.after, List.foldl_append]
  rw [happend, h, List.length_append]

/-- A store with prepared answers gives them in turn. -/
theorem answersInTurn_scripted (dialect : Sql.Dialect) (exhausted : StoreError)
    (responses : List Response) (requests : List Request) :
    AnswersInTurn (scripted dialect exhausted) ⟨responses, requests⟩ fun i request =>
      (responses[i]?.getD (.error exhausted)).bind (decodeRows request.columns) := by
  intro calls request
  induction calls generalizing responses requests with
  | nil => cases responses <;> rfl
  | cons call calls ih =>
    cases responses with
    | nil => exact ih [] (call :: requests)
    | cons response rest => exact ih rest (call :: requests)

end Store

/-- Charts with an axis: their points may leave the calendar, those of other charts cannot. -/
def hasPoints : ChartType → Bool
  | .bar | .line | .pie | .timechart => true
  | .number | .percentage | .table => false

/-- The points that a plan's chart has before it has rows stay in the calendar. -/
def Plan.QueryPlan.AxisFits (p : QueryPlan) (w : Timeframe) (maxPoints : Nat) : Prop :=
  hasPoints p.chartType → (gridPoints? p.timeBucket w maxPoints).isSome

theorem isSome_format? {r : Result} {w : Timeframe} {maxPoints : Nat} (o : Options)
    (h : hasPoints r.chartType → (gridPoints? (r.timeAxis?.map (·.2)) w maxPoints).isSome) :
    (format? r o w maxPoints).isSome := by
  unfold format?
  split
  case h_1 | h_2 | h_3 | h_4 =>
    rw [Option.isSome_map, formatSeries?, Option.isSome_map]
    exact h (by simp [hasPoints, *])
  all_goals rfl

/-- A compiled plan has a chart for any rows, if its axis fits. -/
theorem exists_chart? {limits : Limits} {d : Definition} {w : Timeframe} {p : QueryPlan}
    (h : compile d w limits.maxLimit = .ok p) (hfit : p.AxisFits w limits.maxPoints)
    (rows : List Row) : ∃ payload, chart? limits d w (resultOf p rows) = some payload := by
  obtain ⟨draft, hc⟩ := compiled_of_compile h
  have haxis : (resultOf p rows).timeAxis?.map (·.2) = p.timeBucket := by
    rw [hc.outlined.timeAxis_resultOf rows, hc.outlined.timeBucket]
    cases hb : d.timeBucket with
    | none => rfl
    | some b =>
      obtain ⟨label, rest, hlabel, -⟩ := hc.outlined.axis b hb
      simp [hlabel]
  refine Option.isSome_iff_exists.1 (isSome_format? d.options ?_)
  rw [haxis]
  exact hfit

/-- A scope changes nothing of what is made of the rows. -/
theorem resultOf_apply (scope : Scope) (p : QueryPlan) (rows : List Row) :
    resultOf (scope.apply p) rows = resultOf p rows := by
  cases scope <;> rfl

/-- A plan with a scope added: of the rows of the plan it takes those that the scope shows, and
binds the ids of the scope after the values of the plan. Nothing else of the plan changes. -/
structure NarrowedTo (p : QueryPlan) (scope : Scope) (q : QueryPlan) : Prop where
  eq : ∃ added, q = { p with
    predicates := p.predicates ++ added
    params := ⟨p.params.values ++ scope.ids.map .int⟩ }
  closed : q.Closed
  admits : ∀ (D : Sql.Database) (row : Sql.Row), q.Admits D row ↔ p.Admits D row ∧ scope.Shows D row

theorem narrowedTo_apply {p : QueryPlan} (hp : p.Closed) (scope : Scope) :
    NarrowedTo p scope (scope.apply p) where
  eq := ⟨_, apply_eq scope p⟩
  closed := closed_apply hp scope
  admits := admits_apply hp scope

namespace Board

section Widget

variable (limits : Limits) (w : Timeframe) (scope : Scope) (dialect : Sql.Dialect)

/-- What the store is asked for a definition: nothing, if it does not compile. -/
def request? (d : Definition) : Option Request :=
  match compile d w limits.maxLimit with
  | .error _ => none
  | .ok plan => some (requestOf dialect (scope.apply plan))

/-- The calls for some widgets, in their order. -/
def calls (widgets : List Placed) : List Request :=
  widgets.filterMap fun p => request? limits w scope dialect p.definition

/-- A store is asked once for each widget that compiles, in the order of the widgets, for its plan
narrowed to a scope. -/
inductive Asks : List Placed → List Request → Prop
  | nil : Asks [] []
  | refused {p : Placed} {ps : List Placed} {requests : List Request} {e : DefinitionError}
      (h : compile p.definition w limits.maxLimit = .error e) (hrest : Asks ps requests) :
      Asks (p :: ps) requests
  | asked {p : Placed} {ps : List Placed} {requests : List Request} {plan q : QueryPlan}
      (h : compile p.definition w limits.maxLimit = .ok plan) (hq : NarrowedTo plan scope q)
      (hrest : Asks ps requests) : Asks (p :: ps) (requestOf dialect q :: requests)

def Compiles (p : Placed) : Bool := (compile p.definition w limits.maxLimit).isOk

/-- The outcome that a definition has by itself, with the answer to its own request. -/
inductive Earns (answer : Option (Except StoreError (List Row))) (d : Definition) : Outcome → Prop
  | refused {e : DefinitionError} (h : compile d w limits.maxLimit = .error e) :
      Earns answer d (.error e.message)
  | failed {plan : QueryPlan} {e : StoreError} (h : compile d w limits.maxLimit = .ok plan)
      (hanswer : answer = some (.error e)) : Earns answer d (.error "An unexpected error occurred")
  | charted {plan : QueryPlan} {rows : List Row} {payload : Payload}
      (h : compile d w limits.maxLimit = .ok plan) (hanswer : answer = some (.ok rows))
      (hchart : chart? limits d w (resultOf plan rows) = some payload) :
    Earns answer d (.ok payload)

/-- The axis of every widget that compiles fits. -/
def AxesFit (widgets : List Placed) : Prop :=
  ∀ p ∈ widgets, ∀ plan, compile p.definition w limits.maxLimit = .ok plan →
    plan.AxisFits w limits.maxPoints

end Widget

variable {σ : Type} {store : Store σ} {limits : Limits} {w : Timeframe} {scope : Scope} {s : σ}

section One

variable {d : Definition}

theorem request?_of_error {e : DefinitionError} (h : compile d w limits.maxLimit = .error e)
    (dialect : Sql.Dialect) : request? limits w scope dialect d = none := by
  rw [request?, h]

theorem request?_of_ok {plan : QueryPlan} (h : compile d w limits.maxLimit = .ok plan)
    (dialect : Sql.Dialect) :
    request? limits w scope dialect d = some (requestOf dialect (scope.apply plan)) := by
  rw [request?, h]

theorem outcome?_of_error {e : DefinitionError} (h : compile d w limits.maxLimit = .error e) :
    outcome? store limits w scope d s = some (.error e.message, s) := by
  rw [outcome?, execute, h]
  rfl

/-- A definition that compiles is one call, and its outcome hangs on the answer. -/
theorem outcome?_of_ok {plan : QueryPlan} (h : compile d w limits.maxLimit = .ok plan) :
    outcome? store limits w scope d s =
      match (store.fetch (requestOf store.dialect (scope.apply plan)) s).1 with
      | .error _ =>
        some (.error "An unexpected error occurred",
          store.after [requestOf store.dialect (scope.apply plan)] s)
      | .ok rows => (chart? limits d w (resultOf plan rows)).map fun payload =>
        (.ok payload, store.after [requestOf store.dialect (scope.apply plan)] s) := by
  rw [outcome?, execute, h, Store.after, List.foldl_cons, List.foldl_nil]
  dsimp only [run]
  simp only [← resultOf_apply scope plan]
  cases (store.fetch (requestOf store.dialect (scope.apply plan)) s).1 <;> rfl

theorem outcome?_earns (store : Store σ) (scope : Scope) (s : σ)
    (hfit : ∀ plan, compile d w limits.maxLimit = .ok plan → plan.AxisFits w limits.maxPoints) :
    ∃ o, outcome? store limits w scope d s =
        some (o, store.after (request? limits w scope store.dialect d).toList s) ∧
      Earns limits w ((request? limits w scope store.dialect d).map fun request =>
        (store.fetch request s).1) d o := by
  cases h : compile d w limits.maxLimit with
  | error e =>
    rw [outcome?_of_error h, request?_of_error h]
    exact ⟨_, rfl, .refused h⟩
  | ok plan =>
    rw [outcome?_of_ok h, request?_of_ok h]
    cases hanswer : (store.fetch (requestOf store.dialect (scope.apply plan)) s).1 with
    | error e => exact ⟨_, rfl, .failed h (congrArg some hanswer)⟩
    | ok rows =>
      obtain ⟨payload, hchart⟩ := exists_chart? h (hfit plan h) rows
      dsimp only
      rw [hchart]
      exact ⟨_, rfl, .charted h (congrArg some hanswer) hchart⟩

/-- Whatever a store answers, its calls are the same. -/
theorem outcome?_recorded (log : List Request) :
    outcome? store.recorded limits w scope d (s, log) =
      (outcome? store limits w scope d s).map fun (o, t) =>
        (o, t, log ++ (request? limits w scope store.dialect d).toList) := by
  cases h : compile d w limits.maxLimit with
  | error e => simp [outcome?_of_error h, request?_of_error h]
  | ok plan =>
    have hfetch : (store.recorded.fetch (requestOf store.dialect (scope.apply plan)) (s, log)).1 =
      (store.fetch (requestOf store.dialect (scope.apply plan)) s).1 := rfl
    have hdialect : store.recorded.dialect = store.dialect := rfl
    rw [outcome?_of_ok h, outcome?_of_ok h, request?_of_ok h, hdialect, hfetch]
    cases (store.fetch (requestOf store.dialect (scope.apply plan)) s).1 with
    | error e => rfl
    | ok rows =>
      dsimp only
      rw [Option.map_map]
      rfl

end One

section All

variable {widgets : List Placed}

theorem calls_cons (p : Placed) (dialect : Sql.Dialect) :
    calls limits w scope dialect (p :: widgets) =
    (request? limits w scope dialect p.definition).toList ++ calls limits w scope dialect
      widgets := by
  rw [calls, List.filterMap_cons]
  cases request? limits w scope dialect p.definition <;> rfl

theorem outcomes?_recorded (log : List Request) :
    outcomes? store.recorded limits w scope widgets (s, log) =
      (outcomes? store limits w scope widgets s).map fun (os, t) =>
        (os, t, log ++ calls limits w scope store.dialect widgets) := by
  induction widgets generalizing s log with
  | nil => simp [outcomes?, calls]
  | cons p ps ih =>
    rw [outcomes?, outcomes?, outcome?_recorded, calls_cons]
    cases outcome? store limits w scope p.definition s with
    | none => rfl
    | some x =>
      simp only [Option.map_some, Option.bind_eq_bind, Option.bind_some, ih]
      cases outcomes? store limits w scope ps x.2 with
      | none => rfl
      | some y => simp

/-- Each widget has the outcome that it earns with its own answer. The answer's number is the number
of widgets before it that compile. -/
theorem outcomes?_earns (scope : Scope) {answers : Nat → Request → Except StoreError (List Row)}
    (hstore : AnswersInTurn store s answers) (hfit : AxesFit limits w widgets) :
    ∃ os t, outcomes? store limits w scope widgets s = some (os, t) ∧
      os.map (·.1) = widgets.map (·.id) ∧
      ∀ before p later, widgets = before ++ p :: later → ∃ o, os[before.length]? = some (p.id, o) ∧
        Earns limits w ((request? limits w scope store.dialect p.definition).map
          (answers (calls limits w scope store.dialect before).length)) p.definition o := by
  induction widgets generalizing s answers with
  | nil => exact ⟨[], s, rfl, rfl, by simp⟩
  | cons p ps ih =>
    have ⟨hfirst, hrest⟩ := List.forall_mem_cons.1 hfit
    obtain ⟨o, ho, hearns⟩ := outcome?_earns store scope s hfirst
    obtain ⟨os, t, hos, hids, hall⟩ :=
      ih (hstore.after (request? limits w scope store.dialect p.definition).toList) hrest
    refine ⟨(p.id, o) :: os, t, ?_, congrArg (p.id :: ·) hids, fun before q later hsplit => ?_⟩
    · rw [outcomes?, ho, Option.bind_eq_bind, Option.bind_some]
      dsimp only
      rw [hos]
      rfl
    · rcases List.cons_eq_append_iff.1 hsplit with ⟨rfl, hq⟩ | ⟨before, rfl, hq⟩
      · cases hq
        rw [funext hstore.first] at hearns
        exact ⟨o, rfl, hearns⟩
      · obtain ⟨o', ho', hearns'⟩ := hall before q later hq
        rw [calls_cons, List.length_append]
        exact ⟨o', ho', hearns'⟩

theorem asks_calls (scope : Scope) (dialect : Sql.Dialect) (widgets : List Placed) :
    Asks limits w scope dialect widgets (calls limits w scope dialect widgets) := by
  induction widgets with
  | nil => exact .nil
  | cons p ps ih =>
    rw [calls_cons]
    cases h : compile p.definition w limits.maxLimit with
    | error e =>
      rw [request?_of_error h]
      exact .refused h ih
    | ok plan =>
      rw [request?_of_ok h]
      exact .asked h (narrowedTo_apply (sound_of_compile h).closed scope) ih

theorem length_calls (scope : Scope) (dialect : Sql.Dialect) (widgets : List Placed) :
    (calls limits w scope dialect widgets).length = widgets.countP (Compiles limits w) := by
  induction widgets with
  | nil => rfl
  | cons p ps ih =>
    rw [calls_cons, List.length_append, ih, List.countP_cons, Nat.add_comm, Compiles, request?]
    cases compile p.definition w limits.maxLimit <;> rfl

/-- The request of a widget has the number of widgets before it that compile. -/
theorem getElem?_calls {p : Placed} {plan : QueryPlan}
    (h : compile p.definition w limits.maxLimit = .ok plan) (scope : Scope) (dialect : Sql.Dialect)
    (before later : List Placed) :
    (calls limits w scope dialect (before ++ p :: later))[before.countP (Compiles limits w)]? =
      request? limits w scope dialect p.definition := by
  have hsplit : calls limits w scope dialect (before ++ p :: later) =
      calls limits w scope dialect before ++ calls limits w scope dialect (p :: later) :=
    List.filterMap_append
  rw [hsplit, ← length_calls scope dialect, List.getElem?_append_right (Nat.le_refl _),
    Nat.sub_self, calls_cons, request?_of_ok h]
  rfl

/-- The scope that a principal has. Who cannot be looked up is denied everything, and is shown no
row. -/
structure Sees (lookup : Lookup) (principal : String) (scope : Scope) : Prop where
  found : ∀ granted, lookup principal = .ok granted → scope = granted
  denied : ∀ e, lookup principal = .error e →
    scope = .denyAll ∧ ∀ (D : Sql.Database) (row : Sql.Row), ¬ scope.Shows D row

theorem sees_resolve (lookup : Lookup) (principal : String) :
    Sees lookup principal (resolve lookup principal) := by
  rw [resolve]
  constructor
  · intro granted h
    rw [h]
  · intro e h
    rw [h]
    exact ⟨rfl, not_shows_of_isDenyAll rfl⟩

/-- A board fetch asks the store once for each widget that compiles, in the order of the widgets,
for the plan of each narrowed to the scope of the principal, whatever is answered. An id has the
outcome of its last widget, and that hangs on this widget and its own answer alone. -/
theorem outcomes_of_fetch (lookup : Lookup) (principal : String)
    {answers : Nat → Request → Except StoreError (List Row)}
    (hstore : AnswersInTurn store s answers) (hfit : AxesFit limits w widgets) :
    ∃ scope, Sees lookup principal scope ∧ ∃ board t requests,
      fetch? store limits lookup principal widgets w s = some (board, t) ∧
      fetch? store.recorded limits lookup principal widgets w (s, []) = some (board, t, requests) ∧
      Asks limits w scope store.dialect widgets requests ∧
      (∀ id ∉ widgets.map (·.id), board.get? id = none) ∧
      ∀ before p later, widgets = before ++ p :: later → p.id ∉ later.map (·.id) →
        let i := before.countP (Compiles limits w)
        ∃ o, board.get? p.id = some o ∧
          Earns limits w (requests[i]?.map (answers i)) p.definition o := by
  obtain ⟨os, t, hos, hids, hall⟩ := outcomes?_earns (resolve lookup principal) hstore hfit
  refine ⟨resolve lookup principal, sees_resolve lookup principal, .ofList os, t, _, ?_, ?_,
    asks_calls _ store.dialect widgets, fun id hid => ?_, fun before p later hsplit hlast => ?_⟩
  · rw [fetch?, hos]
    rfl
  · rw [fetch?, outcomes?_recorded, hos]
    rfl
  · rw [← hids] at hid
    exact Keyed.get?_ofList_of_notMem hid
  · obtain ⟨o, ho, hearns⟩ := hall before p later hsplit
    rw [hsplit, List.map_append, List.map_cons] at hids
    obtain ⟨front, back, rfl, hfront, hback⟩ := List.map_eq_append_iff.1 hids
    obtain ⟨e, rest, rfl, -, hrest⟩ := List.map_eq_cons_iff.1 hback
    have hlength : front.length = before.length := by simpa using congrArg List.length hfront
    obtain rfl : e = (p.id, o) := by simpa [← hlength] using ho
    rw [← hrest] at hlast
    refine ⟨o, Keyed.get?_ofList_of_last rfl hlast, ?_⟩
    -- A widget that does not compile has its outcome whatever is answered.
    cases h : compile p.definition w limits.maxLimit with
    | error e =>
      cases hearns with
      | refused h => exact .refused h
      | failed h' | charted h' => cases h.symm.trans h'
    | ok plan =>
      rwa [hsplit, getElem?_calls h, ← length_calls (resolve lookup principal) store.dialect before]

/-- How many alerts there are. -/
def alertCount : Definition where
  chartType := some .number
  fields := [⟨"alerts", "alert_id", some "n", some "count", none⟩]

/-- The first and the last widget have one id, the definition between them has no chart. -/
def counts : List Placed := [⟨"count", alertCount⟩, ⟨"empty", {}⟩, ⟨"count", alertCount⟩]

theorem scalarOf_twelve :
    scalarOf ⟨.number, [.ofList [("n", .int 12)]], [], ["n"], ["n"], none, none⟩ {} =
    ⟨.number, "n", "12", some 12⟩ := by
  have hfields : (fun c : Scalar => (c.chartType, c.label, c.value, c.raw))
      (scalarOf ⟨.number, [.ofList [("n", .int 12)]], [], ["n"], ["n"], none, none⟩ {}) =
        (.number, "n", "12", some 12) := by
    decide +kernel
  generalize scalarOf _ _ = c at hfields ⊢
  cases c
  cases hfields
  rfl

/-- A store that fails once and then finds twelve. -/
def stumbling : Script := ⟨[.error (.rejected "disk I/O error"), .ok [[.int 12]]], []⟩

/-- The request for a count of no rows. -/
def refusedCount : Request where
  sql := "SELECT\n  COUNT(\"alerts\".\"alert_id\") AS \"n\"\nFROM \"alerts\"\nWHERE 1 = 0"
  params := []
  columns := [⟨"n", none⟩]

/-- The request for a count of the rows of two customers and a case. -/
def grantedCount : Request where
  sql := "SELECT\n  COUNT(\"alerts\".\"alert_id\") AS \"n\"\nFROM \"alerts\"\n" ++
    "WHERE \"alerts\".\"alert_customer_id\" IN (?1, ?2) OR \"alerts\".\"alert_id\" IN " ++
    "(SELECT \"alert_case_association\".\"alert_id\" FROM \"alert_case_association\" " ++
    "WHERE \"alert_case_association\".\"case_id\" IN (?3))"
  params := [.int 3, .int 7, .int 42]
  columns := [⟨"n", none⟩]

theorem axesFit_counts : AxesFit {} ⟨none, none⟩ counts := by
  intro p _ plan _ _
  cases hb : plan.timeBucket <;> simp [gridPoints?, Timeframe.bounds?]

/-- A request as parts that are compared one by one. -/
def parts (r : Request) : String × List SqlValue × List OutputColumn := (r.sql, r.params, r.columns)

theorem parts_injective : Function.Injective parts := by
  rintro ⟨_, _, _⟩ ⟨_, _, _⟩ h
  cases h
  rfl

theorem requests_eq {lookup : Lookup} {board : Keyed Outcome} {t : Script}
    {requests expected : List Request}
    (h : fetch? (scripted .sqlite (.rejected "locked")).recorded {} lookup "ana" counts ⟨none, none⟩
      (stumbling, []) = some (board, t, requests))
    (hexpected : (fetch? (scripted .sqlite (.rejected "locked")).recorded {} lookup "ana" counts
      ⟨none, none⟩ (stumbling, [])).map (fun x => x.2.2.map parts) = some (expected.map parts)) :
    requests = expected := by
  rw [h] at hexpected
  exact List.map_injective_iff.2 parts_injective (Option.some.inj hexpected)

theorem compile_alertCount : (compile alertCount ⟨none, none⟩ 10000).isOk = true := by
  decide +kernel

/-- Its chart is the number that the store found. -/
theorem chart?_alertCount {plan : QueryPlan}
    (h : compile alertCount ⟨none, none⟩ 10000 = .ok plan) :
    chart? {} alertCount ⟨none, none⟩ (resultOf plan [.ofList [("n", .int 12)]]) =
      some (.scalar ⟨.number, "n", "12", some 12⟩) := by
  have hlabels : (compile alertCount ⟨none, none⟩ 10000).map
      (fun p => (p.chartType, p.groupLabels, p.valueLabels, p.selectLabels)) =
      .ok (.number, [], ["n"], ["n"]) := by
    decide +kernel
  have htime : (compile alertCount ⟨none, none⟩ 10000).map (fun p => (p.timeLabel, p.timeBucket)) =
      .ok (none, none) := by
    decide +kernel
  rw [h] at hlabels htime
  simp only [Except.map, Except.ok.injEq, Prod.mk.injEq] at hlabels htime
  simp only [resultOf, hlabels, htime]
  exact congrArg (fun c => some (Payload.scalar c)) scalarOf_twelve

/-- The scope cannot be looked up, or is that of two customers and a case. -/
theorem outcomes_of_fetch_counts :
    (∃ board t, fetch? (scripted .sqlite (.rejected "locked")).recorded {} (offline "unreachable")
        "ana" counts ⟨none, none⟩ (stumbling, []) = some (board, t, [refusedCount, refusedCount]) ∧
      board.get? "empty" = some (.error "Widget definition has no chart_type") ∧
      board.get? "count" = some (.ok (.scalar ⟨.number, "n", "12", some 12⟩))) ∧
    ∃ board t, fetch? (scripted .sqlite (.rejected "locked")).recorded {}
      (Directory.grant {} "ana" clientScope).lookup "ana" counts ⟨none, none⟩ (stumbling, []) =
        some (board, t, [grantedCount, grantedCount]) := by
  have hstore := answersInTurn_scripted .sqlite (.rejected "locked") stumbling.responses []
  constructor
  · obtain ⟨scope, -, board, t, requests, -, hrecorded, -, -, hlast⟩ :=
      outcomes_of_fetch (offline "unreachable") "ana" hstore axesFit_counts
    obtain rfl : requests = [refusedCount, refusedCount] :=
      requests_eq hrecorded (by decide +kernel)
    refine ⟨board, t, hrecorded, ?_, ?_⟩
    · obtain ⟨o, ho, hearns⟩ := hlast [⟨"count", alertCount⟩] ⟨"empty", {}⟩ _ rfl (by decide)
      have hempty : compile {} ⟨none, none⟩ 10000 = .error .missingChartType := rfl
      cases hearns with
      | refused h =>
        cases hempty.symm.trans h
        exact ho
      | failed h | charted h => cases hempty.symm.trans h
    · obtain ⟨o, ho, hearns⟩ :=
        hlast [⟨"count", alertCount⟩, ⟨"empty", {}⟩] ⟨"count", alertCount⟩ [] rfl (by simp)
      cases hearns with
      | refused h => cases compile_alertCount.symm.trans (congrArg Except.isOk h)
      | failed _ hanswer => cases hanswer
      | charted h hanswer hpayload =>
        cases hanswer
        cases hpayload.symm.trans (chart?_alertCount h)
        exact ho
  · obtain ⟨scope, -, board, t, requests, -, hrecorded, -⟩ :=
      outcomes_of_fetch (Directory.grant {} "ana" clientScope).lookup "ana" hstore axesFit_counts
    obtain rfl : requests = [grantedCount, grantedCount] :=
      requests_eq hrecorded (by decide +kernel)
    exact ⟨board, t, hrecorded⟩

end All

end Board

end IncidentBoard
