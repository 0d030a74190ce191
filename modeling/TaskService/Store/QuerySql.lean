import TaskService.Store.Pages

/-!
# Built queries

The text of a listing is put together from fragments, with placeholders numbered as their
values are bound.  Reading such a text back, under the row-value, text and NULL comparisons of
SQL, gives the conditions of the query over its own values, and so the page of the memory
store.
-/

namespace TaskService.Store

open Library Model List Database

inductive SqlValue
  | integer (value : Nat)
  | text (value : String)
  deriving DecidableEq

inductive SqlToken
  | select
  | indexed
  | lead (again : Bool)
  | positionAfter (spaced : Bool)
  | category
  | correlationKey
  | stateIn
  | queued
  | due
  | comma (spaced : Bool)
  | close
  | placeholder (number : Nat)
  | orderLimit (spaced : Bool)
  deriving DecidableEq

def SqlToken.text : SqlToken → String
  | .select => "SELECT id,request_info_json,lifecycle_json FROM tasks"
  | .indexed => " INDEXED BY tasks_queued_accepted_id"
  | .lead false => " WHERE "
  | .lead true => " AND "
  | .positionAfter true => "(accepted_at, id) > ("
  | .positionAfter false => "(accepted_at,id)>("
  | .category => "category = "
  | .correlationKey => "correlation_key = "
  | .stateIn => "state_kind IN ("
  | .queued => "state_kind='Queued'"
  | .due => "(retry_not_before_ms IS NULL OR retry_not_before_ms<="
  | .comma true => ", "
  | .comma false => ","
  | .close => ")"
  | .placeholder number => "?" ++ toString number
  | .orderLimit true => " ORDER BY accepted_at, id LIMIT "
  | .orderLimit false => " ORDER BY accepted_at,id LIMIT "

/-- A statement under construction, with the flag that turns `WHERE` into `AND`. -/
structure QuerySql where
  sql : List SqlToken
  params : List SqlValue
  hasPredicate : Bool

def QuerySql.text (built : QuerySql) : String :=
  String.join (built.sql.map SqlToken.text)

def stateKindText : TaskStateKind → String
  | .queued => "Queued"
  | .running => "Running"
  | .blocked => "Blocked"
  | .succeeded => "Succeeded"
  | .failed => "Failed"
  | .panicked => "Panicked"
  | .cancelled => "Cancelled"

namespace QuerySql

def pushStr (built : QuerySql) (fragment : SqlToken) : QuerySql :=
  { built with sql := built.sql ++ [fragment] }

/-- Binds a value and appends its placeholder. -/
def bindValue (built : QuerySql) (value : SqlValue) : QuerySql :=
  { built with
    sql := built.sql ++ [.placeholder (built.params.length + 1)]
    params := built.params ++ [value] }

def appendPredicate (built : QuerySql) (fragment : SqlToken) : QuerySql :=
  { built with
    sql := built.sql ++ [.lead built.hasPredicate, fragment]
    hasPredicate := true }

def addCursor (built : QuerySql) : Option TaskCursor → Except StoreError QuerySql
  | none => .ok built
  | some after => do
      require (after.acceptedAtMs < i64Bound)
        (.invalidRequest "task history cursor timestamp is too large")
      .ok (((((built.appendPredicate (.positionAfter true)).bindValue
        (.integer after.acceptedAtMs)).pushStr (.comma true)).bindValue
          (.text after.id.toPaddedDecimal)).pushStr .close)

def addText (built : QuerySql) (fragment : SqlToken) : Option String → QuerySql
  | none => built
  | some value => (built.appendPredicate fragment).bindValue (.text value)

def addStates (built : QuerySql) : List TaskStateKind → QuerySql
  | [] => built
  | first :: rest =>
      (rest.foldl (fun built state =>
        (built.pushStr (.comma false)).bindValue (.text (stateKindText state)))
        ((built.appendPredicate .stateIn).bindValue (.text (stateKindText first)))).pushStr .close

end QuerySql

/-- The states of a query without repetitions, in the order of their first occurrence. -/
def distinctStates (states : List TaskStateKind) : List TaskStateKind :=
  states.foldl (fun kept state => if kept.contains state then kept else kept ++ [state]) []

def buildEncodedHistoryQuery (query : TaskQuery) (pageSize : Nat) : Except StoreError QuerySql := do
  require (pageSize + 1 < i64Bound) (.invalidRequest "task history page limit is too large")
  let built ← QuerySql.addCursor
    { sql := [.select], params := [], hasPredicate := false } query.after
  let built := (built.addText .category query.category).addText .correlationKey query.correlationKey
  .ok (((built.addStates (distinctStates query.states)).pushStr (.orderLimit true)).bindValue
    (.integer (pageSize + 1)))

/-- The cursor of the ready listing, whose placeholders are numbered in its text. -/
def QuerySql.addReadyCursor (built : QuerySql) : Option TaskCursor → Except StoreError QuerySql
  | none => .ok built
  | some cursor => do
      require (cursor.acceptedAtMs < i64Bound)
        (.invalidRequest "task cursor timestamp is too large")
      .ok { built with
        sql := built.sql ++ [.lead true, .positionAfter false, .placeholder 2, .comma false,
          .placeholder 3, .close]
        params := built.params ++
          [.integer cursor.acceptedAtMs, .text cursor.id.toPaddedDecimal] }

def buildReadyQuery (after : Option TaskCursor) (limit now : Nat) : Except StoreError QuerySql := do
  require (now < i64Bound) (.invalidRequest "task timestamp is too large")
  require (limit + 1 < i64Bound) (.invalidRequest "ready task page limit is too large")
  let built ← QuerySql.addReadyCursor
    { sql := [.select, .indexed, .lead false, .queued, .lead true, .due, .placeholder 1, .close]
      params := [.integer now]
      hasPredicate := true } after
  .ok ((built.pushStr (.orderLimit false)).bindValue (.integer (limit + 1)))

section Meaning

/-- A condition over the values bound to its placeholders. -/
inductive SqlCondition
  | after (time id : Option SqlValue)
  | category (text : Option SqlValue)
  | correlationKey (text : Option SqlValue)
  | states (texts : List (Option SqlValue))
  | queued
  | due (now : Option SqlValue)

structure SqlStatement where
  conditions : List SqlCondition
  limit : Option SqlValue

def SqlStatement.given (conditions : List SqlCondition) (statement : SqlStatement) : SqlStatement :=
  { statement with conditions := conditions ++ statement.conditions }

/-- Placeholders are numbered from one; an unbound one is NULL. -/
def boundValue (params : List SqlValue) : Nat → Option SqlValue
  | 0 => none
  | n + 1 => params[n]?

/-- Reads the text behind the table.  `again` says whether a condition came before, and `listed`
holds the values of an `IN` list that is not closed yet. -/
def readSql (params : List SqlValue) (again : Bool) (listed : Option (List (Option SqlValue))) :
    List SqlToken → Option SqlStatement
  | .indexed :: .lead false :: rest =>
      if again = false then readSql params again listed (.lead false :: rest) else none
  | .lead given :: rest =>
      if given = again ∧ listed = none then
        match rest with
        | .positionAfter _ :: .placeholder time :: .comma _ :: .placeholder id :: .close :: rest =>
            (readSql params true none rest).map
              (SqlStatement.given [.after (boundValue params time) (boundValue params id)])
        | .category :: .placeholder n :: rest =>
            (readSql params true none rest).map
              (SqlStatement.given [.category (boundValue params n)])
        | .correlationKey :: .placeholder n :: rest =>
            (readSql params true none rest).map
              (SqlStatement.given [.correlationKey (boundValue params n)])
        | .stateIn :: .placeholder n :: rest =>
          readSql params true (some [boundValue params n]) rest
        | .queued :: rest => (readSql params true none rest).map (SqlStatement.given [.queued])
        | .due :: .placeholder n :: .close :: rest =>
            (readSql params true none rest).map (SqlStatement.given [.due (boundValue params n)])
        | _ => none
      else none
  | .comma _ :: .placeholder n :: rest =>
      listed.bind fun texts => readSql params again (some (texts ++ [boundValue params n])) rest
  | .close :: rest =>
      listed.bind fun texts => (readSql params again none rest).map
        (SqlStatement.given [.states texts])
  | [.orderLimit _, .placeholder n] =>
      if listed = none then some { conditions := [], limit := boundValue params n } else none
  | _ => none

def sqlStatement (params : List SqlValue) : List SqlToken → Option SqlStatement
  | .select :: rest => readSql params false none rest
  | _ => none

/-- The tokens with one spelling that no other token begins. -/
def fixedTokens : List SqlToken :=
  [.select, .indexed, .lead false, .lead true, .positionAfter true, .positionAfter false,
    .category, .correlationKey, .stateIn, .queued, .due, .close, .orderLimit true,
    .orderLimit false]

def lexFixed (text : List Char) : Option (SqlToken × List Char) :=
  (fixedTokens.find? fun token => token.text.toList.isPrefixOf text).map fun token =>
    (token, text.drop token.text.toList.length)

/-- Whether a text goes on like a token that begins with a blank. -/
def beginsWord (text : List Char) : Bool :=
  ['W', 'A', 'I', 'O'].any (text.head? == some ·)

/-- The first token of a text, and the text behind it.  A comma takes a blank with it unless the
blank begins the next token. -/
def lexToken : List Char → Option (SqlToken × List Char)
  | '?' :: rest =>
      some (.placeholder (Nat.ofDigitChars 10 (rest.takeWhile Char.isDigit) 0),
        rest.dropWhile Char.isDigit)
  | ',' :: rest =>
      if rest.head? = some ' ' ∧ beginsWord rest.tail = false then some (.comma true, rest.tail)
      else some (.comma false, rest)
  | text => lexFixed text

def lexSql : Nat → List Char → Option (List SqlToken)
  | _, [] => some []
  | 0, _ => none
  | fuel + 1, text => do
      let (token, rest) ← lexToken text
      (token :: ·) <$> lexSql fuel rest

/-- The statement a text stands for.  Each of its tokens takes at least one character. -/
def textStatement (params : List SqlValue) (text : String) : Option SqlStatement :=
  (lexSql text.toList.length text.toList).bind (sqlStatement params)

def SqlValue.less : SqlValue → SqlValue → Bool
  | .integer left, .integer right => decide (left < right)
  | .text left, .text right => textLt left right
  | .integer _, .text _ => true
  | .text _, .integer _ => false

/-- A comparison with NULL is NULL. -/
def sqlCompare (comparison : SqlValue → SqlValue → Bool) (left right : Option SqlValue) :
    Option Bool :=
  left.bind fun left => right.map fun right => comparison left right

def sqlOr : Option Bool → Option Bool → Option Bool
  | some true, _ | _, some true => some true
  | some false, some false => some false
  | _, _ => none

def sqlAnd (left right : Option Bool) : Option Bool :=
  (sqlOr (left.map not) (right.map not)).map not

def sqlEqual : Option SqlValue → Option SqlValue → Option Bool :=
  sqlCompare fun left right => decide (left = right)

def SqlCondition.holds (entry : TaskId × TaskRow) : SqlCondition → Option Bool
  | .after time id =>
      let accepted := some (SqlValue.integer entry.2.acceptedAt)
      sqlOr (sqlCompare SqlValue.less time accepted) (sqlAnd (sqlEqual time accepted)
        (sqlCompare SqlValue.less id (some (.text entry.1.toPaddedDecimal))))
  | .category text => sqlEqual (entry.2.category.map .text) text
  | .correlationKey text => sqlEqual (entry.2.correlationKey.map .text) text
  | .states texts => texts.foldr (fun text rest =>
      sqlOr (sqlEqual (some (.text (stateKindText entry.2.stateKind))) text) rest) (some false)
  | .queued => sqlEqual (some (.text (stateKindText entry.2.stateKind))) (some (.text "Queued"))
  | .due now => sqlOr (some entry.2.retryNotBeforeMs.isNone)
      (sqlCompare (fun left right => !right.less left) (entry.2.retryNotBeforeMs.map .integer) now)

/-- The rows on which every condition is true, not NULL, in the order of the statement. -/
def SqlStatement.run (statement : SqlStatement) (database : Database) :
    Option (List (TaskId × TaskRow)) :=
  match statement.limit with
  | some (.integer limit) =>
      some (((database.taskRows.filter fun entry => statement.conditions.all fun condition =>
        decide (condition.holds entry = some true)).insertionSort fun left right =>
          Database.positionLe left right = true).take limit)
  | _ => none

def Database.evaluate (database : Database) (built : QuerySql) (pageSize : Nat) :
    Except StoreError TaskPage :=
  match (textStatement built.params built.text).bind fun statement => statement.run database with
  | none => .error (.failure "SQL logic error")
  | some rows => .ok (pageFrom (rows.map fun entry => entry.2.summary entry.1) pageSize)

def Database.listEncodedBuilt (database : Database) (query : TaskQuery) :
    Except StoreError TaskPage := do
  let pageSize ← query.checkedPageSize
  let built ← buildEncodedHistoryQuery query pageSize
  database.evaluate built pageSize

def Database.listReadyBuilt (database : Database) (after : Option TaskCursor) (limit now : Nat) :
    Except StoreError TaskPage := do
  require (limit ≤ maxTaskQueryLimit) (.invalidRequest "ready task page limit exceeds 256")
  let built ← buildReadyQuery after limit now
  database.evaluate built limit

end Meaning

section Lexing

def spelled (tokens : List SqlToken) : List Char :=
  tokens.flatMap fun token => token.text.toList

theorem fixed_apart : ∀ first ∈ fixedTokens, ∀ second ∈ fixedTokens,
    first.text.toList.isPrefixOf second.text.toList = true → first = second := by
  decide +kernel

variable {token : SqlToken}

theorem lex_fixed {rest : List Char} (fixed : token ∈ fixedTokens)
    (plain : lexToken (token.text.toList ++ rest) = lexFixed (token.text.toList ++ rest)) :
    lexToken (token.text.toList ++ rest) = some (token, rest) := by
  rw [plain, lexFixed]
  cases found : fixedTokens.find? fun other =>
      other.text.toList.isPrefixOf (token.text.toList ++ rest) with
  | none =>
    apply absurd _ (find?_eq_none.mp found token fixed)
    exact isPrefixOf_iff_prefix.mpr (prefix_append _ _)
  | some other =>
    have listed := mem_of_find?_eq_some found
    have matched := find?_some found
    have begins := isPrefixOf_iff_prefix.mp matched
    -- Of two spellings that begin one text, one begins the other.
    have same : other = token := by
      rcases prefix_or_prefix_of_prefix begins (prefix_append _ rest) with shorter | longer
      · exact fixed_apart other listed token fixed <| isPrefixOf_iff_prefix.mpr shorter
      · exact .symm <| fixed_apart token fixed other listed <| isPrefixOf_iff_prefix.mpr longer
    rw [same, Option.map_some, drop_left]

theorem placeholder_text (number : Nat) :
    (SqlToken.placeholder number).text.toList = '?' :: Nat.toDigits 10 number := by
  rw [SqlToken.text, String.toList_append, show (toString number).toList = _ from Nat.toList_repr]
  rfl

/-- What follows a token begins with no digit and no word, and a blank there begins a word. -/
theorem spelled_begins (tokens : List SqlToken) :
    (∀ first ∈ (spelled tokens).head?, first.isDigit = false) ∧
      beginsWord (spelled tokens) = false ∧
      ((spelled tokens).head? = some ' ' → beginsWord (spelled tokens).tail = true) := by
  cases tokens with
  | nil => simp [spelled, beginsWord]
  | cons token rest =>
    simp only [spelled, flatMap_cons]
    cases token with
    | placeholder number => simp [placeholder_text, beginsWord]
    | lead again | positionAfter again | orderLimit again | comma again =>
      cases again <;> simp [SqlToken.text, beginsWord]
    | _ => simp [SqlToken.text, beginsWord]

theorem lex_token (token : SqlToken) (tokens : List SqlToken) :
    lexToken (token.text.toList ++ spelled tokens) = some (token, spelled tokens) := by
  obtain ⟨digit, word, blank⟩ := spelled_begins tokens
  cases token with
  | placeholder number =>
    have all : ∀ digit ∈ Nat.toDigits 10 number, digit.isDigit = true :=
      fun _ => Nat.isDigit_of_mem_toDigits (by decide) (by decide)
    have stops : (spelled tokens).takeWhile Char.isDigit = [] ∧
        (spelled tokens).dropWhile Char.isDigit = spelled tokens := by
      cases rest : spelled tokens with
      | nil => exact ⟨rfl, rfl⟩
      | cons first others => simp [digit first (by rw [rest]; rfl)]
    rw [placeholder_text, cons_append, lexToken, takeWhile_append_of_pos all,
      dropWhile_append_of_pos all, stops.1, stops.2, append_nil,
      Nat.ofDigitChars_toDigits (by decide) (by decide)]
  | comma spaced =>
    cases spaced with
    | true => exact if_pos ⟨rfl, word⟩
    | false =>
      refine if_neg fun begins => ?_
      exact Bool.false_ne_true (begins.2.symm.trans (blank begins.1))
  | lead again | positionAfter again | orderLimit again =>
    cases again <;> exact lex_fixed (by decide) rfl
  | _ => exact lex_fixed (by decide) rfl

theorem lex_spelled (tokens : List SqlToken) :
    ∀ fuel, (spelled tokens).length ≤ fuel → lexSql fuel (spelled tokens) = some tokens := by
  induction tokens with
  | nil =>
    intro fuel _
    cases fuel <;> rfl
  | cons token rest ih =>
    intro fuel enough
    have first := lex_token token rest
    rw [show spelled (token :: rest) = token.text.toList ++ spelled rest from flatMap_cons]
      at enough ⊢
    cases text : token.text.toList with
    | nil =>
      have empty := lex_token token []
      rw [text] at empty
      cases (show none = some (token, []) from empty)
    | cons =>
      rw [text, cons_append] at first enough
      cases fuel with
      | zero => cases enough
      | succ fuel =>
        have few : (spelled rest).length ≤ fuel := by
          rw [length_cons, length_append] at enough
          omega
        simp [lexSql, first, ih fuel few]

/-- The text of a query reads back to the tokens it was put together from. -/
theorem text_statement (built : QuerySql) :
    textStatement built.params built.text = sqlStatement built.params built.sql := by
  have spelling : built.text.toList = spelled built.sql := by
    simp [QuerySql.text, String.toList_join, spelled, flatMap_map]
  rw [textStatement, spelling, lex_spelled _ _ (Nat.le_refl _)]
  rfl

end Lexing

section Reading

def cursorCondition (cursor : TaskCursor) : SqlCondition :=
  .after (some (.integer cursor.acceptedAtMs)) (some (.text cursor.id.toPaddedDecimal))

def sqlConditions (query : TaskQuery) : List SqlCondition :=
  query.after.toList.map cursorCondition ++
    query.category.toList.map (fun text => .category (some (.text text))) ++
    query.correlationKey.toList.map (fun text => .correlationKey (some (.text text))) ++
    match distinctStates query.states with
    | [] => []
    | states => [.states (states.map fun state => some (.text (stateKindText state)))]

def readyConditions (after : Option TaskCursor) (now : Nat) : List SqlCondition :=
  [.queued, .due (some (.integer now))] ++ after.toList.map cursorCondition

/-- What has been built reads as the given conditions, whatever is bound and appended after. -/
def QuerySql.Reads (built : QuerySql) (listed : Option (List (Option SqlValue)))
    (conditions : List SqlCondition) : Prop :=
  ∀ more tail, sqlStatement (built.params ++ more) (built.sql ++ tail) =
    (readSql (built.params ++ more) built.hasPredicate listed tail).map
      (SqlStatement.given conditions)

variable {built next : QuerySql} {conditions added : List SqlCondition}
  {listed after : Option (List (Option SqlValue))}

@[simp] theorem given_nil : SqlStatement.given [] = id := rfl

theorem given_given (first second : List SqlCondition) :
    SqlStatement.given first ∘ SqlStatement.given second =
      SqlStatement.given (first ++ second) := by
  funext statement
  simp [SqlStatement.given]

theorem QuerySql.Reads.extend (reads : built.Reads listed conditions) (values : List SqlValue)
    (fragment : List SqlToken) (sql : next.sql = built.sql ++ fragment)
    (params : next.params = built.params ++ values)
    (read : ∀ more tail, readSql (next.params ++ more) built.hasPredicate listed
      (fragment ++ tail) =
      (readSql (next.params ++ more) next.hasPredicate after tail).map (SqlStatement.given added)) :
    next.Reads after (conditions ++ added) := by
  intro more tail
  have earlier := reads (values ++ more) (fragment ++ tail)
  rw [← append_assoc, ← append_assoc, ← params, ← sql, read, Option.map_map, given_given] at earlier
  exact earlier

theorem QuerySql.Reads.add_cursor {cursor : Option TaskCursor} (reads : built.Reads none conditions)
    (bound : built.addCursor cursor = .ok next) :
    next.Reads none (conditions ++ cursor.toList.map cursorCondition) := by
  cases cursor with
  | none =>
    cases bound
    rw [Option.toList_none, map_nil, append_nil]
    exact reads
  | some cursor =>
    simp only [addCursor, bind_eq_ok, require_eq_ok] at bound
    obtain ⟨_, -, result⟩ := bound
    cases result
    refine reads.extend [.integer cursor.acceptedAtMs, .text cursor.id.toPaddedDecimal] _
      (by simp only [pushStr, bindValue, appendPredicate, append_assoc]; rfl)
      (by simp only [pushStr, bindValue, appendPredicate, append_assoc]; rfl) ?_
    intro more tail
    simp [readSql, boundValue, pushStr, bindValue, appendPredicate, cursorCondition]

theorem QuerySql.Reads.add_text (reads : built.Reads none conditions) (fragment : SqlToken)
    (condition : Option SqlValue → SqlCondition)
    (read : ∀ params again n tail, readSql params again none
      (.lead again :: fragment :: .placeholder n :: tail) = (readSql params true none tail).map
        (SqlStatement.given [condition (boundValue params n)])) (text : Option String) :
    (built.addText fragment text).Reads none
      (conditions ++ text.toList.map fun value => condition (some (.text value))) := by
  cases text with
  | none =>
    rw [Option.toList_none, map_nil, append_nil]
    exact reads
  | some value =>
    refine reads.extend [.text value] [.lead built.hasPredicate, fragment, .placeholder _]
      (by simp only [addText, bindValue, appendPredicate, append_assoc]; rfl) rfl ?_
    intro more tail
    refine (read _ _ _ tail).trans ?_
    simp [boundValue, addText, bindValue, appendPredicate]

/-- Each further state of the list is bound where its placeholder says. -/
theorem QuerySql.Reads.list_states (states : List TaskStateKind) {texts : List (Option SqlValue)}
    (reads : built.Reads (some texts) conditions) (led : built.hasPredicate = true) :
    ((states.foldl (fun built state =>
      (built.pushStr (.comma false)).bindValue (.text (stateKindText state))) built).pushStr
        .close).Reads none (conditions ++
          [.states (texts ++ states.map fun state => some (.text (stateKindText state)))]) := by
  induction states generalizing built texts with
  | nil =>
    refine reads.extend [] [.close] rfl (append_nil _).symm ?_
    intro more tail
    simp [readSql, pushStr]
  | cons state states ih =>
    have next : ((built.pushStr (.comma false)).bindValue (.text (stateKindText state))).Reads
        (some (texts ++ [some (.text (stateKindText state))])) (conditions ++ []) := by
      refine reads.extend [.text (stateKindText state)] [.comma false, .placeholder _]
        (by simp only [bindValue, pushStr, append_assoc]; rfl) rfl ?_
      intro more tail
      simp [readSql, boundValue, bindValue, pushStr]
    rw [append_nil] at next
    have rest := ih next led
    rw [append_assoc] at rest
    exact rest

theorem QuerySql.Reads.add_states (reads : built.Reads none conditions)
    (states : List TaskStateKind) :
    (built.addStates states).Reads none (conditions ++ match states with
      | [] => []
      | states => [.states (states.map fun state => some (.text (stateKindText state)))]) := by
  cases states with
  | nil =>
    rw [append_nil]
    exact reads
  | cons first rest =>
    have opened : ((built.appendPredicate .stateIn).bindValue (.text (stateKindText first))).Reads
        (some [some (.text (stateKindText first))]) (conditions ++ []) := by
      refine reads.extend [.text (stateKindText first)]
        [.lead built.hasPredicate, .stateIn, .placeholder _]
        (by simp only [bindValue, appendPredicate, append_assoc]; rfl) rfl ?_
      intro more tail
      simp [readSql, boundValue, bindValue, appendPredicate]
    have listed := opened.list_states rest rfl
    rw [append_nil] at listed
    exact listed

theorem QuerySql.Reads.finish (reads : built.Reads none conditions) (spaced : Bool) (limit : Nat) :
    let finished := (built.pushStr (.orderLimit spaced)).bindValue (.integer limit)
    textStatement finished.params finished.text =
      some { conditions := conditions, limit := some (.integer limit) } := by
  intro finished
  have read := reads [.integer limit] [.orderLimit spaced, .placeholder (built.params.length + 1)]
  refine (text_statement _).trans (Eq.trans ?_ (read.trans ?_))
  · simp [finished, QuerySql.pushStr, QuerySql.bindValue]
  · simp [readSql, boundValue, SqlStatement.given]

theorem build_history_reads {query : TaskQuery} {pageSize : Nat}
    (built : buildEncodedHistoryQuery query pageSize = .ok next) :
    textStatement next.params next.text =
      some { conditions := sqlConditions query, limit := some (.integer (pageSize + 1)) } := by
  simp only [buildEncodedHistoryQuery, bind_eq_ok, require_eq_ok] at built
  obtain ⟨_, -, cursor, added, result⟩ := built
  cases result
  have start : QuerySql.Reads { sql := [.select], params := [], hasPredicate := false } none
      [] := by
    intro more tail
    simp [sqlStatement]
  have texts := ((start.add_cursor added).add_text .category .category
    (fun _ _ _ _ => by simp [readSql]) query.category).add_text .correlationKey
      .correlationKey (fun _ _ _ _ => by simp [readSql]) query.correlationKey
  exact (texts.add_states (distinctStates query.states)).finish true _

theorem build_ready_reads {after : Option TaskCursor} {limit now : Nat}
    (built : buildReadyQuery after limit now = .ok next) :
    textStatement next.params next.text = some
      { conditions := readyConditions after now, limit := some (.integer (limit + 1)) } := by
  simp only [buildReadyQuery, bind_eq_ok, require_eq_ok] at built
  obtain ⟨_, -, _, -, cursor, added, result⟩ := built
  cases result
  refine QuerySql.Reads.finish ?_ false _
  intro more tail
  cases after with
  | none =>
    cases added
    simp [sqlStatement, readSql, boundValue, given_given, readyConditions]
  | some position =>
    simp only [QuerySql.addReadyCursor, bind_eq_ok, require_eq_ok] at added
    obtain ⟨_, -, result⟩ := added
    cases result
    simp [sqlStatement, readSql, boundValue, given_given, readyConditions, cursorCondition]

end Reading

section Evaluation

variable {database : Database} {query : TaskQuery} {entry : TaskId × TaskRow}

@[simp] theorem sql_or_true (left right : Option Bool) :
    sqlOr left right = some true ↔ left = some true ∨ right = some true := by
  rcases left with _ | left <;> rcases right with _ | right <;> try cases left
  all_goals try cases right
  all_goals decide

@[simp] theorem sql_and_true (left right : Option Bool) :
    sqlAnd left right = some true ↔ left = some true ∧ right = some true := by
  rcases left with _ | left <;> rcases right with _ | right <;> try cases left
  all_goals try cases right
  all_goals decide

@[simp] theorem sql_equal_true (left : Option SqlValue) (right : SqlValue) :
    sqlEqual left (some right) = some true ↔ left = some right := by
  cases left <;> simp [sqlEqual, sqlCompare]

theorem state_kind_text_injective {left right : TaskStateKind}
    (same : stateKindText left = stateKindText right) : left = right := by
  cases left <;> cases right <;> first | rfl | simp [stateKindText] at same

theorem mem_distinct_states {state : TaskStateKind} (states : List TaskStateKind) :
    state ∈ distinctStates states ↔ state ∈ states := by
  have kept : ∀ seen, state ∈ states.foldl (fun kept state =>
      if kept.contains state then kept else kept ++ [state]) seen ↔
        state ∈ seen ∨ state ∈ states := by
    induction states with
    | nil => simp
    | cons first rest ih =>
      intro seen
      rw [foldl_cons, ih]
      split <;> rename_i repeated
      · have held := contains_iff_mem.mp repeated
        grind
      · grind
  exact (kept []).trans (by simp)

theorem states_hold (states : List TaskStateKind) :
    (SqlCondition.states (states.map fun state => some (.text (stateKindText state)))).holds entry =
      some true ↔ entry.2.stateKind ∈ states := by
  induction states with
  | nil => simp [SqlCondition.holds]
  | cons state states ih =>
    simp only [SqlCondition.holds, map_cons, foldr_cons, sql_or_true, sql_equal_true,
      mem_cons] at ih ⊢
    rw [ih]
    constructor
    · rintro (same | rest)
      · exact .inl (state_kind_text_injective (by simpa using same))
      · exact .inr rest
    · rintro (rfl | rest)
      · exact .inl rfl
      · exact .inr rest

theorem cursor_holds (cursor : TaskCursor) :
    (cursorCondition cursor).holds entry = some true ↔
      afterCursor (some cursor) entry = true := by
  simp [cursorCondition, SqlCondition.holds, sqlCompare, SqlValue.less, afterCursor]

theorem cursors_hold (cursor : Option TaskCursor) :
    ((cursor.toList.map cursorCondition).all fun condition =>
      decide (condition.holds entry = some true)) = afterCursor cursor entry := by
  cases cursor with
  | none => rfl
  | some cursor =>
    rw [Bool.eq_iff_iff, ← cursor_holds]
    simp

theorem conditions_match (query : TaskQuery) (entry : TaskId × TaskRow) :
    ((sqlConditions query).all fun condition => decide (condition.holds entry = some true)) =
      queryMatches query entry := by
  simp only [sqlConditions, all_append, cursors_hold, queryMatches]
  congr 1
  · congr 1
    · congr 1
      cases query.category <;> simp [SqlCondition.holds]
    · cases query.correlationKey <;> simp [SqlCondition.holds]
  · have same := @mem_distinct_states entry.2.stateKind query.states
    have empty : distinctStates query.states = [] → query.states = [] := by
      intro none_
      apply eq_nil_iff_forall_not_mem.mpr
      intro state member
      rw [← mem_distinct_states, none_] at member
      cases member
    cases states : distinctStates query.states with
    | nil => simp [empty states]
    | cons first rest =>
      rw [states] at same
      have holds := @states_hold entry (first :: rest)
      have filled : query.states ≠ [] := by
        rintro none_
        rw [none_] at states
        cases states
      rw [Bool.eq_iff_iff]
      simp only [all_cons, all_nil, Bool.and_true, decide_eq_true_eq]
      rw [holds, same]
      simp [filled]

theorem ready_match (after : Option TaskCursor) (now : Nat) (entry : TaskId × TaskRow) :
    ((readyConditions after now).all fun condition =>
      decide (condition.holds entry = some true)) =
      (readyRow now entry.2 && afterCursor after entry) := by
  simp only [readyConditions, all_append, cursors_hold]
  congr 1
  have queued : SqlCondition.queued.holds entry = some true ↔ entry.2.stateKind = .queued := by
    simp only [SqlCondition.holds, sql_equal_true, Option.some.injEq, SqlValue.text.injEq]
    exact ⟨fun same => state_kind_text_injective same, fun same => congrArg stateKindText same⟩
  simp only [all_cons, queued, readyRow]
  congr 1
  cases until_ : entry.2.retryNotBeforeMs <;>
    simp [SqlCondition.holds, until_, sqlCompare, SqlValue.less]

theorem evaluate_selects {built : QuerySql} {pageSize : Nat} {conditions : List SqlCondition}
    {keep : TaskId × TaskRow → Bool} {condition : TaskSummary → Bool} (agree : database.RowsAgree)
    (read : textStatement built.params built.text =
      some { conditions := conditions, limit := some (.integer (pageSize + 1)) })
    (kept : ∀ entry, (conditions.all fun condition =>
      decide (condition.holds entry = some true)) = keep entry)
    (same : ∀ entry ∈ database.taskRows, keep entry = condition (entry.2.summary entry.1)) :
    database.evaluate built pageSize =
      .ok (pageFrom (inHistoryOrder (database.summaries.filter condition)) pageSize) := by
  rw [← selected_summaries agree keep condition same, ← decode_page_eq, evaluate, read]
  simp only [Option.bind_some, SqlStatement.run, kept]
  refine congrArg Except.ok ?_
  unfold decodePage pageFrom MemoryTaskStore.pageOf
  simp only [decide_eq_true_eq]

theorem cursor_fits {cursor : Option TaskCursor} (built : QuerySql)
    (representable : ∀ position ∈ cursor, position.acceptedAtMs < i64Bound) :
    (∃ next, built.addCursor cursor = .ok next) ∧
      ∃ next, built.addReadyCursor cursor = .ok next := by
  cases cursor with
  | none => exact ⟨⟨built, rfl⟩, built, rfl⟩
  | some position =>
    simp only [QuerySql.addCursor, QuerySql.addReadyCursor, bind_eq_ok, require_eq_ok]
    exact ⟨⟨_, (), representable position rfl, rfl⟩, _, (), representable position rfl, rfl⟩

theorem page_size_fits {limit : Nat} (few : limit ≤ maxTaskQueryLimit) :
    max limit 1 + 1 < i64Bound ∧ limit + 1 < i64Bound := by
  have : maxTaskQueryLimit + 2 < i64Bound := by decide
  omega

theorem list_encoded_built (agree : database.RowsAgree)
    (representable : ∀ cursor ∈ query.after, cursor.acceptedAtMs < i64Bound) :
    database.listEncodedBuilt query = query.checkedPageSize.map fun size =>
      pageFrom (historySelection database.summaries query) size := by
  unfold listEncodedBuilt TaskQuery.checkedPageSize
  split
  · rfl
  · rename_i few
    obtain ⟨⟨cursor, added⟩, -⟩ := cursor_fits
      { sql := [.select], params := [], hasPredicate := false } representable
    have made : ∃ built, buildEncodedHistoryQuery query (max query.limit 1) = .ok built := by
      simp only [buildEncodedHistoryQuery, bind_eq_ok, require_eq_ok]
      exact ⟨_, (), (page_size_fits (Nat.not_lt.mp few)).1, cursor, added, rfl⟩
    obtain ⟨built, made⟩ := made
    show (buildEncodedHistoryQuery query (max query.limit 1) >>= _) = _
    rw [made]
    refine evaluate_selects agree (build_history_reads made) (conditions_match query) ?_
    exact fun entry member => query_matches_eq (row_agrees agree member) query _

def Representable (after : Option TaskCursor) (now : Nat) : Prop :=
  now < i64Bound ∧ ∀ cursor ∈ after, cursor.acceptedAtMs < i64Bound

variable {after : Option TaskCursor} {limit now : Nat}

theorem list_ready_built (agree : database.RowsAgree)
    (representable : limit ≤ maxTaskQueryLimit → Representable after now) :
    database.listReadyBuilt after limit now =
      if limit > maxTaskQueryLimit then .error (.invalidRequest "ready task page limit exceeds 256")
      else .ok (pageFrom (readySelection database.summaries after now) limit) := by
  unfold listReadyBuilt require
  split <;> rename_i few
  · rw [if_neg (Nat.not_lt.mpr few)]
    obtain ⟨timely, cursors⟩ := representable few
    obtain ⟨-, cursor, added⟩ := cursor_fits
      { sql := [.select, .indexed, .lead false, .queued, .lead true, .due, .placeholder 1, .close]
        params := [.integer now]
        hasPredicate := true } cursors
    have made : ∃ built, buildReadyQuery after limit now = .ok built := by
      simp only [buildReadyQuery, bind_eq_ok, require_eq_ok]
      exact ⟨_, (), timely, (), (page_size_fits few).2, cursor, added, rfl⟩
    obtain ⟨built, made⟩ := made
    show (buildReadyQuery after limit now >>= _) = _
    rw [made]
    refine evaluate_selects agree (build_ready_reads made) (ready_match after now) ?_
    intro entry member
    rw [ready_row_eq (row_agrees agree member) now entry.1,
      after_cursor_eq (row_agrees agree member)]
  · rw [if_pos (Nat.lt_of_not_le few)]
    rfl

theorem list_ready_refused (few : limit ≤ maxTaskQueryLimit) (late : ¬ Representable after now) :
    ∃ message, database.listReadyBuilt after limit now = .error (.invalidRequest message) := by
  have room := (page_size_fits few).2
  by_cases timely : now < i64Bound
  · cases after with
    | none => exact absurd ⟨timely, fun _ absent => by cases absent⟩ late
    | some cursor =>
      have large : ¬ cursor.acceptedAtMs < i64Bound := fun fits =>
        late ⟨timely, fun other same => by cases same; exact fits⟩
      refine ⟨"task cursor timestamp is too large", ?_⟩
      simp only [listReadyBuilt, buildReadyQuery, QuerySql.addReadyCursor, require, few, timely,
        room, large, if_true, if_false]
      rfl
  · refine ⟨"task timestamp is too large", ?_⟩
    simp only [listReadyBuilt, buildReadyQuery, require, few, timely, if_true, if_false]
    rfl

end Evaluation

section Agreement

/-- A memory store and a database of agreeing rows with the same records. -/
structure Corresponds (store : MemoryTaskStore) (database : Database) : Prop where
  valid : store.Valid
  agree : database.RowsAgree
  same : ∀ id, store.getEncodedTask id = database.getEncodedTask id

variable {store : MemoryTaskStore} {database : Database}

theorem Corresponds.selections (corresponds : Corresponds store database)
    (condition : TaskSummary → Bool) :
    inHistoryOrder (database.summaries.filter condition) =
      inHistoryOrder (store.summaries.filter condition) := by
  have filled : ∀ summary : TaskSummary,
      (condition summary && afterPosition none summary) = condition summary :=
    fun summary => Bool.and_true _
  have ordered := fun items => selection_behind condition items none
  simp only [filled] at ordered
  rw [ordered, ordered]
  refine List.Pairwise.eq_of_mem_iff (behind_increasing ?_) (behind_increasing ?_) ?_
  · exact (filter_sublist.map _).nodup database.positions_distinct
  · exact (filter_sublist.map _).nodup (MemoryTaskStore.positions_distinct corresponds.valid)
  · intro summary
    rw [mem_behind, mem_behind, mem_filter, mem_filter, database.scans_summaries summary,
      MemoryTaskStore.scans_summaries corresponds.valid summary, corresponds.same]

/-- The built texts return the pages of the memory store, with every placeholder bound to the
value meant for it.  A time that does not fit a signed column is refused by SQLite only. -/
theorem built_queries_match_memory (store : MemoryTaskStore) (database : Database)
    (corresponds : Corresponds store database) :
    (∀ query : TaskQuery, (∀ cursor ∈ query.after, cursor.acceptedAtMs < i64Bound) →
      database.listEncodedBuilt query = store.listEncoded query) ∧
    (∀ query pageSize built, buildEncodedHistoryQuery query pageSize = .ok built →
      textStatement built.params built.text =
        some { conditions := sqlConditions query, limit := some (.integer (pageSize + 1)) }) ∧
    (∀ after limit now, (limit ≤ maxTaskQueryLimit → Representable after now) →
      database.listReadyBuilt after limit now = store.listReadyQueued after limit now) ∧
    (∀ after limit now, limit ≤ maxTaskQueryLimit → ¬ Representable after now →
      (∃ message, database.listReadyBuilt after limit now = .error (.invalidRequest message)) ∧
        ∃ page, store.listReadyQueued after limit now = .ok page) ∧
    (∀ after limit now built, buildReadyQuery after limit now = .ok built →
      textStatement built.params built.text =
        some { conditions := readyConditions after now
               limit := some (.integer (limit + 1)) }) := by
  refine ⟨?_, fun _ _ _ => build_history_reads, ?_, fun _ _ _ few late =>
    ⟨list_ready_refused few late, _, if_neg (Nat.not_lt.mpr few)⟩, fun _ _ _ _ => build_ready_reads⟩
  · intro query representable
    rw [list_encoded_built corresponds.agree representable,
      MemoryTaskStore.list_encoded_selects corresponds.valid]
    simp only [historySelection, corresponds.selections]
  · intro after limit now representable
    rw [list_ready_built corresponds.agree representable]
    simp only [readySelection, corresponds.selections]
    rfl

def sampleRows : Database :=
  Database.empty.putRow { value := 1 } (Database.acceptedRow (sampleStored none []) 5)

theorem sample_corresponds : Corresponds (MemoryTaskStore.samplePaged [1]) sampleRows where
  valid := MemoryTaskStore.sample_paged_valid [1]
  agree id row found := by
    rw [sampleRows, putRow, Table.lookup_insert_eq] at found
    split_ifs at found
    · cases found
      exact accepted_row_agrees _ _
    · cases found
  same id := by
    by_cases first : id = { value := 1 }
    · subst first
      rfl
    · have absent : sampleRows.tasks.lookup id = none :=
        (Table.lookup_insert_eq ..).trans (if_neg first)
      rw [getEncodedTask, absent]
      exact (Table.lookup_insert_eq ..).trans (if_neg first)

theorem built_queries_match_memory_sample :
    sampleRows.listEncodedBuilt
      { states := [.running, .queued, .queued], category := none, correlationKey := none,
        after := some { acceptedAtMs := 5, id := { value := 0 } }, limit := 1 } =
      .ok { records := MemoryTaskStore.samplePage 1, next := none } :=
  (built_queries_match_memory _ _ sample_corresponds).1 _ (by
    rintro cursor same
    cases same
    decide)

/-- Without any task, at the first time that is no signed integer. -/
theorem ready_listing_differs :
    Corresponds (MemoryTaskStore.withLimits 4 64 4) Database.empty ∧
      Database.listReadyBuilt Database.empty none 1 i64Bound =
        .error (.invalidRequest "task timestamp is too large") ∧
      MemoryTaskStore.listReadyQueued (MemoryTaskStore.withLimits 4 64 4) none 1 i64Bound =
        .ok { records := [], next := none } := by
  refine ⟨⟨with_limits_valid 4 64 4, ?_, fun _ => rfl⟩, rfl, rfl⟩
  intro id row found
  cases found

end Agreement

end TaskService.Store
