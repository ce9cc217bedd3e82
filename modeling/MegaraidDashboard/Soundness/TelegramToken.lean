import MegaraidDashboard.Model.Alerts.Telegram
import MegaraidDashboard.Soundness.Inventory
import MegaraidDashboard.Soundness.RelevanceDetails
import MegaraidDashboard.Soundness.TelegramDelivery

/-! # The token stays secret

No error of the transport shows the token, whatever the provider answers, and nothing else that a cycle stores with a
delivery can hold it. A provider that answers 429 always makes the channel wait.
-/

namespace MegaraidDashboard.Alerts

open Db Machine Services Storcli JsonText

/-! ## Tokens -/

/-- The text shows the token. -/
def Leaks (token text : String) : Prop := token.toList <:+: text.toList

namespace TelegramConfig

variable (config : TelegramConfig)

/-- A token is digits, a colon and a secret. -/
theorem token_split : ∃ digits secret, config.token.toList = digits ++ ':' :: secret ∧ digits ≠ [] ∧ secret ≠ [] ∧
    (∀ c ∈ digits, c.isDigit = true) ∧ ∀ c ∈ secret, isSecretChar c = true := by
  have valid := config.valid
  rw [tokenPattern] at valid
  have whole : [':'].intercalate (config.token.toList.splitOn ':') = config.token.toList := List.intercalate_splitOn ':'
  generalize config.token.toList.splitOn ':' = words at valid whole
  split at valid
  · next digits secret =>
    simp only [Bool.and_eq_true, decide_eq_true_eq, List.all_eq_true] at valid
    obtain ⟨⟨⟨⟨⟨long, -⟩, numeric⟩, wide⟩, -⟩, plain⟩ := valid
    refine ⟨digits, secret, ?_, ?_, ?_, numeric, plain⟩
    · rw [← whole, List.intercalate_cons_cons, List.intercalate_singleton, List.append_assoc]
      rfl
    · rintro rfl
      exact absurd long (by decide)
    · rintro rfl
      exact absurd wide (by decide)
  · cases valid

theorem colon_mem : ':' ∈ config.token.toList := by
  obtain ⟨digits, secret, split, -⟩ := config.token_split
  rw [split]
  exact List.mem_append_right _ List.mem_cons_self

theorem digit_mem : ∃ c ∈ config.token.toList, c.isDigit = true := by
  obtain ⟨digits, secret, split, some_, -, numeric, -⟩ := config.token_split
  obtain ⟨c, rest, rfl⟩ := List.exists_cons_of_ne_nil some_
  exact ⟨c, split ▸ List.mem_append_left _ List.mem_cons_self, numeric c List.mem_cons_self⟩

/-- Blanks and brackets are no characters of a token. -/
theorem not_mem_token {c : Char} (special : c ∈ [' ', '[', ']']) : c ∉ config.token.toList := by
  obtain ⟨digits, secret, split, -, -, numeric, plain⟩ := config.token_split
  have foreign : ∀ c ∈ [' ', '[', ']'], c.isDigit = false ∧ c ≠ ':' ∧ isSecretChar c = false := by decide
  obtain ⟨notDigit, notColon, notSecret⟩ := foreign c special
  rw [split]
  intro inside
  rcases List.mem_append.mp inside with digit | inside
  · exact absurd (numeric c digit) (by rw [notDigit]; decide)
  · rcases List.mem_cons.mp inside with colon | secret
    · exact notColon colon
    · exact absurd (plain c secret) (by rw [notSecret]; decide)

theorem not_infix_of_not_mem {text : List Char} (plain : ':' ∉ text) : ¬config.token.toList <:+: text :=
  fun inside => plain (inside.subset config.colon_mem)

/-- A label in front of a colon shows no token. -/
theorem not_infix_label {label : List Char} (plain : ':' ∉ label) : ¬config.token.toList <:+: label ++ [':'] := by
  intro inside
  rcases List.infix_concat_iff.mp inside with ends | inside
  · obtain ⟨digits, secret, split, -, some_, -, secretChars⟩ := config.token_split
    obtain ⟨before, same⟩ := ends
    obtain ⟨front, last, rfl⟩ := List.eq_nil_or_concat secret |>.resolve_left some_
    rw [split, List.concat_eq_append, ← List.cons_append, ← List.append_assoc, ← List.append_assoc] at same
    have last_eq := List.append_inj_right' same rfl
    obtain ⟨rfl, -⟩ := List.cons_eq_cons.mp last_eq
    exact absurd (secretChars ':' (by simp)) (by decide)
  · exact config.not_infix_of_not_mem plain inside

theorem not_leaks_redact (value : String) : ¬Leaks config.token (config.redact value) := by
  have some_ : config.token.toList ≠ [] := List.ne_nil_of_mem config.colon_mem
  have begins : '[' ∉ config.token.toList := config.not_mem_token (by decide)
  have ends : ']' ∉ config.token.toList := config.not_mem_token (by decide)
  have other : ¬config.token.toList <:+: "[redacted".toList := config.not_infix_of_not_mem (by decide)
  rw [Leaks, redact, String.toList_ofList]
  exact List.not_infix_replaceAll some_ begins ends other value.toList

/-! ## Errors -/

theorem not_leaks_http (statusCode : ℕ) {description : String} (clean : ¬Leaks config.token description) :
    ¬Leaks config.token ("HTTP " ++ toString statusCode ++ ": " ++ description) := by
  have blank : ' ' ∉ config.token.toList := config.not_mem_token (by decide)
  have shape : ("HTTP " ++ toString statusCode ++ ": " ++ description).toList = "HTTP".toList ++ ' ' ::
      (((toString statusCode).toList ++ [':']) ++ ' ' :: description.toList) := by
    simp only [String.toList_append, List.append_assoc]
    rfl
  rw [Leaks, shape]
  intro inside
  rcases List.infix_of_infix_cut blank inside with word | inside
  · exact config.not_infix_of_not_mem (by decide) word
  · rcases List.infix_of_infix_cut blank inside with label | inside
    · exact config.not_infix_label (Nat.notMem_toString (by decide) statusCode) label
    · exact clean inside

theorem not_leaks_network (type : ClassName) : ¬Leaks config.token ("network error: " ++ type.text) := by
  have blank : ' ' ∉ config.token.toList := config.not_mem_token (by decide)
  have shape : ("network error: " ++ type.text).toList = "network".toList ++ ' ' ::
      (("error".toList ++ [':']) ++ ' ' :: type.text.toList) := by
    rw [String.toList_append]
    rfl
  rw [Leaks, shape]
  intro inside
  rcases List.infix_of_infix_cut blank inside with word | inside
  · exact config.not_infix_of_not_mem (by decide) word
  · rcases List.infix_of_infix_cut blank inside with label | inside
    · exact config.not_infix_label (by decide) label
    · exact config.not_infix_of_not_mem type.identifier inside

/-- No error of a send shows the token. -/
theorem not_leaks_sendAsync [PyText] [PyNumbers] {exchange : Exchange} {error : TelegramSendError}
    (failed : config.sendAsync exchange = .error error) : ¬Leaks config.token error.reason := by
  cases exchange with
  | response statusCode body =>
    rw [sendAsync, raiseForResponse] at failed
    generalize (((jsonBody body).get "description").filter Storcli.truthy).elim "" Storcli.pyStr = said at failed
    have clean : ¬Leaks config.token
        (String.ofList ((config.redact said).toList.take errorDescriptionMaxLength)) := by
      rw [Leaks, String.toList_ofList]
      exact fun inside => config.not_leaks_redact said (inside.trans (List.take_prefix _ _).isInfix)
    split_ifs at failed
    · obtain rfl := Except.error.inj failed
      have plain : ':' ∉ "rate limited".toList := by decide
      exact config.not_infix_of_not_mem plain
    · obtain rfl := Except.error.inj failed
      exact config.not_leaks_http statusCode clean
    · obtain rfl := Except.error.inj failed
      have plain : ':' ∉ ("HTTP " ++ toString statusCode).toList := by
        rw [String.toList_append, List.mem_append, not_or]
        exact ⟨by decide, Nat.notMem_toString (by decide) statusCode⟩
      exact config.not_infix_of_not_mem plain
  | readError statusCode error =>
    obtain rfl := Except.error.inj failed
    have plain : ':' ∉ error.reason.toList := by cases error <;> decide
    exact config.not_infix_of_not_mem plain
  | timeout statusCode =>
    obtain rfl := Except.error.inj failed
    have plain : ':' ∉ "timeout".toList := by decide
    exact config.not_infix_of_not_mem plain
  | raised statusCode type =>
    obtain rfl := Except.error.inj failed
    exact config.not_leaks_network type

end TelegramConfig

/-! ## Runs -/

/-- The details that the cycle writes of its own. -/
def cycleDetails : List String :=
  ["awaiting_confirmation", "not_confirmed", "obsolete", "duplicate", "channel_deferred",
    "outcome unknown: interrupted or failed send", "awaiting_fresh_data"] ++ objectDetails

theorem not_digit_mem_cycleDetails : ∀ detail ∈ cycleDetails, ∀ c ∈ detail.toList, c.isDigit = false := by decide

/-- No delivery shows the token. -/
def Secret (token : String) (db : Database) : Prop :=
  ∀ id row, db.deliveries.lookup id = some row → ∀ detail, row.detail = some detail → ¬Leaks token detail

/-- The errors are the ones of the transport, and the other services write no delivery. -/
def TelegramConfig.Answers [PyText] [PyNumbers] (config : TelegramConfig) (run : TelegramRun) : TelegramStep → Prop
  | .refuse reason hint _ => ∃ exchange, config.sendAsync exchange = .error (.make reason hint)
  | .others db => ∀ id row, db.deliveries.lookup id = some row → run.db.deliveries.lookup id = some row
  | _ => True

section Details

variable [PyText] {settings : Settings} {db : Database} {event : Event} {detail : String} {now : ℤ}

theorem defer_mem_cycleDetails {blocked : Bool} {nextAttemptAt : ℤ}
    (decided : candidateDecision settings db event blocked now = .defer detail nextAttemptAt) :
    detail ∈ cycleDetails := by
  cases decides_candidate decided with
  | unconfirmed _ _ => decide
  | awaiting _ waits =>
    have subset : "awaiting_fresh_data" :: objectDetails ⊆ cycleDetails := by decide
    exact subset (awaiting_mem_details waits)
  | deferred => decide

theorem skip_mem_cycleDetails {blocked : Bool}
    (decided : candidateDecision settings db event blocked now = .skip detail) : detail ∈ cycleDetails := by
  have subset : skipDetails ⊆ cycleDetails := by decide
  exact subset (candidateDecision_skip decided)

end Details

/-! ### Rows -/

namespace Secret

variable {token : String} {db : Database} (secret : Secret token db)

include secret

theorem write (id : ℕ) {row : EventDelivery} (clean : ∀ detail, row.detail = some detail → ¬Leaks token detail) :
    Secret token (writeDelivery db id row) := by
  intro key stored found
  by_cases same : key = id
  · subst same
    rw [writeDelivery, AList.lookup_insert, Option.some.injEq] at found
    exact found ▸ clean
  · rw [writeDelivery, AList.lookup_insert_ne same] at found
    exact secret key stored found

theorem write_some (id : ℕ) {row : EventDelivery} {written : String} (detail : row.detail = some written)
    (clean : ¬Leaks token written) : Secret token (writeDelivery db id row) := by
  refine secret.write id fun text found => ?_
  obtain rfl := Option.some.inj (detail.symm.trans found)
  exact clean

theorem write_none (id : ℕ) {row : EventDelivery} (detail : row.detail = none) : Secret token (writeDelivery db id row) :=
  secret.write id fun text found => by cases detail.symm.trans found

/-- The repair moves deadlines only. -/
theorem repair (now : ℤ) : Secret token (repairDeadlines db now) := by
  intro id row found detail shown
  rw [repairDeadlines, AList.lookup_mapRows, Option.map_eq_some_iff] at found
  obtain ⟨old, stored, rfl⟩ := found
  refine secret id old stored detail ?_
  split at shown <;> exact shown

end Secret

namespace TelegramConfig

variable [PyText] [PyNumbers] {config : TelegramConfig} {run : TelegramRun}

omit [PyText] [PyNumbers] in
theorem not_leaks_cycleDetails {detail : String} (listed : detail ∈ cycleDetails) : ¬Leaks config.token detail := by
  intro inside
  obtain ⟨c, member, digit⟩ := config.digit_mem
  exact absurd digit (by rw [not_digit_mem_cycleDetails detail listed c (inside.subset member)]; decide)

omit [PyNumbers] in
theorem secret_decideCandidate (secret : Secret config.token run.db) (cycle : TelegramCycle) (event : Event)
    (todo : List Event) : Secret config.token (run.decideCandidate cycle event todo).db := by
  unfold TelegramRun.decideCandidate
  split
  · next decided =>
    exact secret.write_some event.id rfl (not_leaks_cycleDetails (defer_mem_cycleDetails decided))
  · next decided =>
    exact secret.write_some event.id rfl (not_leaks_cycleDetails (skip_mem_cycleDetails decided))
  · exact secret
  · exact secret.write_none event.id rfl

/-- One step stores no token. -/
theorem secret_step (secret : Secret config.token run.db) (label : TelegramStep) (answers : config.Answers run label) :
    Secret config.token (run.step label).db := by
  unfold TelegramRun.step
  cases label with
  | start settings now => cases run.phase with
    | idle => exact secret.repair now
    | _ => exact secret
  | visit now => cases run.phase with
    | visiting cycle todo => cases todo with
      | nil => exact secret
      | cons event todo =>
        dsimp only
        split_ifs
        · exact secret.write_some event.id rfl (not_leaks_cycleDetails (by decide))
        · exact secret
    | _ => exact secret
  | decide => cases run.phase with
    | deciding cycle event todo => exact secret_decideCandidate secret cycle event todo
    | _ => exact secret
  | refuse reason hint failedAt => cases run.phase with
    | sending cycle event todo =>
      obtain ⟨exchange, failed⟩ := answers
      exact secret.write_some event.id rfl (config.not_leaks_sendAsync failed)
    | _ => exact secret
  | commitSent => cases run.phase with
    | accepted cycle event todo => exact secret.write_none event.id rfl
    | _ => exact secret
  | others db =>
    intro id row found
    exact secret id row (answers id row found)
  | accept => cases run.phase <;> exact secret
  | raised => cases run.phase <;> exact secret
  | finish => cases run.phase with
    | visiting cycle todo => cases todo <;> exact secret
    | _ => exact secret
  | crash => exact secret

/-- Whatever the provider answers, no error of the transport shows the token, and over any run with crashes anywhere no
stored delivery does. -/
theorem token_stays_secret (db : Database) (clock : ℤ) (secret : Secret config.token db) (labels : List TelegramStep)
    (answers : Guarded TelegramRun.step config.Answers (.initial db clock) labels) :
    (∀ exchange error, config.sendAsync exchange = .error error → ¬Leaks config.token error.reason) ∧
      Secret config.token (labels.foldl TelegramRun.step (.initial db clock)).db := by
  refine ⟨fun exchange error failed => config.not_leaks_sendAsync failed, ?_⟩
  exact @Guarded.invariant _ _ _ _ (fun run : TelegramRun => Secret config.token run.db) _ _ answers secret
    fun run label kept admitted => secret_step kept label admitted

end TelegramConfig

def exampleConfig : TelegramConfig where
  chatId := "4711"
  token := "12345:abcdefghijklmnopqrstuvwxyz0123"
  valid := by decide

/-- A midnight of the year 2024. -/
def outageAt : ℤ := 739000 * Timestamp.day

def monitoringOutage : Database :=
  Database.empty.insertEvent outageAt .critical .system .controller "Monitoring stale" none
    (some [("monitoring_outage", .bool true)]) none

/-- A send that finds no provider. -/
theorem token_stays_secret_unreachable :
    let _ := PyText.ascii
    let _ := Inventory.plainNumbers
    let labels : List TelegramStep := [.start .default outageAt, .visit outageAt, .decide,
      .refuse "network error: ConnectError" none outageAt]
    Secret exampleConfig.token (labels.foldl TelegramRun.step (.initial monitoringOutage outageAt)).db := by
  let _ := PyText.ascii
  let _ := Inventory.plainNumbers
  have failed : exampleConfig.sendAsync (.raised none ⟨"ConnectError", by decide⟩) =
      .error (.make "network error: ConnectError" none) := rfl
  have fresh : Secret exampleConfig.token monitoringOutage := fun id row found =>
    absurd found.symm (Option.some_ne_none row)
  have answers : Guarded TelegramRun.step exampleConfig.Answers (.initial monitoringOutage outageAt)
      [.start .default outageAt, .visit outageAt, .decide, .refuse "network error: ConnectError" none outageAt] :=
    ⟨trivial, trivial, trivial, ⟨_, failed⟩, trivial⟩
  exact (TelegramConfig.token_stays_secret _ outageAt fresh _ answers).2

/-! ## Rate limits -/

/-- How long a provider that answered 429 wants to be left alone: as long as it says, up to an hour, and a minute when it
says nothing usable. -/
def Exchange.waitSeconds : Exchange → ℤ
  | response _ body => ((retryAfterSeconds (jsonBody body)).map (min · telegramRetryAfterMaxSeconds)).getD 60
  | _ => 60

theorem retryAfterSeconds_pos {body : Fields} {seconds : ℤ} (hint : retryAfterSeconds body = some seconds) :
    0 < seconds := by
  unfold retryAfterSeconds at hint
  split at hint
  · split at hint
    · split_ifs at hint with positive
      exact Option.some.inj hint ▸ positive
    · cases hint
  · cases hint

theorem Exchange.waitSeconds_bounds (exchange : Exchange) :
    1 ≤ exchange.waitSeconds ∧ exchange.waitSeconds ≤ telegramRetryAfterMaxSeconds := by
  cases exchange with
  | response statusCode body =>
    rw [waitSeconds]
    cases hint : retryAfterSeconds (jsonBody body) with
    | none => decide
    | some seconds =>
      have positive := retryAfterSeconds_pos hint
      rw [Option.map_some, Option.getD_some]
      exact ⟨le_min (by omega) (by decide), min_le_right _ _⟩
  | _ =>
    have minute : (1 : ℤ) ≤ 60 ∧ (60 : ℤ) ≤ telegramRetryAfterMaxSeconds := by decide
    exact minute

section RateLimit

variable [PyText] [PyNumbers] (config : TelegramConfig) {exchange : Exchange}

omit [PyText] in
/-- However the exchange ended, the error of a 429 carries the wait. -/
theorem TelegramConfig.retryAfter_of_rate_limited (limited : exchange.statusCode = some 429)
    {error : TelegramSendError} (failed : config.sendAsync exchange = .error error) :
    error.retryAfterSeconds = some exchange.waitSeconds := by
  cases exchange with
  | response statusCode body =>
    obtain rfl : statusCode = 429 := Option.some.inj limited
    have wait : config.sendAsync (.response 429 body) =
        .error (.make "rate limited" (some ((retryAfterSeconds (jsonBody body)).getD 60))) := by
      rw [sendAsync, raiseForResponse]
      simp only [Nat.reduceEqDiff, false_and, ↓reduceIte]
    obtain rfl := Except.error.inj (wait.symm.trans failed)
    rw [TelegramSendError.make, Exchange.waitSeconds]
    cases hint : retryAfterSeconds (jsonBody body) with
    | none => rfl
    | some seconds =>
      rw [Option.getD_some, boundedRetryAfter, if_pos (retryAfterSeconds_pos hint), Option.map_some, Option.getD_some]
  | readError statusCode error =>
    obtain rfl := Except.error.inj failed
    have answered : statusCode = some 429 := limited
    rw [sendError, if_pos answered]
    rfl
  | timeout statusCode =>
    obtain rfl := Except.error.inj failed
    have answered : statusCode = some 429 := limited
    rw [sendError, if_pos answered]
    rfl
  | raised statusCode type =>
    obtain rfl := Except.error.inj failed
    have answered : statusCode = some 429 := limited
    rw [sendError, if_pos answered]
    rfl

end RateLimit

/-- The cycles start after the failure and before the deadline, and the other services leave the cooldown alone. -/
def Waits (failedAt deadline : ℤ) (run : TelegramRun) : TelegramStep → Prop
  | .start _ now => failedAt ≤ now ∧ now < deadline
  | .others db => db.telegramNotBefore = run.db.telegramNotBefore
  | _ => True

/-- The running cycle sends nothing more. -/
def Blocked : CyclePhase → Prop
  | .idle => True
  | .visiting cycle _ | .deciding cycle _ _ => cycle.channelBlocked = true
  | .sending .. | .accepted .. => False

/-- The channel waits for the deadline. -/
structure Quiet (deadline : ℤ) (run : TelegramRun) : Prop where
  cooldown : run.db.telegramNotBefore = some deadline
  blocked : Blocked run.phase

namespace Quiet

variable [PyText] {failedAt deadline : ℤ} {run : TelegramRun} (quiet : Quiet deadline run)

include quiet

omit [PyText] in
theorem not_sending (cycle : TelegramCycle) (event : Event) (todo : List Event) :
    run.phase ≠ .sending cycle event todo := by
  intro sending
  have blocked := quiet.blocked
  rw [sending] at blocked
  exact blocked

theorem start (settings : Settings) {now : ℤ} (bounded : deadline ≤ latestRetry failedAt) (later : failedAt ≤ now)
    (early : now < deadline) : Quiet deadline (run.step (.start settings now)) := by
  unfold TelegramRun.step
  cases phase : run.phase with
  | idle =>
    have kept : (repairDeadlines run.db now).telegramNotBefore = some deadline := by
      have unmoved : ¬latestRetry now < deadline := by
        unfold latestRetry at bounded ⊢
        omega
      rw [repairDeadlines, quiet.cooldown, Option.map_some, clampDeadline, if_neg unmoved]
    refine ⟨kept, ?_⟩
    change ((repairDeadlines run.db now).telegramNotBefore.any fun cooldown => decide (now < cooldown)) = true
    rw [kept]
    exact decide_eq_true early
  | _ => exact quiet

theorem decideCandidate {cycle : TelegramCycle} {event : Event} {todo : List Event}
    (phase : run.phase = .deciding cycle event todo) : Quiet deadline (run.decideCandidate cycle event todo) := by
  have blocked := quiet.blocked
  rw [phase] at blocked
  unfold TelegramRun.decideCandidate
  split
  · exact ⟨quiet.cooldown, blocked⟩
  · exact ⟨quiet.cooldown, blocked⟩
  · exact ⟨quiet.cooldown, trivial⟩
  · next decided =>
    have free := candidateDecision_send decided
    rw [show cycle.channelBlocked = true from blocked, Bool.true_or] at free
    cases free

theorem step (bounded : deadline ≤ latestRetry failedAt) (label : TelegramStep) (waits : Waits failedAt deadline run label) :
    Quiet deadline (run.step label) := by
  have blocked := quiet.blocked
  cases label with
  | start settings now => exact quiet.start settings bounded waits.1 waits.2
  | decide =>
    unfold TelegramRun.step
    cases phase : run.phase with
    | deciding cycle event todo => exact quiet.decideCandidate phase
    | _ => exact quiet
  | visit now =>
    unfold TelegramRun.step
    cases phase : run.phase with
    | visiting cycle todo => cases todo with
      | nil => exact quiet
      | cons event todo =>
        rw [phase] at blocked
        refine ⟨?_, blocked⟩
        dsimp only
        split_ifs
        · exact quiet.cooldown
        · exact quiet.cooldown
    | _ => exact quiet
  | others db => exact ⟨waits.trans quiet.cooldown, blocked⟩
  | crash => exact ⟨quiet.cooldown, trivial⟩
  | finish =>
    unfold TelegramRun.step
    cases phase : run.phase with
    | visiting cycle todo => cases todo with
      | nil => exact ⟨quiet.cooldown, trivial⟩
      | cons event todo => exact quiet
    | _ => exact quiet
  | accept | refuse | raised =>
    unfold TelegramRun.step
    cases phase : run.phase with
    | sending cycle event todo => exact absurd phase (quiet.not_sending cycle event todo)
    | _ => exact quiet
  | commitSent =>
    unfold TelegramRun.step
    cases phase : run.phase with
    | accepted cycle event todo =>
      rw [phase] at blocked
      exact blocked.elim
    | _ => exact quiet

end Quiet

/-- A provider that answered a message with 429 gets no other one while it wants to be left alone, whatever the error
looked like, over any continuation with crashes anywhere. -/
theorem rate_limited_quiet [PyText] [PyNumbers] (config : TelegramConfig) (exchange : Exchange)
    (limited : exchange.statusCode = some 429) (reason : String) (hint : Option ℤ)
    (failed : config.sendAsync exchange = .error (.make reason hint)) (run : TelegramRun) (cycle : TelegramCycle)
    (event : Event) (todo : List Event) (sending : run.phase = .sending cycle event todo) (failedAt : ℤ)
    (labels : List TelegramStep)
    (waits : Guarded TelegramRun.step (Waits failedAt (failedAt + exchange.waitSeconds * Timestamp.second))
      (run.step (.refuse reason hint failedAt)) labels) :
    ∀ cycle event todo,
      (labels.foldl TelegramRun.step (run.step (.refuse reason hint failedAt))).phase ≠ .sending cycle event todo := by
  have wait : boundedRetryAfter hint = some exchange.waitSeconds := config.retryAfter_of_rate_limited limited failed
  have bounded : failedAt + exchange.waitSeconds * Timestamp.second ≤ latestRetry failedAt := by
    have most := exchange.waitSeconds_bounds.2
    have unit : (0 : ℤ) ≤ Timestamp.second := by decide
    exact Int.add_le_add_left (Int.mul_le_mul_of_nonneg_right most unit) failedAt
  have start : Quiet (failedAt + exchange.waitSeconds * Timestamp.second) (run.step (.refuse reason hint failedAt)) := by
    unfold TelegramRun.step
    rw [sending]
    exact ⟨by simp only [recordSendFailure, wait], rfl⟩
  have quiet := waits.invariant start fun run label kept admitted => kept.step bounded label admitted
  exact quiet.not_sending

/-- A 429 without a body, a crash, and a cycle 59 seconds later. -/
theorem rate_limited_quiet_timeout :
    let _ := PyText.ascii
    let _ := Inventory.plainNumbers
    let event : Event := ⟨1, outageAt, .critical, .system, .controller, "Monitoring stale", none, none, none, none⟩
    let run : TelegramRun :=
      ⟨monitoringOutage, .sending ⟨.default, outageAt, outageAt, false, 4⟩ event [], outageAt, [1], [], []⟩
    let labels : List TelegramStep := [.crash, .start .default (outageAt + 59 * Timestamp.second)]
    ∀ cycle event todo, (labels.foldl TelegramRun.step (run.step (.refuse "timeout" (some 60) outageAt))).phase ≠
      .sending cycle event todo := by
  let _ := PyText.ascii
  let _ := Inventory.plainNumbers
  have failed : exampleConfig.sendAsync (.timeout (some 429)) = .error (.make "timeout" (some 60)) := rfl
  exact rate_limited_quiet exampleConfig (.timeout (some 429)) rfl _ _ failed _ _ _ _ rfl outageAt _
    ⟨trivial, ⟨by decide, by decide⟩, trivial⟩

end MegaraidDashboard.Alerts
