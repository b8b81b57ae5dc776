import OpmuxGateway.Construction.Executor.Budget

/-
This file gives the bounded attempts, the hops, and the fallbacks of one execution.
-/

namespace Opmux.Executor
open Circuit (CircuitPermit CompletionOutcome)

abbrev Outcome := Except ExecutorError ExecutionResult

def deadlineExceeded : Effect ExecutorError := do
  record .deadlineExceeded
  return .deadlineExceeded

def observeTerminal (error : ExecutorError) : Effect ExecutorError :=
  match error with
  | .deadlineExceeded => do
      record .deadlineExceeded
      return error
  | _ => return error

def recordSuccess (targetId : String) (result : ExecutionResult) : Effect Unit :=
  record (.successfulUsage targetId result.promptTokens result.completionTokens)

/-- The request ends when a provider minimum cannot finish in the remaining time. -/
def terminateForProviderMinimum (error : ExecutorError) (deadline : RequestDeadline) :
    Effect (Option ExecutorError) := do
  let now ← readClock .isExpired
  if deadline.isExpired now then return some .deadlineExceeded
  else
    match error with
    | .rateLimitExceeded _ (some ms) => do
        let now ← readClock .remaining
        if providerMinimumCannotFit (some (Duration.fromMillis ms)) (deadline.remaining now) then
          return some error
        else return none
    | _ => return none

/-- The last check before a call belongs to the retry wait. -/
def checkAfterWait (deadline : RequestDeadline) : Effect (Option ExecutorError) := do
  let now ← readClock .isExpired
  if deadline.isExpired now then return some (← deadlineExceeded) else return none

/-- A provider minimum that cannot fit returns the throttling error of the last attempt. -/
def throttledError (plan : RoutePlan) (lastError : Option ExecutorError)
    (retryAfter : Duration) : ExecutorError :=
  match lastError with
  | some (.rateLimitExceeded vendor retryAfterMs) => .rateLimitExceeded vendor retryAfterMs
  | _ => .rateLimitExceeded plan.vendorId (some (durationMs retryAfter))

/-- A retry waits for its planned delay, and this wait may end the request. -/
def waitBeforeRetry (config : ExecutorConfig) (plan : RoutePlan) (deadline : RequestDeadline)
    (attempt : Nat) (lastError : Option ExecutorError) (retryAfterMs : Option Nat) :
    Effect (Option ExecutorError) := do
  let planned ← planRetryDelay attempt (Duration.fromMillis config.backoffCapMs)
    (retryAfterMs.map Duration.fromMillis)
  let now ← readClock .remaining
  match evaluateRetryDelay planned (deadline.remaining now) with
  | .ok wait =>
      if wait = 0 then checkAfterWait deadline
      else do
        match ← Program.request (Request.sleep deadline.deadline wait) with
        | some .ready => checkAfterWait deadline
        | some .elapsed => return some (← deadlineExceeded)
        | none => Program.halt
  | .error (.providerDelayCannotFit retryAfter) =>
      return some (throttledError plan lastError retryAfter)
  | .error .deadlineExceeded => return some (← deadlineExceeded)

/-- One pass of the attempt loop finishes the hop, stops it, or fails with a retryable error. -/
inductive AttemptStep where
  | finished (outcome : Outcome)
  | stopped
  | failed (error : ExecutorError)

/-- An elapsed call fails with its observed error or with the attempt timeout. -/
def callOutcome (reply : CallReply) (attemptTimeout : Duration) : Outcome :=
  match reply with
  | .ready outcome => outcome
  | .elapsed (some observed) => .error observed
  | .elapsed none => .error (.timeoutError (Duration.asMillis attemptTimeout % 2 ^ 64))

/-- The metric outcome of an examined call. -/
def examinedOutcome (reply : CallReply) : AttemptOutcome :=
  match reply with
  | .ready (.ok _) => .success
  | .ready (.error error) | .elapsed (some error) => attemptOutcome error
  | .elapsed none => .timeout

/-- A started attempt that is dropped records its outcome once. -/
def dropStartedAttempt (plan : RoutePlan) (deadline : RequestDeadline) : Effect AttemptStep := do
  let now ← readClock .isExpired
  record (.attempt plan.targetId (if deadline.isExpired now then .deadline else .cancelled))
  Program.halt

/-- A retryable error fails the attempt unless the request ends here. -/
def continueAfterError (deadline : RequestDeadline) (error : ExecutorError) :
    Effect AttemptStep := do
  if isRetryableError error then
    match ← terminateForProviderMinimum error deadline with
    | some terminal => return .finished (.error (← observeTerminal terminal))
    | none => return .failed error
  else return .finished (.error error)

/-- The actual expiry of the deadline wins over every ready outcome. -/
def examineCall (plan : RoutePlan) (deadline : RequestDeadline) (attemptTimeout : Duration)
    (reply : CallReply) : Effect AttemptStep := do
  let now ← readClock .isExpired
  if deadline.isExpired now then do
    record (.attempt plan.targetId .deadline)
    return .finished (.error (← deadlineExceeded))
  else do
    record (.attempt plan.targetId (examinedOutcome reply))
    match callOutcome reply attemptTimeout with
    | .ok result => do
        recordSuccess plan.targetId result
        return .finished (.ok result)
    | .error error => continueAfterError deadline error

def recordRetry (plan : RoutePlan) (attempt : Nat) : Effect Unit :=
  if 0 < attempt then record (.retry plan.targetId) else return ()

/-- A started attempt calls the provider until its cutoff. -/
def startAttempt (config : ExecutorConfig) (plan : RoutePlan) (params : ExecutionParams)
    (deadline : RequestDeadline) (attempt : Nat) (budget : AttemptBudget) :
    Effect (AttemptStep × AttemptBudget) := do
  let now ← readClock .attemptCutoff
  match deadline.attemptCutoff (Duration.fromMillis config.timeoutMs) now with
  | none => return (.finished (.error (← deadlineExceeded)), budget)
  | some cutoff =>
      match budget.tryStart with
      | none => return (.stopped, budget)
      | some budget => do
          recordRetry plan attempt
          let now ← readClock .attemptTimeout
          match ← Program.request (Request.call plan params cutoff) with
          | none => return (← dropStartedAttempt plan deadline, budget)
          | some reply => return (← examineCall plan deadline (cutoff - now) reply, budget)

def exhausted (lastError : Option ExecutorError) : Outcome :=
  .error (lastError.getD (.apiCallFailed "Max retries exceeded"))

/-- The error of the last attempt may carry a provider delay. -/
def retryAfterOf : ExecutorError → Option Nat
  | .rateLimitExceeded _ (some ms) => some ms
  | _ => none

/-- The wait block runs before every attempt but the first one. -/
def prepareAttempt (config : ExecutorConfig) (plan : RoutePlan) (deadline : RequestDeadline)
    (attempt : Nat) (lastError : Option ExecutorError) (retryAfterMs : Option Nat) :
    Effect (Option ExecutorError) :=
  if 0 < attempt then waitBeforeRetry config plan deadline attempt lastError retryAfterMs
  else return none

/-- The attempt loop runs at most `left` more attempts of one hop. -/
def executeAttemptsFrom (config : ExecutorConfig) (plan : RoutePlan) (params : ExecutionParams)
    (deadline : RequestDeadline) (left attempt : Nat) (budget : AttemptBudget)
    (lastError : Option ExecutorError) (retryAfterMs : Option Nat) :
    Effect (Outcome × AttemptBudget) :=
  match left with
  | 0 => return (exhausted lastError, budget)
  | left + 1 => do
      let now ← readClock .isExpired
      if deadline.isExpired now then return (.error (← deadlineExceeded), budget)
      else if budget.remaining = 0 then return (exhausted lastError, budget)
      else do
        match ← prepareAttempt config plan deadline attempt lastError retryAfterMs with
        | some error => return (.error error, budget)
        | none => do
            let (step, budget) ← startAttempt config plan params deadline attempt budget
            match step with
            | .finished outcome => return (outcome, budget)
            | .stopped => return (exhausted lastError, budget)
            | .failed error =>
                executeAttemptsFrom config plan params deadline left (attempt + 1) budget
                  (some error) (retryAfterOf error)

/-- One hop runs the attempts zero to `maxRetries`. -/
def executeAttempts (config : ExecutorConfig) (plan : RoutePlan) (params : ExecutionParams)
    (deadline : RequestDeadline) (budget : AttemptBudget) (maxRetries : UInt32) :
    Effect (Outcome × AttemptBudget) :=
  executeAttemptsFrom config plan params deadline (maxRetries.toNat + 1) 0 budget none none

def settle (permit : CircuitPermit) (outcome : CompletionOutcome) : Effect Unit :=
  Program.request (Request.settle permit outcome)

def dropPermit (permit : CircuitPermit) : Effect Unit :=
  Program.request (Request.dropPermit permit)

/-- A probe settles every outcome but the deadline, which only releases its ownership. -/
def settleProbe (permit : CircuitPermit) (outcome : Outcome) : Effect Unit :=
  match outcome with
  | .ok _ => settle permit .success
  | .error .deadlineExceeded => dropPermit permit
  | .error error =>
      if isCircuitFailure error then settle permit .transientFailure
      else settle permit .permanent

/-- A closed permit settles a success or a circuit failure, and any other error drops it. -/
def settleClosed (permit : CircuitPermit) (outcome : Outcome) : Effect Unit :=
  match outcome with
  | .ok _ => settle permit .success
  | .error .deadlineExceeded => dropPermit permit
  | .error error =>
      if isCircuitFailure error then settle permit .transientFailure else dropPermit permit

/-- One hop runs through the circuit admission of its target. -/
def executeHop (config : ExecutorConfig) (plan : RoutePlan) (params : ExecutionParams)
    (deadline : RequestDeadline) (budget : AttemptBudget) : Effect (Outcome × AttemptBudget) := do
  let now ← readClock .isExpired
  if deadline.isExpired now then return (.error (← deadlineExceeded), budget)
  else if budget.remaining = 0 then
    return (.error (.apiCallFailed "Max retries exceeded"), budget)
  else
    match ← Program.request (Request.admission plan) with
    | .reject retryAfterMs => return (.error (.circuitOpen plan.vendorId retryAfterMs), budget)
    | .probe permit => do
        let (outcome, budget) ←
          (executeAttempts config plan params deadline budget 0).onDrop (dropPermit permit)
        settleProbe permit outcome
        return (outcome, budget)
    | .allow permit => do
        let (outcome, budget) ←
          (executeAttempts config plan params deadline budget config.maxRetries).onDrop
            (dropPermit permit)
        settleClosed permit outcome
        return (outcome, budget)

/-- The deadline wins over the primary error after the last fallback. -/
def finishFallbacks (deadline : RequestDeadline) (primaryError : ExecutorError) :
    Effect Outcome := do
  let now ← readClock .isExpired
  if deadline.isExpired now then return .error (← deadlineExceeded)
  else return .error primaryError

/-- The fallback loop tries each remaining hop in catalog order. -/
def tryFallbacks (config : ExecutorConfig) (params : ExecutionParams)
    (primaryError : ExecutorError) (deadline : RequestDeadline) (fallbackPlans : List RoutePlan)
    (budget : AttemptBudget) (fromTarget : String) : Effect Outcome :=
  match fallbackPlans with
  | [] => finishFallbacks deadline primaryError
  | fallback :: rest => do
      let now ← readClock .isExpired
      if deadline.isExpired now then return .error (← deadlineExceeded)
      else if hopSupportsParams fallback params = false then
        tryFallbacks config params primaryError deadline rest budget fromTarget
      else do
        record (.fallback fromTarget fallback.targetId)
        let (outcome, budget) ← executeHop config fallback params deadline budget
        match outcome with
        | .ok result => return .ok result
        | .error .deadlineExceeded => return .error .deadlineExceeded
        | .error error => do
            match ← terminateForProviderMinimum error deadline with
            | some terminal => return .error (← observeTerminal terminal)
            | none =>
                if isFallbackEligible error then
                  tryFallbacks config params primaryError deadline rest budget fallback.targetId
                else finishFallbacks deadline primaryError

def executeFallbacks (config : ExecutorConfig) (fallbackPlans : List RoutePlan)
    (params : ExecutionParams) (primaryError : ExecutorError) (deadline : RequestDeadline)
    (budget : AttemptBudget) (primaryTargetId : String) : Effect Outcome := do
  let now ← readClock .isExpired
  if deadline.isExpired now then return .error (← deadlineExceeded)
  else if fallbackPlans.isEmpty then return .error primaryError
  else tryFallbacks config params primaryError deadline fallbackPlans budget primaryTargetId

/-- An execution tries the primary hop and then its eligible fallbacks. -/
def execute (config : ExecutorConfig) (plan : RoutePlan) (payload : Json)
    (deadline : RequestDeadline) : Effect Outcome := do
  let now ← readClock .isExpired
  if deadline.isExpired now then return .error (← deadlineExceeded)
  else
    match extractParams payload with
    | .error error => return .error error
    | .ok params => do
        let (outcome, budget) ← executeHop config plan params deadline
          (AttemptBudget.new config.maxTotalAttempts)
        match outcome with
        | .ok result => return .ok result
        | .error .deadlineExceeded => return .error .deadlineExceeded
        | .error primaryError => do
            match ← terminateForProviderMinimum primaryError deadline with
            | some terminal => return .error (← observeTerminal terminal)
            | none =>
                if isFallbackEligible primaryError then
                  executeFallbacks config plan.fallbackPlans params primaryError deadline budget
                    plan.targetId
                else return .error primaryError

end Opmux.Executor
