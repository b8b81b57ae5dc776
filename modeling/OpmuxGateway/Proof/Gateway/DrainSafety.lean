import OpmuxGateway.Construction.Gateway.Process
import OpmuxGateway.Library.PermitPool
import OpmuxGateway.Proof.Health.ReadinessFreshness
import OpmuxGateway.Proof.Ingress.RequestContract

/-
This file proves that the admission permits, the drain state, and the readiness reports of one
process agree under every interleaving of its actors.
-/

namespace Opmux.Gateway

open Auth (ApiKeyKind)
open Ingress (IngressError IngressRequest IngressResponse IngressService ingressHandler
  processAdmitted)

/-- A task works only with a permit, and it gives the permit back before it ends. -/
inductive Disciplined : Bool → GatewayEffect (Except IngressError IngressResponse) → Prop
  | answered (result : Except IngressError IngressResponse) : Disciplined false (.pure result)
  | dropped : Disciplined false .halt
  | admission (next : Except AdmissionDenied Unit → _) : Disciplined true (next (.ok ())) →
      next (.error .closed) = .pure (.error .draining) →
      Disciplined false (next (.error .noPermits)) → Disciplined false (.ask .tryAcquire next)
  | overload (next : Unit → _) : Disciplined false (next ()) →
      Disciplined false (.ask .recordOverloadRejected next)
  | work (request : GatewayRequest) (next : request.Reply → _) : request ≠ .tryAcquire →
      request ≠ .releasePermit → (∀ reply, Disciplined true (next reply)) →
      Disciplined true (.ask request next)
  | release (next : Unit → _) : Disciplined false (next ()) →
      Disciplined true (.ask .releasePermit next)

/-- The requests of a service do not touch the permits. -/
def Permitless (request : GatewayRequest) : Prop :=
  request ≠ .tryAcquire ∧ request ≠ .releasePermit

section Handler

variable {toVec : Json → Option (List UInt8)} {service : IngressService} {kind : ApiKeyKind}
  {body : Json} {request : IngressRequest} {deadline : RequestDeadline}

/-- An execution asks only requests of its own. -/
theorem runExecution_permitless {Value : Type} (effect : Executor.Effect Value) :
    (runExecution effect).Asks Permitless := by
  induction effect with
  | pure value => trivial
  | halt => trivial
  | ask request next ih => exact ⟨⟨by rintro ⟨⟩, by rintro ⟨⟩⟩, fun reply => ih _⟩

theorem processRequest_permitless : (service.processRequest request deadline).Asks Permitless := by
  unfold IngressService.processRequest
  refine Program.asks_bind (Program.asks_request ⟨by rintro ⟨⟩, by rintro ⟨⟩⟩) fun now => ?_
  split
  · trivial
  · refine Program.asks_bind (Program.asks_request ⟨by rintro ⟨⟩, by rintro ⟨⟩⟩) fun start => ?_
    split
    · trivial
    · unfold IngressService.processResolved
      split
      · trivial
      · refine Program.asks_bind ?_ fun result => ?_
        · refine Program.asks_bind (runExecution_permitless _) fun result => ?_
          cases result with
          | ok result => trivial
          | error error => trivial
        · cases result with
          | ok result =>
              exact Program.asks_bind (Program.asks_request ⟨by rintro ⟨⟩, by rintro ⟨⟩⟩)
                fun _ => trivial
          | error error => trivial

/-- Work that does not touch the permits gives its permit back on every exit. -/
theorem disciplined_released {work : GatewayEffect (Except IngressError IngressResponse)}
    (permitless : work.Asks Permitless) :
    Disciplined true (work.onDrop (Program.request GatewayRequest.releasePermit) >>= fun result => do
      Program.request GatewayRequest.releasePermit
      return result) := by
  induction work with
  | pure value => exact .release _ (.answered value)
  | halt => exact .release _ .dropped
  | ask request next ih =>
      exact .work request _ permitless.1.1 permitless.1.2 fun reply => ih reply (permitless.2 reply)

/-- Each handler is disciplined from its start. -/
theorem ingressHandler_disciplined :
    Disciplined false (ingressHandler toVec service kind body deadline) := by
  unfold ingressHandler
  split
  · exact .answered _
  · split
    · exact .answered _
    · refine .admission _ (disciplined_released processRequest_permitless) rfl ?_
      exact .overload _ (.answered _)

end Handler

section Exchange

variable {admission later : Semaphore} {answers : Answers} {task next : GenerationTask}

/-- The permit of a task and the shared semaphore change together. -/
inductive PermitExchange (admission : Semaphore) (permit : Bool) : Semaphore → Bool → Prop
  | same : PermitExchange admission permit admission permit
  | acquired : admission.closed = false → 0 < admission.permits → permit = false →
      PermitExchange admission permit { admission with permits := admission.permits - 1 } true
  | released : permit = true → PermitExchange admission permit admission.release false

/-- An exchange leaves a closed semaphore closed. -/
theorem PermitExchange.closed {permit laterPermit : Bool}
    (exchanged : PermitExchange admission permit later laterPermit)
    (closed : admission.closed = true) : later.closed = true := by
  cases exchanged with
  | same => exact closed
  | acquired opened => exact absurd closed (by simp [opened])
  | released => exact closed

/-- A closed semaphore refuses, an empty one refuses too, and any other one gives a permit. -/
theorem tryAcquire_cases (semaphore : Semaphore) :
    semaphore.closed = true ∧ semaphore.tryAcquire = (.error .closed, semaphore) ∨
    semaphore.tryAcquire = (.error .noPermits, semaphore) ∨
    semaphore.closed = false ∧ 0 < semaphore.permits ∧
      semaphore.tryAcquire = (.ok (), { semaphore with permits := semaphore.permits - 1 }) := by
  unfold Semaphore.tryAcquire
  split
  · rename_i closed
    exact .inl ⟨closed, rfl⟩
  · rename_i opened
    split
    · exact .inr (.inl rfl)
    · rename_i some
      exact .inr (.inr ⟨by simpa using opened, Nat.pos_of_ne_zero some, rfl⟩)

/-- An exchange keeps the discipline and balances the permit of its task. -/
theorem exchange_disciplined (disciplined : Disciplined task.permit task.program)
    (exchanged : task.exchange admission answers = some (next, later)) :
    Disciplined next.permit next.program ∧
      PermitExchange admission task.permit later next.permit := by
  obtain ⟨program, permit⟩ := task
  cases disciplined with
  | answered result => cases exchanged
  | dropped => cases exchanged
  | admission rest admitted closed saturated =>
      rcases tryAcquire_cases admission with ⟨_, acquired⟩ | acquired | ⟨opened, free, acquired⟩
      · simp only [GenerationTask.exchange, acquired] at exchanged
        cases exchanged
        exact ⟨closed ▸ .answered _, .same⟩
      · simp only [GenerationTask.exchange, acquired] at exchanged
        cases exchanged
        exact ⟨saturated, .same⟩
      · simp only [GenerationTask.exchange, acquired] at exchanged
        cases exchanged
        exact ⟨admitted, .acquired opened free rfl⟩
  | overload rest answered =>
      cases exchanged
      exact ⟨answered, .same⟩
  | work request rest notAcquire notRelease kept =>
      cases request with
      | tryAcquire => exact absurd rfl notAcquire
      | releasePermit => exact absurd rfl notRelease
      | _ =>
          cases exchanged
          exact ⟨kept _, .same⟩
  | release rest answered =>
      cases exchanged
      exact ⟨answered, .released rfl⟩

/-- A task that reaches the closed admission answers that the process drains. -/
theorem exchange_closed {rest : Except AdmissionDenied Unit → _}
    (disciplined : Disciplined task.permit task.program)
    (waiting : task.program = .ask .tryAcquire rest) (closed : admission.closed = true)
    (exchanged : task.exchange admission answers = some (next, later)) :
    next.program = .pure (.error .draining) := by
  obtain ⟨program, permit⟩ := task
  cases waiting
  simp only [GenerationTask.exchange, Semaphore.tryAcquire, closed, if_true] at exchanged
  cases exchanged
  cases disciplined with
  | admission _ _ refused _ => exact refused
  | work _ _ notAcquire _ _ => exact absurd rfl notAcquire

/-- An answered task exchanges nothing more. -/
theorem exchange_answered {result : Except IngressError IngressResponse}
    (answered : task.program = .pure result) : task.exchange admission answers = none := by
  obtain ⟨program, permit⟩ := task
  cases answered
  rfl

end Exchange

namespace Process

/-- The holders are the tasks that own a permit. -/
def holders (process : Process) : Finset Nat :=
  (Finset.range process.arrived).filter fun id => (process.tasks id).any GenerationTask.permit

/-- The semaphore and the owned permits of a process form one pool. -/
def pool (process : Process) : PermitPool Nat :=
  ⟨process.admission.permits, process.holders, process.admission.closed⟩

end Process

/-- A response is ready exactly when it does not drain and each of its parts is healthy. -/
def HonestReport (response : Health.ReadinessResponse) : Prop :=
  (response.status = "ready" ↔ response.draining = false ∧
    (∀ dependency, (response.dependencies dependency).isHealthy = true) ∧
    response.defaultRoute.isHealthy = true) ∧
  (response.status ≠ "ready" → response.status = "not_ready")

/-- A process keeps its permits, its discipline, and the order of its drain signals. -/
structure Sound (capacity : Nat) (process : Process) : Prop where
  disciplined : ∀ id task, process.tasks id = some task → Disciplined task.permit task.program
  known : ∀ id task, process.tasks id = some task → id < process.arrived
  conserves : process.pool.Conserves capacity
  drained : process.shutdown.isDraining = true ∨ 0 < process.closers →
    process.admission.closed = true
  honest : ∀ id response, (id, response) ∈ process.health.responses → HonestReport response

section Health

variable {service : Health.HealthService} {world next : Health.World} {event : Health.Event}

/-- Only the drain signal changes the published flag. -/
theorem health_step_draining (stepped : world.step service event = some next)
    (other : ∀ now, event ≠ .markDraining now) : next.draining = world.draining := by
  obtain ⟨_, acted, acts, rfl⟩ := Health.step_act stepped
  cases event with
  | begin now =>
      cases acts
      rfl
  | markDraining now => exact absurd rfl (other now)
  | readCache id dependency now | probed id dependency succeeded now | writeCache id dependency now
  | respond id usable now =>
      simp only [Health.World.act] at acts
      split at acts
      · cases acts
      · split at acts
        · cases acts
          rfl
        · cases acts
  | drop id now =>
      cases acts
      rfl

/-- A response joins the final drain snapshot with the statuses of its own check. -/
def RespondsFrom (service : Health.HealthService) (world : Health.World) (id : Nat)
    (usable : Bool) (response : Health.ReadinessResponse) : Prop :=
  ∃ check database upstream, world.checks id = some check ∧
    check.progress .database = .finished database ∧
    check.progress .upstream = .finished upstream ∧
    response = Health.assemble service check.drained world.draining usable database upstream

/-- A check sends its response in one event, and every other event sends none. -/
theorem health_step_responses (stepped : world.step service event = some next) :
    ((∀ id usable now, event ≠ .respond id usable now) ∧ next.responses = world.responses) ∨
    ∃ id usable now response, event = .respond id usable now ∧
      RespondsFrom service world id usable response ∧
      next.responses = world.responses ++ [(id, response)] := by
  obtain ⟨_, acted, acts, rfl⟩ := Health.step_act stepped
  cases event with
  | begin now | markDraining now | drop id now =>
      cases acts
      exact .inl ⟨by rintro _ _ _ ⟨⟩, rfl⟩
  | readCache id dependency now | probed id dependency succeeded now
  | writeCache id dependency now =>
      simp only [Health.World.act] at acts
      split at acts
      · cases acts
      · split at acts
        · cases acts
          exact .inl ⟨by rintro _ _ _ ⟨⟩, rfl⟩
        · cases acts
  | respond id usable now =>
      simp only [Health.World.act] at acts
      split at acts
      · cases acts
      · rename_i check running
        split at acts
        · rename_i database upstream databaseDone upstreamDone
          cases acts
          exact .inr ⟨id, usable, now, _, rfl,
            ⟨check, database, upstream, running, databaseDone, upstreamDone, rfl⟩, rfl⟩
        · cases acts

theorem assemble_honest {drained draining usable : Bool}
    {database upstream : Health.DependencyStatus} :
    HonestReport (Health.assemble service drained draining usable database upstream) := by
  unfold HonestReport Health.assemble
  by_cases ready : (!(drained || draining) && database.isHealthy && upstream.isHealthy &&
      (service.probeDefaultRoute usable).isHealthy) = true
  · simp only [ready, if_true, ne_eq, not_true, false_imp_iff, and_true, true_iff]
    simp only [Bool.and_eq_true, Bool.not_eq_true'] at ready
    obtain ⟨⟨⟨open_, databaseUp⟩, upstreamUp⟩, routeUp⟩ := ready
    refine ⟨open_, fun dependency => ?_, routeUp⟩
    cases dependency with
    | database => exact databaseUp
    | upstream => exact upstreamUp
  · simp only [ready]
    refine ⟨⟨fun same => absurd same (by decide), ?_⟩, fun _ => rfl⟩
    rintro ⟨opened, healthy, routeUp⟩
    refine absurd ?_ ready
    simp only [Bool.and_eq_true, Bool.not_eq_true']
    exact ⟨⟨⟨opened, healthy .database⟩, healthy .upstream⟩, routeUp⟩

/-- Each event sends only honest responses. -/
theorem honest_step
    (honest : ∀ id response, (id, response) ∈ world.responses → HonestReport response)
    (stepped : world.step service event = some next) :
    ∀ id response, (id, response) ∈ next.responses → HonestReport response := by
  intro id response sent
  rcases health_step_responses stepped with ⟨_, same⟩ | ⟨own, usable, now, fresh, _, responds, same⟩
  · exact honest id response (same ▸ sent)
  · rw [same, List.mem_append, List.mem_singleton] at sent
    rcases sent with old | new
    · exact honest id response old
    · cases new
      obtain ⟨check, database, upstream, _, _, _, rfl⟩ := responds
      exact assemble_honest

/-- The sent responses grow only by ones that are not ready and report the drain. -/
def DrainsFrom (world next : Health.World) : Prop :=
  ∃ sent, next.responses = world.responses ++ sent ∧ ∀ id response, (id, response) ∈ sent →
    response.status = "not_ready" ∧ response.draining = true

theorem DrainsFrom.refl (world : Health.World) : DrainsFrom world world :=
  ⟨[], (List.append_nil _).symm, by rintro _ _ ⟨⟩⟩

theorem DrainsFrom.trans {last : Health.World} (first : DrainsFrom world next)
    (second : DrainsFrom next last) : DrainsFrom world last := by
  obtain ⟨sent, same, drains⟩ := first
  obtain ⟨more, grown, drainsMore⟩ := second
  refine ⟨sent ++ more, by rw [grown, same, List.append_assoc], fun id response member => ?_⟩
  rcases List.mem_append.mp member with old | new
  · exact drains id response old
  · exact drainsMore id response new

/-- A published drain flag stays published, and each later response reports it. -/
theorem health_step_published (stepped : world.step service event = some next)
    (published : world.draining = true) : next.draining = true ∧ DrainsFrom world next := by
  constructor
  · by_cases signal : ∃ now, event = .markDraining now
    · obtain ⟨now, rfl⟩ := signal
      obtain ⟨_, acted, acts, rfl⟩ := Health.step_act stepped
      cases acts
      rfl
    · rw [health_step_draining stepped fun now same => signal ⟨now, same⟩, published]
  · rcases health_step_responses stepped with
      ⟨_, same⟩ | ⟨id, usable, now, response, _, responds, same⟩
    · exact ⟨[], by rw [same, List.append_nil], by rintro _ _ ⟨⟩⟩
    · refine ⟨[(id, response)], same, fun own found member => ?_⟩
      cases List.mem_singleton.mp member
      obtain ⟨check, database, upstream, _, _, _, rfl⟩ := responds
      simp [published, Health.assemble]

end Health

namespace Process

variable {toVec : Json → Option (List UInt8)} {ingress : IngressService}
  {health : Health.HealthService} {capacity : Nat} {process next : Process} {event : ProcessEvent}

/-- Each step is one arrival, one exchange, one readiness event, or one half of a drain signal. -/
theorem step_cases (stepped : process.step toVec ingress health event = some next) :
    (∃ kind body deadline, event = .arrive kind body deadline ∧
      next = process.addTask (ingressHandler toVec ingress kind body deadline)) ∨
    (∃ id answers task later admission, event = .exchange id answers ∧
      process.tasks id = some task ∧
      task.exchange process.admission answers = some (later, admission) ∧
      next = process.setTask id later admission) ∨
    (∃ readiness world, event = .readiness readiness ∧ (∀ now, readiness ≠ .markDraining now) ∧
      process.health.step health readiness = some world ∧ next = { process with health := world }) ∨
    (event = .close ∧
      next = { process with
        admission := process.admission.close, closers := process.closers + 1 }) ∨
    (∃ now world, event = .publish now ∧ 0 < process.closers ∧
      process.health.step health (.markDraining now) = some world ∧
      next = { process with health := world, closers := process.closers - 1 }) := by
  cases event with
  | arrive kind body deadline =>
      cases stepped
      exact .inl ⟨kind, body, deadline, rfl, rfl⟩
  | exchange id answers =>
      simp only [step, Option.bind_eq_bind, Option.bind_eq_some_iff] at stepped
      obtain ⟨task, running, ⟨later, admission⟩, exchanged, same⟩ := stepped
      cases same
      exact .inr (.inl ⟨id, answers, task, later, admission, rfl, running, exchanged, rfl⟩)
  | readiness readiness =>
      cases readiness with
      | markDraining now => cases stepped
      | _ =>
          obtain ⟨world, acted, rfl⟩ := Option.map_eq_some_iff.mp stepped
          exact .inr (.inr (.inl ⟨_, world, rfl, by rintro _ ⟨⟩, acted, rfl⟩))
  | close =>
      cases stepped
      exact .inr (.inr (.inr (.inl ⟨rfl, rfl⟩)))
  | publish now =>
      simp only [step] at stepped
      split at stepped
      · cases stepped
      · rename_i waiting
        obtain ⟨world, acted, rfl⟩ := Option.map_eq_some_iff.mp stepped
        exact .inr (.inr (.inr (.inr ⟨now, world, rfl, Nat.pos_of_ne_zero waiting, acted, rfl⟩)))

theorem mem_holders {id : Nat} : id ∈ process.holders ↔
    id < process.arrived ∧ (process.tasks id).any GenerationTask.permit = true := by
  simp only [holders, Finset.mem_filter, Finset.mem_range]

theorem holders_addTask {program : GatewayEffect (Except IngressError IngressResponse)} :
    (process.addTask program).holders = process.holders := by
  ext id
  simp only [mem_holders, addTask, Function.update_apply]
  by_cases fresh : id = process.arrived
  · simp [fresh]
  · simp only [fresh, if_false]
    constructor
    · rintro ⟨known, owned⟩
      exact ⟨by omega, owned⟩
    · rintro ⟨known, owned⟩
      exact ⟨by omega, owned⟩

/-- A written task is a holder when it owns a permit, and the other holders stay. -/
theorem mem_holders_setTask {id other : Nat} {task : GenerationTask} {admission : Semaphore}
    (known : id < process.arrived) : other ∈ (process.setTask id task admission).holders ↔
      if other = id then task.permit = true else other ∈ process.holders := by
  simp only [mem_holders, setTask, Function.update_apply]
  by_cases own : other = id
  · simp [own, known]
  · simp [own]

/-- One exchange moves at most the permit of its own task. -/
theorem pool_exchange {id : Nat} {task later : GenerationTask} {admission : Semaphore}
    (known : id < process.arrived) (running : process.tasks id = some task)
    (exchanged : PermitExchange process.admission task.permit admission later.permit) :
    process.pool.Moves (process.setTask id later admission).pool := by
  have member : id ∈ process.holders ↔ task.permit = true := by
    simp [mem_holders, known, running]
  obtain ⟨program, permit⟩ := later
  cases exchanged with
  | same =>
      have kept : (process.setTask id ⟨program, task.permit⟩ process.admission).holders =
          process.holders := by
        ext other
        rw [mem_holders_setTask known]
        by_cases own : other = id
        · simp [own, member]
        · simp [own]
      simp only [pool, kept]
      exact .stay
  | acquired opened free absent =>
      have granted (admission : Semaphore) :
          (process.setTask id ⟨program, true⟩ admission).holders = insert id process.holders := by
        ext other
        rw [mem_holders_setTask known, Finset.mem_insert]
        by_cases own : other = id
        · simp [own]
        · simp [own]
      simp only [pool, granted]
      exact .grant id opened free (by simp [member, absent])
  | released owned =>
      have returned (admission : Semaphore) :
          (process.setTask id ⟨program, false⟩ admission).holders = process.holders.erase id := by
        ext other
        rw [mem_holders_setTask known, Finset.mem_erase]
        by_cases own : other = id
        · simp [own]
        · simp [own]
      simp only [pool, returned]
      exact .giveBack id (member.mpr owned)

/-- Each step is one move of the permit pool. -/
theorem step_moves (sound : Sound capacity process)
    (stepped : process.step toVec ingress health event = some next) :
    process.pool.Moves next.pool := by
  rcases step_cases stepped with ⟨kind, body, deadline, _, rfl⟩ |
    ⟨id, answers, task, later, admission, _, running, exchanged, rfl⟩ |
    ⟨readiness, world, _, _, _, rfl⟩ | ⟨_, rfl⟩ | ⟨now, world, _, _, _, rfl⟩
  · simp only [pool, holders_addTask]
    exact .stay
  · exact pool_exchange (sound.known id task running) running
      (exchange_disciplined (sound.disciplined id task running) exchanged).2
  · exact .stay
  · exact .close
  · exact .stay

/-- A written task is the new task, and every other task stays. -/
theorem update_task {tasks : Nat → Option GenerationTask} {id other : Nat}
    {task running : GenerationTask}
    (same : Function.update tasks id (some task) other = some running) :
    (other = id ∧ running = task) ∨ tasks other = some running := by
  rw [Function.update_apply] at same
  split at same
  · rename_i own
    cases same
    exact .inl ⟨own, rfl⟩
  · exact .inr same

/-- Each step keeps a process sound. -/
theorem step_sound (sound : Sound capacity process)
    (stepped : process.step toVec ingress health event = some next) : Sound capacity next := by
  have conserves : next.pool.Conserves capacity :=
    (step_moves sound stepped).conserves sound.conserves
  rcases step_cases stepped with ⟨kind, body, deadline, _, rfl⟩ |
    ⟨id, answers, task, later, admission, _, running, exchanged, rfl⟩ |
    ⟨readiness, world, _, other, acted, rfl⟩ | ⟨_, rfl⟩ | ⟨now, world, _, waiting, acted, rfl⟩
  · refine ⟨?_, ?_, conserves, sound.drained, sound.honest⟩
    · intro other running same
      rcases update_task same with ⟨_, rfl⟩ | old
      · exact ingressHandler_disciplined
      · exact sound.disciplined other running old
    · intro other running same
      rcases update_task same with ⟨rfl, _⟩ | old
      · exact Nat.lt_succ_self _
      · exact Nat.lt_succ_of_lt (sound.known other running old)
  · obtain ⟨disciplined, balanced⟩ :=
      exchange_disciplined (sound.disciplined id task running) exchanged
    refine ⟨?_, ?_, conserves, ?_, sound.honest⟩
    · intro other found same
      rcases update_task same with ⟨_, rfl⟩ | old
      · exact disciplined
      · exact sound.disciplined other found old
    · intro other found same
      rcases update_task same with ⟨rfl, _⟩ | old
      · exact sound.known other task running
      · exact sound.known other found old
    · intro drained
      have closed : process.admission.closed = true := sound.drained drained
      exact balanced.closed closed
  · refine ⟨sound.disciplined, sound.known, conserves, ?_, ?_⟩
    · intro drained
      apply sound.drained
      simpa only [shutdown, ShutdownState.isDraining, health_step_draining acted other] using drained
    · exact honest_step sound.honest acted
  · exact ⟨sound.disciplined, sound.known, conserves, fun _ => rfl, sound.honest⟩
  · exact ⟨sound.disciplined, sound.known, conserves, fun _ => sound.drained (.inr waiting),
      honest_step sound.honest acted⟩

end Process

/-- Each permit is free or owned by one task, and only an owner works. -/
def PermitsKept (settings : Settings) (process : Process) : Prop :=
  process.holders.card ≤ settings.limits.maxConcurrentGenerations.toNat ∧
  process.admission.permits + process.holders.card =
    settings.limits.maxConcurrentGenerations.toNat ∧
  ∀ id task, process.tasks id = some task →
    (∀ request next, task.program = .ask (.execution request) next → id ∈ process.holders) ∧
    (∀ result, task.program = .pure result → id ∉ process.holders) ∧
    (task.program = .halt → id ∉ process.holders)

/-- A waiting task stays at the admission or answers that the process drains. -/
def AnswersDraining (process later : Process) : Prop :=
  ∀ id task rest, process.tasks id = some task → task.program = .ask .tryAcquire rest →
    ∃ laterTask, later.tasks id = some laterTask ∧
      (laterTask.program = task.program ∨ laterTask.program = .pure (.error .draining))

/-- A closed process stays closed, admits no task, and answers the waiting ones. -/
def RefusesAdmission (system : EventSystem Process ProcessEvent) (process : Process) : Prop :=
  ∀ events later, system.run process events = some later →
    later.admission.closed = true ∧ later.holders ⊆ process.holders ∧
      AnswersDraining process later

/-- Each response that a draining process sends is not ready and reports the drain. -/
def ReportsDraining (system : EventSystem Process ProcessEvent) (process : Process) : Prop :=
  ∀ events later, system.run process events = some later →
    DrainsFrom process.health later.health

/-- Each sent response is honest about the statuses that its own check found. -/
def ReportsHonestly (system : EventSystem Process ProcessEvent) (health : Health.HealthService)
    (process : Process) : Prop :=
  (∀ id response, (id, response) ∈ process.health.responses → HonestReport response) ∧
  ∀ id usable now next, system.step process (.readiness (.respond id usable now)) = some next →
    ∃ response, RespondsFrom health process.health id usable response ∧
      next.health.responses = process.health.responses ++ [(id, response)]

section Runs

variable {toVec : Json → Option (List UInt8)} {ingress : IngressService}
  {health : Health.HealthService} {capacity : Nat} {process next later : Process}
  {event : ProcessEvent} {events : List ProcessEvent}

theorem initial_sound (settings : Settings) (start : Instant) :
    Sound settings.limits.maxConcurrentGenerations.toNat (Process.initial settings start) := by
  refine ⟨by rintro _ _ ⟨⟩, by rintro _ _ ⟨⟩, rfl, ?_, by rintro _ _ ⟨⟩⟩
  rintro (published | waiting)
  · cases published
  · cases waiting

/-- Each run keeps a process sound. -/
theorem run_sound (sound : Sound capacity process)
    (reached : (processSystem toVec ingress health).run process events = some later) :
    Sound capacity later :=
  (processSystem toVec ingress health).run_invariant (Sound capacity)
    (fun _ _ _ sound stepped => Process.step_sound sound stepped) sound reached

theorem permitsKept {settings : Settings}
    (sound : Sound settings.limits.maxConcurrentGenerations.toNat process) :
    PermitsKept settings process := by
  refine ⟨sound.conserves.card_le, sound.conserves, fun id task running => ?_⟩
  have known : id < process.arrived := sound.known id task running
  have disciplined := sound.disciplined id task running
  obtain ⟨program, permit⟩ := task
  have member : id ∈ process.holders ↔ permit = true := by
    simp [Process.mem_holders, known, running]
  refine ⟨?_, ?_, ?_⟩
  · rintro request next rfl
    cases disciplined with
    | work => exact member.mpr rfl
  · rintro result rfl
    cases disciplined with
    | answered => simp [member]
  · rintro rfl
    cases disciplined with
    | dropped => simp [member]

/-- A closed process that a waiting task has left waiting or answered stays so. -/
theorem step_answersDraining (first : Process) (sound : Sound capacity process)
    (closed : process.admission.closed = true) (answers : AnswersDraining first process)
    (stepped : process.step toVec ingress health event = some next) :
    AnswersDraining first next := by
  intro id task rest running waiting
  obtain ⟨present, found, kept⟩ := answers id task rest running waiting
  rcases Process.step_cases stepped with ⟨kind, body, deadline, _, rfl⟩ |
    ⟨own, replies, held, after, admission, _, mine, exchanged, rfl⟩ |
    ⟨readiness, world, _, _, _, rfl⟩ | ⟨_, rfl⟩ | ⟨now, world, _, _, _, rfl⟩
  · refine ⟨present, ?_, kept⟩
    have known : id ≠ process.arrived := Nat.ne_of_lt (sound.known id present found)
    simpa [Process.addTask, known] using found
  · by_cases same : id = own
    · subst same
      cases mine.symm.trans found
      refine ⟨after, by simp [Process.setTask], .inr ?_⟩
      rcases kept with same | answered
      · exact exchange_closed (sound.disciplined id present found) (same.trans waiting) closed
          exchanged
      · rw [exchange_answered answered] at exchanged
        cases exchanged
    · exact ⟨present, by simpa [Process.setTask, same] using found, kept⟩
  · exact ⟨present, found, kept⟩
  · exact ⟨present, found, kept⟩
  · exact ⟨present, found, kept⟩

/-- A closed process refuses every later admission. -/
theorem refusesAdmission (sound : Sound capacity process)
    (closed : process.admission.closed = true) :
    RefusesAdmission (processSystem toVec ingress health) process := by
  intro events later reached
  have kept := (processSystem toVec ingress health).run_invariant
    (fun state => Sound capacity state ∧ process.pool.Retires state.pool ∧
      AnswersDraining process state)
    (fun state event after holds stepped => by
      obtain ⟨soundState, retires, answers⟩ := holds
      exact ⟨Process.step_sound soundState stepped,
        retires.trans (Process.step_moves soundState stepped).retires,
        step_answersDraining process soundState (retires closed).1 answers stepped⟩)
    ⟨sound, .refl _, fun id task rest running waiting => ⟨task, running, .inl rfl⟩⟩ reached
  obtain ⟨_, retires, answers⟩ := kept
  obtain ⟨closedLater, fewer⟩ := retires closed
  exact ⟨closedLater, fewer, answers⟩

/-- A draining process stays draining, and each of its responses reports the drain. -/
theorem step_draining (draining : process.shutdown.isDraining = true)
    (stepped : process.step toVec ingress health event = some next) :
    next.shutdown.isDraining = true ∧ DrainsFrom process.health next.health := by
  rcases Process.step_cases stepped with ⟨kind, body, deadline, _, rfl⟩ |
    ⟨own, replies, task, after, admission, _, _, _, rfl⟩ | ⟨readiness, world, _, _, acted, rfl⟩ |
    ⟨_, rfl⟩ | ⟨now, world, _, _, acted, rfl⟩
  · exact ⟨draining, .refl _⟩
  · exact ⟨draining, .refl _⟩
  · exact health_step_published acted draining
  · exact ⟨draining, .refl _⟩
  · exact health_step_published acted draining

theorem reportsDraining (draining : process.shutdown.isDraining = true) :
    ReportsDraining (processSystem toVec ingress health) process := by
  intro events later reached
  exact ((processSystem toVec ingress health).run_invariant
    (fun state => state.shutdown.isDraining = true ∧ DrainsFrom process.health state.health)
    (fun state event after holds stepped => by
      obtain ⟨drainingState, drains⟩ := step_draining holds.1 stepped
      exact ⟨drainingState, holds.2.trans drains⟩)
    ⟨draining, .refl _⟩ reached).2

theorem reportsHonestly (sound : Sound capacity process) :
    ReportsHonestly (processSystem toVec ingress health) health process := by
  refine ⟨sound.honest, fun id usable now next stepped => ?_⟩
  obtain ⟨world, acted, rfl⟩ := Option.map_eq_some_iff.mp stepped
  rcases health_step_responses acted with ⟨other, _⟩ | ⟨own, _, _, response, same, responds, sent⟩
  · exact absurd rfl (other id usable now)
  · cases same
    exact ⟨response, responds, sent⟩

end Runs

/-- In each reached process the permits, the drain state, and the readiness reports agree. -/
theorem admission_and_drain_agree (toVec : Json → Option (List UInt8)) (ingress : IngressService)
    (health : Health.HealthService) (start : Instant) (events : List ProcessEvent)
    (process : Process)
    (reached : (processSystem toVec ingress health).run (Process.initial ingress.settings start)
      events = some process) :
    PermitsKept ingress.settings process ∧
    (process.shutdown.isDraining = true → process.admission.closed = true) ∧
    (process.admission.closed = true →
      RefusesAdmission (processSystem toVec ingress health) process) ∧
    (process.shutdown.isDraining = true →
      ReportsDraining (processSystem toVec ingress health) process) ∧
    ReportsHonestly (processSystem toVec ingress health) health process := by
  have sound := run_sound (initial_sound ingress.settings start) reached
  exact ⟨permitsKept sound, fun draining => sound.drained (.inl draining), refusesAdmission sound,
    reportsDraining, reportsHonestly sound⟩

/-- A service with one permit. -/
def narrowService : IngressService :=
  ⟨⟨.default, ⟨1, "default", ∅, ∅⟩, Ingress.wideLimits, .dummyLocal⟩, ⟨1000, 0, 1, 0⟩⟩

/-- An environment that drops each task at its next await. -/
def droppingAnswers : Answers
  | .clock _ => (0 : Nat)
  | .timer _ _ => false
  | .extractBody => none
  | .auth .utcNow => (0 : Nat)
  | .auth .newUuid => (0 : Fin (2 ^ 128))
  | .auth (.fillBytes _) => none
  | .auth (.store _) => none
  | .execution (.clock _) => (0 : Nat)
  | .execution .entropy => none
  | .execution (.sleep _ _) => none
  | .execution (.call _ _ _) => none
  | .execution (.admission _) => Circuit.CircuitAdmission.reject 0
  | .execution (.settle _ _) => ()
  | .execution (.dropPermit _) => ()
  | .execution (.record _) => ()
  | .tryAcquire => .ok ()
  | .releasePermit => ()
  | .recordOverloadRejected => ()

/-- One task is admitted, the drain begins, and a second task and a readiness check follow. -/
def drainEvents : List ProcessEvent :=
  [.readiness (.begin 0), .arrive .inference Ingress.greeting ⟨5⟩, .exchange 0 droppingAnswers,
    .arrive .inference Ingress.greeting ⟨5⟩, .close, .exchange 1 droppingAnswers,
    .readiness (.readCache 0 .database 1), .readiness (.readCache 0 .upstream 1), .publish 1]

theorem admission_and_drain_agree_example :
    ∃ process, (processSystem Ingress.compactToVec narrowService
        (Health.fullService 5)).run (Process.initial narrowService.settings 0) drainEvents =
          some process ∧
      process.shutdown.isDraining = true ∧ process.admission.closed = true :=
  ⟨_, rfl, rfl, (admission_and_drain_agree Ingress.compactToVec narrowService
    (Health.fullService 5) 0 drainEvents _ rfl).2.1 rfl⟩

end Opmux.Gateway
