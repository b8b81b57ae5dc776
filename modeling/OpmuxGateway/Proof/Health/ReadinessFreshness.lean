import OpmuxGateway.Construction.Health.Readiness

/-
This file proves that a healthy readiness report rests on a live or a fresh probe.
-/

namespace Opmux.Health

/-- A healthy report rests on a probe of its own check or on a recent probe of another check. -/
def Justified (ttl : Duration) (events : List Event) (id : Nat) (dependency : Dependency) : Prop :=
  (∃ now, Event.probed id dependency true now ∈ events) ∨
    ∃ other succeededAt readAt, Event.probed other dependency true succeededAt ∈ events ∧
      Event.readCache id dependency readAt ∈ events ∧
      succeededAt ≤ readAt ∧ readAt < succeededAt + ttl

/-- Each healthy dependency of each sent response is justified by the events of the run. -/
def ReportsFresh (service : HealthService) (events : List Event) (world : World) : Prop :=
  ∀ id response, (id, response) ∈ world.responses → ∀ dependency,
    (response.dependencies dependency).isHealthy → Justified service.cacheTtl events id dependency

/-- A check that began while draining reads no success beyond its lifetime. -/
def ReadsFresh (service : HealthService) (world : World) : Event → Prop
  | .readCache id dependency now => ∀ check, world.checks id = some check → check.drained = true →
      ∀ cachedAt, world.successAt dependency = some cachedAt → service.cacheIsFresh cachedAt now
  | _ => True

/-- A running check rests on the events of the run. -/
structure CheckFounded (service : HealthService) (events : List Event) (clock : Instant) (id : Nat)
    (check : Check) : Prop where
  writing : ∀ dependency succeededAt latencyMs,
    check.progress dependency = .writing succeededAt latencyMs →
    succeededAt ≤ clock ∧ Event.probed id dependency true succeededAt ∈ events
  finished : ∀ dependency status, check.progress dependency = .finished status →
    status.isHealthy → Justified service.cacheTtl events id dependency

/-- The cache, the running checks, and the sent responses rest on the events of the run. -/
structure Founded (service : HealthService) (events : List Event) (world : World) : Prop where
  cached : ∀ dependency succeededAt, world.successAt dependency = some succeededAt →
    succeededAt ≤ world.clock ∧ ∃ id, Event.probed id dependency true succeededAt ∈ events
  checks : ∀ id check, world.checks id = some check →
    CheckFounded service events world.clock id check
  reported : ReportsFresh service events world

section Step

variable {service : HealthService} {events : List Event} {world next : World} {event : Event}

theorem Justified.snoc {ttl : Duration} {id : Nat} {dependency : Dependency}
    (justified : Justified ttl events id dependency) :
    Justified ttl (events ++ [event]) id dependency := by
  rcases justified with ⟨now, probed⟩ | ⟨other, succeededAt, readAt, probed, read, order, fresh⟩
  · exact .inl ⟨now, List.mem_append_left _ probed⟩
  · exact .inr ⟨other, succeededAt, readAt, List.mem_append_left _ probed,
      List.mem_append_left _ read, order, fresh⟩

/-- A fresh success of the cache justifies the check that reads it. -/
theorem justified_of_read {id : Nat} {dependency : Dependency} {cachedAt now : Instant}
    (founded : Founded service events world) (clock : world.clock ≤ now)
    (cached : world.successAt dependency = some cachedAt)
    (fresh : service.cacheIsFresh cachedAt now) :
    Justified service.cacheTtl (events ++ [.readCache id dependency now]) id dependency := by
  obtain ⟨early, other, probed⟩ := founded.cached dependency cachedAt cached
  unfold HealthService.cacheIsFresh at fresh
  rw [Bool.and_eq_true, decide_eq_true_iff, decide_eq_true_iff] at fresh
  refine .inr ⟨other, cachedAt, now, List.mem_append_left _ probed, by simp,
    Nat.le_trans early clock, ?_⟩
  obtain ⟨_, young⟩ := fresh
  have order : cachedAt ≤ now := Nat.le_trans early clock
  generalize service.cacheTtl = ttl at young
  lia

/-- A check stays founded when time passes and events are added. -/
theorem CheckFounded.later {clock now : Instant} {id : Nat} {check : Check}
    (founded : CheckFounded service events clock id check) (order : clock ≤ now) :
    CheckFounded service (events ++ [event]) now id check := by
  constructor
  · intro dependency succeededAt latencyMs writing
    obtain ⟨early, probed⟩ := founded.writing dependency succeededAt latencyMs writing
    exact ⟨Nat.le_trans early order, List.mem_append_left _ probed⟩
  · intro dependency status finished healthy
    exact (founded.finished dependency status finished healthy).snoc

/-- A check advances when its new progress is founded. -/
theorem CheckFounded.advance {clock : Instant} {id : Nat} {check : Check} {own : Dependency}
    {progress : Progress} (founded : CheckFounded service events clock id check)
    (writing : ∀ succeededAt latencyMs, progress = .writing succeededAt latencyMs →
      succeededAt ≤ clock ∧ Event.probed id own true succeededAt ∈ events)
    (finished : ∀ status, progress = .finished status → status.isHealthy →
      Justified service.cacheTtl events id own) :
    CheckFounded service events clock id (check.advance own progress) := by
  constructor
  · intro dependency succeededAt latencyMs same
    by_cases mine : dependency = own
    · subst mine
      exact writing succeededAt latencyMs (by simpa [Check.advance] using same)
    · exact founded.writing dependency succeededAt latencyMs
        (by simpa [Check.advance, mine] using same)
  · intro dependency status same
    by_cases mine : dependency = own
    · subst mine
      exact finished status (by simpa [Check.advance] using same)
    · exact founded.finished dependency status (by simpa [Check.advance, mine] using same)

/-- The world stays founded when time passes. -/
theorem Founded.later {now : Instant} (founded : Founded service events world)
    (order : world.clock ≤ now) :
    Founded service (events ++ [event]) { world with clock := now } := by
  constructor
  · intro dependency succeededAt cached
    obtain ⟨early, id, probed⟩ := founded.cached dependency succeededAt cached
    exact ⟨Nat.le_trans early order, id, List.mem_append_left _ probed⟩
  · intro id check running
    exact (founded.checks id check running).later order
  · intro id response sent dependency healthy
    exact (founded.reported id response sent dependency healthy).snoc

/-- The write of one check keeps the foundation of the others. -/
theorem Founded.setCheck (founded : Founded service events world) (id : Nat)
    (check : Option Check)
    (own : ∀ running, check = some running →
      CheckFounded service events world.clock id running) :
    Founded service events (world.setCheck id check) := by
  refine ⟨founded.cached, fun other running same => ?_, founded.reported⟩
  by_cases mine : other = id
  · subst mine
    exact own running (by simpa [World.setCheck] using same)
  · exact founded.checks other running (by simpa [World.setCheck, mine] using same)

/-- The acting world keeps its clock. -/
theorem step_act (stepped : world.step service event = some next) :
    world.clock ≤ event.now ∧ ∃ acted, world.act service event = some acted ∧
      next = { acted with clock := event.now } := by
  unfold World.step at stepped
  split at stepped
  · rename_i clock
    obtain ⟨acted, acts, rfl⟩ := Option.map_eq_some_iff.mp stepped
    exact ⟨clock, acted, acts, rfl⟩
  · cases stepped

/-- A draining check reports a stored success as healthy. -/
theorem cachedStatus_healthy {dependency : Dependency} {cached : Option Instant}
    (healthy : (cachedStatus dependency cached).isHealthy) :
    ∃ cachedAt, cached = some cachedAt := by
  cases cached with
  | none => cases healthy
  | some cachedAt => exact ⟨cachedAt, rfl⟩

/-- A live check reports only a fresh success as healthy without a probe. -/
theorem readLive_healthy {dependency : Dependency} {cached : Option Instant} {now : Instant}
    {status : DependencyStatus}
    (finished : readLive service dependency cached now = .finished status)
    (healthy : status.isHealthy) :
    ∃ cachedAt, cached = some cachedAt ∧ service.cacheIsFresh cachedAt now := by
  unfold readLive at finished
  split at finished
  · rename_i fresh
    exact (Option.any_eq_true _ _).mp fresh
  · split at finished
    · cases finished
    · cases finished
      cases healthy

/-- A live check never awaits the cache lock before its probe. -/
theorem readLive_writing {dependency : Dependency} {cached : Option Instant}
    {now succeededAt : Instant} {latencyMs : Nat} :
    readLive service dependency cached now ≠ .writing succeededAt latencyMs := by
  unfold readLive
  split
  · rintro ⟨⟩
  · split
    · rintro ⟨⟩
    · rintro ⟨⟩

/-- An event whose check reads fresh successes keeps the world founded. -/
theorem founded_step (founded : Founded service events world)
    (reads : ReadsFresh service world event) (stepped : world.step service event = some next) :
    Founded service (events ++ [event]) next := by
  obtain ⟨order, acted, acts, rfl⟩ := step_act stepped
  have later : Founded service (events ++ [event]) { world with clock := event.now } :=
    founded.later order
  cases event with
  | begin now =>
      cases acts
      have added := later.setCheck world.started
        (some ⟨world.draining, fun _ => .reading⟩) (by
          rintro _ ⟨⟩
          exact ⟨by rintro _ _ _ ⟨⟩, by rintro _ _ ⟨⟩⟩)
      exact ⟨added.cached, added.checks, added.reported⟩
  | markDraining now =>
      cases acts
      exact ⟨later.cached, later.checks, later.reported⟩
  | readCache id dependency now =>
      cases running : world.checks id with
      | none => simp [World.act, running] at acts
      | some check =>
          simp only [World.act, running] at acts
          split at acts
          · cases acts
            refine later.setCheck id _ ?_
            rintro _ ⟨⟩
            refine (later.checks id check running).advance ?_ ?_
            · intro succeededAt latencyMs writing
              split at writing
              · cases writing
              · exact absurd writing readLive_writing
            · intro status finished healthy
              have found : ∃ cachedAt, world.successAt dependency = some cachedAt ∧
                  service.cacheIsFresh cachedAt now := by
                split at finished
                · rename_i drained
                  cases finished
                  obtain ⟨cachedAt, cached⟩ := cachedStatus_healthy healthy
                  exact ⟨cachedAt, cached, reads check running drained cachedAt cached⟩
                · exact readLive_healthy finished healthy
              obtain ⟨cachedAt, cached, fresh⟩ := found
              exact justified_of_read founded order cached fresh
          · cases acts
  | probed id dependency succeeded now =>
      cases running : world.checks id with
      | none => simp [World.act, running] at acts
      | some check =>
          simp only [World.act, running] at acts
          split at acts
          · cases acts
            refine later.setCheck id _ ?_
            rintro _ ⟨⟩
            refine (later.checks id check running).advance ?_ ?_
            · intro succeededAt latencyMs writing
              cases succeeded with
              | true =>
                  cases writing
                  exact ⟨Nat.le_refl now, by simp⟩
              | false => cases writing
            · intro status finished healthy
              cases succeeded with
              | true => cases finished
              | false =>
                  cases finished
                  cases healthy
          · cases acts
  | writeCache id dependency now =>
      cases running : world.checks id with
      | none => simp [World.act, running] at acts
      | some check =>
          simp only [World.act, running] at acts
          split at acts
          · rename_i succeededAt latencyMs writing
            cases acts
            have founded := later.checks id check running
            obtain ⟨early, probed⟩ := founded.writing dependency succeededAt latencyMs writing
            have written := later.setCheck id (some (check.advance dependency
              (.finished (.healthy (some latencyMs))))) (by
                rintro _ ⟨⟩
                refine founded.advance (by rintro _ _ ⟨⟩) ?_
                intro _ _ _
                exact .inl ⟨succeededAt, probed⟩)
            refine ⟨fun other cachedAt cached => ?_, written.checks, written.reported⟩
            by_cases own : other = dependency
            · subst own
              have same : some succeededAt = some cachedAt := by simpa using cached
              cases same
              exact ⟨early, id, probed⟩
            · have kept : world.successAt other = some cachedAt := by simpa [own] using cached
              exact written.cached other cachedAt kept
          · cases acts
  | respond id usable now =>
      cases running : world.checks id with
      | none => simp [World.act, running] at acts
      | some check =>
          simp only [World.act, running] at acts
          split at acts
          · rename_i database upstream databaseDone upstreamDone
            cases acts
            have removed := later.setCheck id none (by rintro _ ⟨⟩)
            have finished := (later.checks id check running).finished
            refine ⟨removed.cached, removed.checks, fun other response sent dependency healthy => ?_⟩
            rcases List.mem_append.mp sent with old | fresh
            · exact removed.reported other response old dependency healthy
            · cases List.mem_singleton.mp fresh
              cases dependency with
              | database => exact finished .database database databaseDone healthy
              | upstream => exact finished .upstream upstream upstreamDone healthy
          · cases acts
  | drop id now =>
      cases acts
      exact later.setCheck id none (by rintro _ ⟨⟩)

end Step

/-- Each healthy dependency of each sent response comes from a live probe of its own check. -/
def ReportsLive (events : List Event) (world : World) : Prop :=
  ∀ id response, (id, response) ∈ world.responses → ∀ dependency,
    (response.dependencies dependency).isHealthy →
    ∃ now, Event.probed id dependency true now ∈ events

/-- A run whose draining checks read fresh successes reports only fresh dependencies. -/
theorem readiness_reports_fresh (service : HealthService) (start : Instant) (events : List Event)
    (world : World)
    (reached : (readinessSystem service).run (World.initial start) events = some world)
    (reads : (readinessSystem service).Meets (ReadsFresh service) (World.initial start) events) :
    ReportsFresh service events world ∧
      (service.cacheTtlSecs = 0 → ReportsLive events world) := by
  have founded : Founded service ([] ++ events) world := by
    apply (readinessSystem service).run_history (Founded service)
      (fun _ _ _ _ founded met stepped => founded_step founded met stepped) ?_ reads reached
    exact ⟨by rintro _ _ ⟨⟩, by rintro _ _ ⟨⟩, by rintro _ _ ⟨⟩⟩
  refine ⟨founded.reported, fun zero id response sent dependency healthy => ?_⟩
  rcases founded.reported id response sent dependency healthy with
    live | ⟨_, succeededAt, readAt, _, _, order, fresh⟩
  · exact live
  · have empty : service.cacheTtl = 0 := by rw [HealthService.cacheTtl, zero]; rfl
    rw [empty] at fresh
    exact absurd order (Nat.not_le.mpr fresh)

/-- A service with both dependencies and a cache lifetime in seconds. -/
def fullService (cacheTtlSecs : Nat) : HealthService := ⟨cacheTtlSecs, fun _ => true, true⟩

/-- One live check probes both dependencies at the instant one. -/
def liveEvents : List Event :=
  [.begin 0, .readCache 0 .database 0, .readCache 0 .upstream 0, .probed 0 .database true 1,
    .probed 0 .upstream true 1, .writeCache 0 .database 1, .writeCache 0 .upstream 1,
    .respond 0 true 1]

theorem readiness_reports_fresh_example :
    ∃ world, (readinessSystem (fullService 5)).run (World.initial 0) liveEvents = some world ∧
      ReportsFresh (fullService 5) liveEvents world := by
  refine ⟨_, rfl, (readiness_reports_fresh (fullService 5) 0 liveEvents _ rfl ?_).1⟩
  refine ⟨trivial, ?_⟩
  rintro _ ⟨⟩
  refine ⟨by rintro _ ⟨⟩ ⟨⟩, ?_⟩
  rintro _ ⟨⟩
  refine ⟨by rintro _ ⟨⟩ ⟨⟩, ?_⟩
  rintro _ ⟨⟩
  refine ⟨trivial, ?_⟩
  rintro _ ⟨⟩
  refine ⟨trivial, ?_⟩
  rintro _ ⟨⟩
  refine ⟨trivial, ?_⟩
  rintro _ ⟨⟩
  refine ⟨trivial, ?_⟩
  rintro _ ⟨⟩
  exact ⟨trivial, fun _ _ => trivial⟩

/-- A check of the draining service reads the caches ninety-eight seconds later. -/
def drainingEvents : List Event :=
  liveEvents ++ [.markDraining 2, .begin 2, .readCache 1 .database 100000000000,
    .readCache 1 .upstream 100000000000, .respond 1 true 100000000000]

/-- A draining check reports a success that is older than the lifetime of its cache. -/
theorem readiness_reports_stale :
    ¬∀ (service : HealthService) (start : Instant) (events : List Event) (world : World),
      (readinessSystem service).run (World.initial start) events = some world →
      ReportsFresh service events world ∧
        (service.cacheTtlSecs = 0 → ReportsLive events world) := by
  intro always
  have justified := (always (fullService 5) 0 drainingEvents _ rfl).1 1 _
    (List.mem_append_right _ (List.mem_singleton.mpr rfl)) .database rfl
  rcases justified with ⟨now, probed⟩ | ⟨other, succeededAt, readAt, probed, read, order, fresh⟩
  · simp [drainingEvents, liveEvents] at probed
  · have early : other = 0 ∧ succeededAt = 1 := by
      simpa [drainingEvents, liveEvents] using probed
    have late : readAt = 100000000000 := by simpa [drainingEvents, liveEvents] using read
    rw [early.2, late] at fresh
    exact absurd fresh (by decide)

end Opmux.Health
