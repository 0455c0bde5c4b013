import AggregateStage.Proofs.Program.Independence

/-! The endpoint that is announced and the one that is served. What is announced is what was
configured, and so is what the server says of itself; what is served is what the machine gave
for that. The two differ in the port exactly when any port was asked for. -/
namespace AggregateStage

namespace Net

/-- A machine may give an endpoint to one who asks for another: the same address, and the same
port unless that is 0, which stands for any that is free. -/
structure Endpoint.Grants (asked given : Endpoint) : Prop where
  address : given.address = asked.address
  port : asked.port ≠ 0 → given.port = asked.port
  free : asked.port = 0 → given.port ≠ 0

variable {asked given : Endpoint}

theorem Endpoint.Grants.port_eq_iff (grants : asked.Grants given) :
    asked.port = given.port ↔ asked.port ≠ 0 := by
  constructor
  · intro same any
    exact grants.free any (same ▸ any)
  · intro one
    exact (grants.port one).symm

/-- What a machine gives a listener that it binds is what was asked for. -/
theorem Host.bind_grants {host : Host} {own : List Endpoint} (free : host.freePort ≠ 0)
    (bound : host.bind own asked = .ok given) : asked.Grants given := by
  unfold Host.bind at bound
  split at bound
  · contradiction
  · split at bound
    · next any =>
      cases bound
      exact ⟨rfl, fun one => absurd any one, fun _ => free⟩
    · next one =>
      split at bound
      · contradiction
      · cases bound
        exact ⟨rfl, fun _ => rfl, fun any => absurd any one⟩

end Net

namespace Server

variable {s after : Server} {start : Nat} {phase next : Phase} {step : Step}

/-- A server whose only start is in a phase has bound one listener at most: the one that the
start holds, and the one that is published. -/
structure OneListener (s : Server) (phase : Phase) : Prop where
  unbound : phase = .describing ∨ phase = .binding → s.listeners = []
  one : s.listeners.length ≤ 1
  held : ∀ listener, phase.listener? = some listener → listener ∈ s.listeners
  published : ∀ listener, s.published = some listener → listener ∈ s.listeners

theorem OneListener.eq_singleton (one : s.OneListener phase) {listener : Net.Endpoint}
    (bound : listener ∈ s.listeners) : s.listeners = [listener] := by
  have length := List.length_pos_of_mem bound
  obtain ⟨only, same⟩ := List.length_eq_one_iff.mp (Nat.le_antisymm one.one length)
  rw [same] at bound ⊢
  rw [List.mem_singleton.mp bound]

theorem create_oneListener (options : Options) :
    ((create options).act .start).OneListener .describing :=
  ⟨fun _ => rfl, Nat.zero_le 1, by simp [Phase.listener?], by simp [create, act]⟩

theorem Turn.oneListener (turn : s.Turn start phase step next after)
    (one : s.OneListener phase) : after.OneListener next := by
  obtain ⟨unbound, one, held, published⟩ := one
  cases turn with
  | idle => exact ⟨unbound, one, held, published⟩
  | describe =>
    exact ⟨fun _ => unbound (.inl rfl), one, by simp [Phase.listener?], published⟩
  | bind =>
    have none := unbound (.inr rfl)
    refine ⟨by simp, by simp [none], ?_, ?_⟩
    · rintro listener ⟨⟩
      exact List.mem_append_right _ (List.mem_singleton.mpr rfl)
    · intro listener told
      exact List.mem_append_left _ (published listener told)
  | publish =>
    refine ⟨by simp, one, held, ?_⟩
    rintro listener ⟨⟩
    exact held _ rfl
  | raise | serve => exact ⟨by simp, one, held, published⟩
  | withdraw => exact ⟨by simp, one, by simp [Phase.listener?], by simp⟩
  | undescribed | refuse | finish | fail | lower | report | drop =>
    exact ⟨by simp, one, by simp [Phase.listener?], published⟩

theorem OneListener.stop (one : s.OneListener phase) : s.stop.1.OneListener phase := by
  obtain ⟨unbound, one, held, published⟩ := one
  rcases s.stop_cases with ⟨_, stopped⟩ | ⟨_, stopped⟩
  all_goals
    rw [stopped]
    exact ⟨unbound, one, held, published⟩

/-- A server is configured once. -/
theorem Turn.options (turn : s.Turn start phase step next after) : after.options = s.options := by
  cases turn <;> rfl

theorem stop_options (s : Server) : s.stop.1.options = s.options := by
  rcases s.stop_cases with ⟨_, stopped⟩ | ⟨_, stopped⟩ <;> rw [stopped]

end Server

namespace Program

variable {p after : Program} {action : Action}

/-- What a step of a run does to its server. -/
theorem Step.server (step : p.Step action after) :
    after.server = p.server ∨ after.server = p.server.stop.1 ∨
    ∃ move, after.server = p.server.act (.step 0 move) := by
  cases step with
  | stop | failStop => exact .inr (.inl rfl)
  | serve => exact .inr (.inr ⟨_, rfl⟩)
  | _ => exact .inl rfl

theorem Step.settings (step : p.Step action after) : after.settings = p.settings := by
  cases step <;> rfl

/-- A run that serves at the endpoint of its settings, on one listener at most. -/
structure Served (p : Program) : Prop where
  asked : p.settings.endpoint = .ok p.server.address
  listener : ∃ phase, p.server.Single phase ∧ p.server.OneListener phase

theorem launch_served {settings : Settings} {endpoint : Net.Endpoint}
    (found : settings.endpoint = .ok endpoint) : (launch settings endpoint).Served where
  asked := found
  listener := ⟨.describing, Server.single_create _, Server.create_oneListener _⟩

theorem Step.served (step : p.Step action after) (served : p.Served) : after.Served := by
  obtain ⟨asked, phase, single, one⟩ := served
  have moved {server : Server} (same : after.server = server)
      (options : server.options = p.server.options)
      (listener : ∃ phase, server.Single phase ∧ server.OneListener phase) : after.Served := by
    refine ⟨?_, same ▸ listener⟩
    rw [step.settings, asked, Server.address, Server.address, same, options]
  rcases step.server with same | same | ⟨move, same⟩
  · exact moved same rfl ⟨phase, single, one⟩
  · exact moved same p.server.stop_options ⟨phase, single.stop, one.stop⟩
  · obtain ⟨next, turn⟩ := Server.step_turn single.found move
    exact moved same turn.options ⟨next, turn.inTurn single, turn.oneListener one⟩

theorem run_served {settings : Settings} {endpoint : Net.Endpoint}
    (found : settings.endpoint = .ok endpoint) (schedule : List Action) :
    ((launch settings endpoint).execute schedule).Served :=
  execute_invariant (fun served step => step.served served) (launch_served found) schedule

/-- A server that runs has a listener. -/
theorem Served.running (served : p.Served) (running : p.server.running = true) :
    ∃ listener, p.server.listeners = [listener] := by
  obtain ⟨phase, single, one⟩ := served.listener
  have bound : p.server.listeners ≠ [] := by
    rw [single.running] at running
    exact single.bound (Server.Phase.hasBound_of_isRunning running)
  obtain ⟨listener, member⟩ := List.exists_mem_of_ne_nil _ bound
  exact ⟨listener, one.eq_singleton member⟩

/-- A host that is an address denotes it as it is written. -/
theorem host_of_endpoint {settings : Settings} {endpoint : Net.Endpoint}
    (found : settings.endpoint = .ok endpoint) :
    Net.Address.parse? settings.server.host = some endpoint.address ∧
      settings.server.port = endpoint.port := by
  unfold Settings.endpoint at found
  cases address : Net.Address.parse? settings.server.host with
  | none => simp [address] at found
  | some value =>
    rw [address] at found
    cases found
    exact ⟨rfl, rfl⟩

theorem run_eq_ok {settings : Settings} {arguments : Arguments}
    {environment : List (String × String)} {file : Option String} {address : Net.Address}
    (loaded : Settings.load environment file = .ok settings)
    (parsed : Net.Address.parse? (settings.withArguments arguments).server.host = some address)
    (schedule : List Action) : run arguments environment file schedule =
      .ok ((launch (settings.withArguments arguments)
        ⟨address, (settings.withArguments arguments).server.port⟩).execute schedule) := by
  simp only [run, start, loaded, Settings.endpoint, parsed, Except.map]

/-- Whatever is announced has been listened on. -/
theorem Invariant.announced (valid : p.Invariant) {r : Broker.Registration}
    (sent : .register r ∈ p.sent) :
    p.server.listeners ≠ [] ∧ .register r = p.registration := by
  have called := valid.registers r sent
  refine ⟨valid.listened ?_, ?_⟩
  · cases announcement : p.announcement <;>
      simp_all [Announcement.mayHaveCalled, Announcement.hasLooked]
  · rcases valid.sent _ sent with same | same
    · exact same
    · cases same

/-- A run announces, and its server says of itself while it runs, the address on which it
listens; and the port on which it listens if and only if a port was asked for. -/
theorem announced_port_is_served_iff (arguments : Arguments)
    (environment : List (String × String)) (file : Option String) (schedule : List Action)
    (p : Program) (course : run arguments environment file schedule = .ok p)
    (granted : ∀ listener ∈ p.server.listeners, p.server.address.Grants listener) :
    (∀ r, .register r ∈ p.sent → ∃ listener, p.server.listeners = [listener] ∧
      Net.Address.parse? r.url = some listener.address ∧
      (r.port = listener.port ↔ p.settings.server.port ≠ 0)) ∧
    (p.server.running = true → ∃ listener, p.server.listeners = [listener] ∧
      p.server.address.address = listener.address ∧
      (p.server.address.port = listener.port ↔ p.settings.server.port ≠ 0)) ∧
    ∀ listener, p.server.published = some listener → p.server.listeners = [listener] := by
  cases started : (start arguments environment file).2 with
  | error fault => simp [run, started, Except.map] at course
  | ok first =>
    obtain ⟨settings, endpoint, _, found, rfl⟩ := start_eq_ok started
    obtain rfl : (launch (settings.withArguments arguments) endpoint).execute schedule = p := by
      simpa [run, started, Except.map] using course
    generalize reached : (launch (settings.withArguments arguments) endpoint).execute schedule = p
      at granted
    have valid : p.Invariant := reached ▸ run_invariant _ endpoint schedule
    have served : p.Served := reached ▸ run_served found schedule
    obtain ⟨phase, single, one⟩ := served.listener
    obtain ⟨host, port⟩ := host_of_endpoint served.asked
    refine ⟨?_, ?_, fun listener told => one.eq_singleton (one.published listener told)⟩
    · intro r sent
      obtain ⟨bound, same⟩ := valid.announced sent
      obtain ⟨listener, member⟩ := List.exists_mem_of_ne_nil _ bound
      cases same
      have grants := granted listener member
      refine ⟨listener, one.eq_singleton member, ?_, ?_⟩
      · rw [host, grants.address]
      · rw [port]
        exact grants.port_eq_iff
    · intro running
      obtain ⟨listener, only⟩ := served.running running
      have grants := granted listener (by simp [only])
      refine ⟨listener, only, grants.address.symm, ?_⟩
      rw [port]
      exact grants.port_eq_iff

/-- The host need not be written as the machine would write it. -/
theorem announced_port_is_served_as_configured :
    let arguments := { Arguments.none with host := some "0:0::1", port := some 7004 }
    let asked : Net.Endpoint := ⟨.v6 #v[0, 0, 0, 0, 0, 0, 0, 1], 7004⟩
    let schedule : List Action := [.wait, .serve (.describe none), .serve (.bind asked),
      .serve .advance, .serve .advance, .serve .advance, .look, .announce true]
    let p := (launch (Settings.default.withArguments arguments) asked).execute schedule
    run arguments [] none schedule = .ok p ∧
    (∀ listener ∈ p.server.listeners, p.server.address.Grants listener) ∧
    ∃ r listener, .register r ∈ p.sent ∧ r.url = "0:0::1" ∧ p.server.listeners = [listener] ∧
      Net.Address.parse? r.url = some listener.address ∧ r.port = listener.port := by
  intro arguments asked schedule p
  have loaded : Settings.load [] none = .ok .default := by rfl
  have course : run arguments [] none schedule = .ok p :=
    run_eq_ok loaded (by decide +kernel) schedule
  have bound : p.server.listeners = [asked] := by decide +kernel
  have address : p.server.address = asked := by decide +kernel
  have granted : ∀ listener ∈ p.server.listeners, p.server.address.Grants listener := by
    rw [bound, address]
    intro listener member
    obtain rfl := List.mem_singleton.mp member
    have given : Net.Host.bind ⟨Net.Address.isCommon, 49152, []⟩ [] asked = .ok asked := by rfl
    exact Net.Host.bind_grants (by decide) given
  have sent : .register ⟨p.interface, "0:0::1", 7004⟩ ∈ p.sent := by decide +kernel
  obtain ⟨announced, _, _⟩ := announced_port_is_served_iff arguments [] none schedule p course granted
  obtain ⟨listener, only, denoted, same⟩ := announced _ sent
  exact ⟨course, granted, _, listener, sent, rfl, only, denoted, same.mpr (by decide)⟩

/-- When any port will do, port 0 is announced, which is not the one that is served; and the
server says of itself that it is at port 0. -/
theorem port_zero_announced :
    let arguments := { Arguments.none with port := some 0 }
    let listener : Net.Endpoint := ⟨.v4 127 0 0 1, 49152⟩
    let schedule : List Action := [.wait, .serve (.describe none), .serve (.bind listener),
      .serve .advance, .serve .advance, .serve .advance, .look, .announce true]
    let p := (launch (Settings.default.withArguments arguments) ⟨.v4 127 0 0 1, 0⟩).execute schedule
    run arguments [] none schedule = .ok p ∧ p.server.address.Grants listener ∧
    p.server.running = true ∧ p.server.listeners = [listener] ∧
    p.server.address.port ≠ listener.port ∧
    ∃ r, .register r ∈ p.sent ∧ r.port ≠ listener.port := by
  intro arguments listener schedule p
  have loaded : Settings.load [] none = .ok .default := by rfl
  have asked : p.server.address = ⟨.v4 127 0 0 1, 0⟩ := by decide +kernel
  have grants : p.server.address.Grants listener := by
    rw [asked]
    exact ⟨rfl, fun one => absurd rfl one, fun _ => by decide⟩
  refine ⟨run_eq_ok loaded (by decide +kernel) schedule, grants, by decide +kernel,
    by decide +kernel, by rw [asked]; decide, ⟨p.interface, "127.0.0.1", 0⟩, by decide +kernel,
    by decide⟩

end Program

end AggregateStage
