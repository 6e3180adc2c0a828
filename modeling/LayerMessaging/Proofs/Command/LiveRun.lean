import LayerMessaging.Proofs.Submission.Course

namespace LayerMessaging

open Rpc

inductive MessageCommand where
  | send (name : String) (payload : Payload)
  | consume (payload : Payload)

namespace Command

variable {α β : Type}

theorem leaves_ofRun {fail : ChainError → Failure} {run : Run α}
    {P : List Exchange → Except ChainError α → Prop} {R : List Exchange → Except Failure α → Prop}
    (h : Leaves run.run P) (hR : ∀ es result, P es result → R es (result.mapError fail)) :
    Leaves (ofRun fail run).run R := by
  intro scene
  obtain ⟨es, htrace, hes⟩ := h scene.world
  exact ⟨es, htrace, hR es _ hes⟩

theorem andThen_ofRun {fail : ChainError → Failure} {run : Run α} {f : α → Command β}
    {P : List Exchange → Except ChainError α → Prop} {R : List Exchange → Except Failure β → Prop}
    (h : Leaves run.run P) (herror : ∀ es e, P es (.error e) → R es (.error (fail e)))
    (hok : ∀ es a, P es (.ok a) → Leaves (f a).run fun es' b => R (es ++ es') b) :
    Leaves (ofRun fail run >>= f).run R := by
  -- The failure is wrapped, so that the outcome of the run is kept beside what it is wrapped into.
  refine (leaves_ofRun (R := fun es result => ∃ outcome, P es outcome ∧
    result = outcome.mapError fail) h fun es outcome hes => ⟨outcome, hes, rfl⟩).andThen ?_ ?_
  · rintro es _ ⟨_ | _, hes, hresult⟩ <;> cases hresult
    exact herror es _ hes
  · rintro es _ ⟨_ | _, hes, hresult⟩ <;> cases hresult
    exact hok es _ hes

theorem andThen_ofConfig {result : Except ConfigError α} {f : α → Command β}
    {R : List Exchange → Except Failure β → Prop}
    (herror : ∀ e, result = .error e → R [] (.error (.config e)))
    (hok : ∀ a, result = .ok a → Leaves (f a).run R) : Leaves (ofConfig result >>= f).run R := by
  cases result with
  | error e => exact .pure (herror e rfl)
  | ok a => exact hok a rfl

inductive Submitting (network : Network) (settings : Settings) (config : Config)
    (message : Message) : List Exchange → Except Failure Submission → Prop
  | noEndpoint {error : ConfigError} (h : config.requireEndpoint = .error error) :
      Submitting network settings config message [] (.error (.config error))
  | notConnected {endpoint : Endpoint} {es : List Exchange} {error : ChainError}
      (hendpoint : config.requireEndpoint = .ok endpoint)
      (h : Submitter.Connection network (config.applyTo settings.chain) endpoint es
        (.error error)) :
      Submitting network settings config message es (.error (.chain error))
  | connected {endpoint : Endpoint} {es es' : List Exchange} {s : Submitter}
      {result : Except ChainError Submission}
      (hendpoint : config.requireEndpoint = .ok endpoint)
      (hconnected : Submitter.Connection network (config.applyTo settings.chain) endpoint es
        (.ok s))
      (h : s.Course network message.recipient message.value message.calldata es' result) :
      Submitting network settings config message (es ++ es')
        (result.mapError fun e => .messaging (.chain e))

theorem leaves_submit (network : Network) (settings : Settings) (config : Config)
    (message : Message) :
    Leaves (submit network settings config message).run
      (Submitting network settings config message) := by
  refine andThen_ofConfig (fun e h => .noEndpoint h) fun endpoint hendpoint => ?_
  refine andThen_ofRun (Submitter.leaves_connect network _ endpoint)
    (fun es e h => .notConnected hendpoint h) fun es s hconnected => ?_
  exact leaves_ofRun (s.leaves_submit network _ _ _) fun es' result h =>
    .connected hendpoint hconnected h

end Command

namespace MessageCommand

def run (command : MessageCommand) (network : Network) (settings : Settings) (config : Config)
    (dryRun : Bool) : Command Command.Result :=
  match command with
  | .send name payload => Command.send network settings config name payload dryRun
  | .consume payload => Command.consume network settings config payload dryRun

def messageTo (command : MessageCommand) (target : Target) : Except Failure Message :=
  match command with
  | .send name payload =>
    (Message.toSend target name payload).mapError fun fault =>
      .messaging (.invalidSelectorName name fault)
  | .consume payload => .ok (Message.toConsume target payload)

def message (command : MessageCommand) (config : Config) : Except Failure Message :=
  match config.requireTarget with
  | .error error => .error (.config error)
  | .ok target => command.messageTo target

/-- Each command prepares its message before anything else. -/
theorem run_eq (command : MessageCommand) (network : Network) (settings : Settings)
    (config : Config) (dryRun : Bool) :
    command.run network settings config dryRun =
      liftM (command.message config) >>= fun message =>
        Command.finish network settings config message dryRun := by
  cases command with
  | send name payload =>
    unfold run message messageTo Command.send
    cases config.requireTarget with
    | error error => rfl
    | ok target =>
      have ofConfig_bind (f : Target → Command Command.Result) :
          Command.ofConfig (.ok target) >>= f = f target := rfl
      dsimp only
      rw [ofConfig_bind]
      cases Message.toSend target name payload <;> rfl
  | consume payload =>
    unfold run message Command.consume
    cases config.requireTarget <;> rfl

/-- A dry run makes no call, and shows the message. -/
theorem run_dry (command : MessageCommand) (network : Network) (settings : Settings)
    (config : Config) (scene : Scene) :
    command.run network settings config true scene =
      ((command.message config).map .prepared, scene) := by
  rw [run_eq]
  cases command.message config <;> rfl

/-- What a live run leaves behind: nothing is asked before the message is prepared. -/
inductive LiveRun (command : MessageCommand) (network : Network) (settings : Settings)
    (config : Config) : List Exchange → Except Failure Command.Result → Prop
  | unprepared {failure : Failure} (h : command.message config = .error failure) :
      LiveRun command network settings config [] (.error failure)
  | prepared {message : Message} {es : List Exchange} {result : Except Failure Submission}
      (hmessage : command.message config = .ok message)
      (h : Command.Submitting network settings config message es result) :
      LiveRun command network settings config es (result.map .submitted)

theorem leaves_run_live (command : MessageCommand) (network : Network) (settings : Settings)
    (config : Config) :
    Leaves (command.run network settings config false).run
      (LiveRun command network settings config) := by
  rw [run_eq]
  refine .andThen_except (fun failure h => .unprepared h) fun message hmessage => ?_
  exact (Command.leaves_submit network settings config message).andThen
    (fun es failure h => .prepared hmessage h)
    fun es submission h => .ok_last (.prepared hmessage h)

end MessageCommand

end LayerMessaging
