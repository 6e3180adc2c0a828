import LayerMessaging.Proofs.Command.ReportedChain
import LayerMessaging.Proofs.Deploy.ArtifactPath

namespace LayerMessaging

open Rpc

namespace Rpc.Client

variable {client : Client} {network : Network} {es : List Exchange}

theorem Identified.reportedChain?_eq {result : Except ChainError Nat}
    (h : client.Identified network es result) {e : Exchange} (he : e ∈ es) {actual : Nat}
    (hactual : e.value? .chainId (quantity? (Bytes.limit 8)) = some actual) :
    reportedChain? es = some actual := by
  cases h with
  | unknown h | other h | known h => exact h.firstValue?_of_value? he hactual

theorem Identified.mismatch {result : Except ChainError Nat} {expected actual : Nat}
    (h : client.Identified network es result) (hexpected : client.settings.chainId = some expected)
    (hreported : reportedChain? es = some actual) (hne : actual ≠ expected) :
    result = .error (.chainMismatch expected actual) := by
  cases result with
  | ok actual' =>
    obtain ⟨hreported', hexpected'⟩ := h.ok_inv
    rw [hreported] at hreported'
    cases hreported'
    exact absurd (hexpected' expected hexpected) hne
  | error error =>
    obtain ⟨expected', hexpected', rfl⟩ := h.error_inv hreported
    rw [hexpected] at hexpected'
    cases hexpected'
    rfl

theorem Identified.mismatch_inv {expected actual : Nat}
    (h : client.Identified network es (.error (.chainMismatch expected actual))) :
    client.settings.chainId = some expected ∧ reportedChain? es = some actual ∧
      actual ≠ expected := by
  cases h with
  | unknown h => cases h
  | other h hexpected hne => exact ⟨hexpected, h.firstValue?_eq, hne⟩

theorem Identified.error_of_unreported {error : ChainError}
    (h : client.Identified network es (.error error))
    (hne : ∀ expected actual, error ≠ .chainMismatch expected actual) :
    reportedChain? es = none := by
  cases h with
  | unknown h => exact h.firstValue?_eq
  | other => exact absurd rfl (hne _ _)

end Rpc.Client

theorem Artifact.artifactPath_of_report {artifact : Artifact} {name : Option String}
    {path : String} {report : DeploymentReport} (h : artifact.report name path = .ok report) :
    report.artifactPath = path := by
  unfold Artifact.report at h
  split at h <;> cases h
  rfl

section

variable {ε α : Type} {result : Except ε α}

theorem map_some_eq_ok_iff {a : α} : result.map some = .ok (some a) ↔ result = .ok a := by
  cases result <;> simp [Except.map]

theorem map_some_ne_ok_none : result.map some ≠ .ok none := by
  cases result <;> simp [Except.map]

theorem map_some_eq_error_iff {e : ε} : result.map some = .error e ↔ result = .error e := by
  cases result <;> simp [Except.map]

end

namespace DeploySettings

/-- The report is that of the record at a path: its text is one, and says so. -/
def Records (settings : DeploySettings) (files : Files) (path : String)
    (report : DeploymentReport) : Prop :=
  ∃ content artifact, files.readText path = .ok content ∧
    Json.Reader.ofText Artifact.reader content = .ok artifact ∧
    artifact.report settings.contractName path = .ok report ∧ report.artifactPath = path

variable {settings : DeploySettings} {files : Files}

theorem readReport_inv {chainId : Nat} {report : DeploymentReport}
    (h : settings.readReport files chainId = .ok report) :
    settings.Records files (settings.artifactPath chainId) report := by
  unfold readReport at h
  dsimp only at h
  cases hload : Artifact.load files (settings.artifactPath chainId) with
  | error error =>
    rw [hload] at h
    cases h
  | ok artifact =>
    rw [hload] at h
    have hreport : artifact.report settings.contractName (settings.artifactPath chainId) =
        .ok report := h
    unfold Artifact.load at hload
    split at hload
    · cases hload
    · split at hload <;> cases hload
      exact ⟨_, artifact, ‹_›, ‹_›, hreport, Artifact.artifactPath_of_report hreport⟩

theorem outcome_ended {code : Option Int} (hcode : code ≠ some 0) (chainId seconds : Nat)
    (files : Files) :
    settings.outcome chainId (.ended code seconds files) =
      .error (.toolFailed settings.tool code) :=
  if_neg hcode

theorem outcome_ended_zero (chainId seconds : Nat) (files : Files) :
    settings.outcome chainId (.ended (some 0) seconds files) =
      (settings.readReport files chainId).map some := by
  unfold outcome
  exact if_pos rfl

/-- There is a report only of a run that succeeded. -/
theorem outcome_ok_some_inv {chainId : Nat} {run : ToolRun} {report : DeploymentReport}
    (h : settings.outcome chainId run = .ok (some report)) :
    ∃ seconds files, run = .ended (some 0) seconds files ∧
      settings.readReport files chainId = .ok report := by
  cases run with
  | notStarted | endless => cases h
  | ended code seconds files =>
    by_cases hcode : code = some 0
    · subst hcode
      rw [outcome_ended_zero, map_some_eq_ok_iff] at h
      exact ⟨seconds, files, rfl, h⟩
    · rw [outcome_ended hcode] at h
      cases h

/-- There is neither a report nor a failure of a run that never ends, and of no other. -/
theorem outcome_ok_none_iff {chainId : Nat} {run : ToolRun} :
    settings.outcome chainId run = .ok none ↔ run = .endless := by
  cases run with
  | notStarted => exact ⟨nofun, nofun⟩
  | endless => exact ⟨fun _ => rfl, fun _ => rfl⟩
  | ended code seconds files =>
    refine iff_of_false (fun h => ?_) nofun
    by_cases hcode : code = some 0
    · subst hcode
      rw [outcome_ended_zero] at h
      exact map_some_ne_ok_none h
    · rw [outcome_ended hcode] at h
      cases h

end DeploySettings

namespace Command

variable {network : Network} {toolbox : Toolbox} {settings : Settings} {config : Config}
  {endpoint : Endpoint} {es : List Exchange} {calls : List ToolCall}
  {result : Except Failure (Option DeploymentReport)}

/-- The chain of a deployment: the one that is reported, or else the expected one, or else that of
local development. -/
def chainOf (expected? : Option Nat) (es : List Exchange) : Nat :=
  ((reportedChain? es).or expected?).getD Config.defaultChainId

/-- What looking for the chain of a deployment comes to. Only a mismatch ends the deployment. -/
inductive Sought (network : Network) (client : Client) :
    List Exchange → Except Failure Nat → Prop
  | other {es : List Exchange} {expected actual : Nat}
      (h : client.Identified network es (.error (.chainMismatch expected actual))) :
      Sought network client es (.error (.chain (.chainMismatch expected actual)))
  | chain {es : List Exchange} {found : Except ChainError Nat}
      (h : client.Identified network es found)
      (hfound : ∀ expected actual, found ≠ .error (.chainMismatch expected actual)) :
      Sought network client es (.ok (chainOf client.settings.chainId es))

theorem Sought.exists_run (network : Network) (client : Client) (scene : Scene) :
    ∃ es result world,
      (deploymentChain network client.settings client).run scene = (result, { scene with world }) ∧
        world.trace = scene.world.trace ++ es ∧ Sought network client es result := by
  obtain ⟨es, htrace, h⟩ := client.leaves_verifyChainId network scene.world
  refine ⟨es, ?_⟩
  have hattempt : (attempt (client.verifyChainId network)).run scene =
      (.ok ((client.verifyChainId network).run scene.world).1,
        { scene with world := ((client.verifyChainId network).run scene.world).2 }) := rfl
  unfold deploymentChain
  rw [run_bind_of_ok hattempt]
  cases hfound : ((client.verifyChainId network).run scene.world).1 with
  | ok actual =>
    rw [hfound] at h
    have hchain : chainOf client.settings.chainId es = actual := by
      rw [chainOf, h.ok_inv.1, Option.some_or, Option.getD_some]
    refine ⟨_, _, rfl, htrace, ?_⟩
    have hsought : Sought network client es (.ok (chainOf client.settings.chainId es)) :=
      .chain h (by simp)
    rwa [hchain] at hsought
  | error error =>
    rw [hfound] at h
    by_cases hmismatch : ∃ expected actual, error = .chainMismatch expected actual
    · obtain ⟨expected, actual, rfl⟩ := hmismatch
      exact ⟨_, _, rfl, htrace, .other h⟩
    · have hne : ∀ expected actual, error ≠ .chainMismatch expected actual :=
        fun expected actual heq => hmismatch ⟨expected, actual, heq⟩
      have hchain : chainOf client.settings.chainId es =
          client.settings.chainId.getD Config.defaultChainId := by
        rw [chainOf, h.error_of_unreported hne, Option.none_or]
      refine ⟨.ok (chainOf client.settings.chainId es), _, ?_, htrace,
        .chain h (by simpa using hne)⟩
      rw [hchain]
      cases error with
      | chainMismatch expected actual => exact absurd rfl (hne expected actual)
      | _ => rfl

def reported (settings : DeploySettings) (chainId : Nat) (run : ToolRun) :
    Except Failure (Option DeploymentReport) :=
  (settings.outcome chainId run).mapError .deploy

theorem reported_eq_ok_iff {settings : DeploySettings} {chainId : Nat} {run : ToolRun}
    {report? : Option DeploymentReport} :
    reported settings chainId run = .ok report? ↔ settings.outcome chainId run = .ok report? := by
  unfold reported
  cases settings.outcome chainId run <;> simp [Except.mapError]

/-- What a deployment with an endpoint leaves behind. -/
inductive Deployment (network : Network) (toolbox : Toolbox) (settings : Settings)
    (config : Config) (endpoint : Endpoint) :
    List Exchange → List ToolCall → Except Failure (Option DeploymentReport) → Prop
  | noClient {error : ChainError}
      (h : Client.ofSettings (config.applyTo settings.chain) = .error error) :
      Deployment network toolbox settings config endpoint [] [] (.error (.chain error))
  | otherChain {client : Client} {es : List Exchange} {expected actual : Nat}
      (hclient : client.settings.chainId = config.expectedChain? settings)
      (h : client.Identified network es (.error (.chainMismatch expected actual))) :
      Deployment network toolbox settings config endpoint es []
        (.error (.chain (.chainMismatch expected actual)))
  | run {client : Client} {es : List Exchange} {found : Except ChainError Nat}
      (hclient : client.settings.chainId = config.expectedChain? settings)
      (h : client.Identified network es found)
      (hfound : ∀ expected actual, found ≠ .error (.chainMismatch expected actual)) :
      Deployment network toolbox settings config endpoint es
        [settings.deploy.toolCall endpoint.rpcUrl]
        (reported settings.deploy (chainOf (config.expectedChain? settings) es)
          (toolbox.run (settings.deploy.toolCall endpoint.rpcUrl)))

namespace Deployment

/-- The tool is the last thing that a deployment goes through: with it the time ends. -/
theorem exists_run (network : Network) (toolbox : Toolbox) (settings : Settings)
    (h : config.requireEndpoint = .ok endpoint) (scene : Scene) :
    ∃ es starts result scene',
      (deploy network toolbox settings config).run scene = (result, scene') ∧
      scene'.world.trace = scene.world.trace ++ es ∧ scene'.tools = scene.tools ++ starts ∧
      (∀ start ∈ starts, start.1 + (toolbox.run start.2).seconds = scene'.world.now) ∧
      Deployment network toolbox settings config endpoint es (starts.map Prod.snd) result := by
  unfold deploy
  rw [h]
  have hendpoint : (ofConfig (.ok endpoint)).run scene = (.ok endpoint, scene) := rfl
  rw [run_bind_of_ok hendpoint]
  dsimp only
  cases hofSettings : Client.ofSettings (config.applyTo settings.chain) with
  | error error =>
    refine ⟨[], [], _, scene, rfl, ?_, ?_, List.forall_mem_nil _, .noClient hofSettings⟩
    · rw [List.append_nil]
    · rw [List.append_nil]
  | ok client =>
    obtain ⟨hsettings, -⟩ := Client.ofSettings_inv hofSettings
    have hclient : client.settings.chainId = config.expectedChain? settings := by
      rw [hsettings, Config.applyTo_chainId]
    have hrun : (ofRun Failure.chain (liftM (Except.ok client : Except ChainError Client))).run
        scene = (.ok client, scene) := rfl
    rw [run_bind_of_ok hrun, ← hsettings]
    obtain ⟨es, chain, world, hchain, htrace, hsought⟩ := Sought.exists_run network client scene
    cases hsought with
    | other h =>
      rw [run_bind_of_error hchain]
      exact ⟨es, [], _, _, rfl, htrace, (List.append_nil _).symm, List.forall_mem_nil _,
        .otherChain hclient h⟩
    | chain h hfound =>
      rw [run_bind_of_ok hchain, hclient]
      let call := settings.deploy.toolCall endpoint.rpcUrl
      let started := [(world.now, call)]
      let world' : World := { world with now := world.now + (toolbox.run call).seconds }
      have hstart : (startTool toolbox call).run { scene with world } =
          (.ok (toolbox.run call), ⟨world', scene.tools ++ started⟩) := rfl
      rw [run_bind_of_ok hstart]
      have hlast : ∀ start ∈ started,
          start.1 + (toolbox.run start.2).seconds = world'.now := by
        simp [started, world']
      refine ⟨es, started, _, ⟨world', scene.tools ++ started⟩, ?_, htrace, rfl, hlast,
        .run hclient h hfound⟩
      unfold reported
      cases settings.deploy.outcome _ (toolbox.run call) <;> rfl

theorem call_eq (h : Deployment network toolbox settings config endpoint es calls result) :
    ∀ e ∈ es, e.call = .chainId := by
  cases h with
  | noClient => exact List.forall_mem_nil _
  | otherChain _ h | run _ h => exact h.call_eq

theorem calls_eq (h : Deployment network toolbox settings config endpoint es calls result) :
    calls = [] ∨ calls = [settings.deploy.toolCall endpoint.rpcUrl] := by
  cases h with
  | noClient | otherChain => exact .inl rfl
  | run => exact .inr rfl

/-- A chain that any node reports is the chain of the deployment. -/
theorem chainOf_eq (h : Deployment network toolbox settings config endpoint es calls result)
    {e : Exchange} (he : e ∈ es) {actual : Nat}
    (hactual : e.value? .chainId (quantity? (Bytes.limit 8)) = some actual) :
    chainOf (config.expectedChain? settings) es = actual := by
  have hreported : reportedChain? es = some actual := by
    cases h with
    | noClient => cases he
    | otherChain _ h | run _ h => exact h.reportedChain?_eq he hactual
  rw [chainOf, hreported, Option.some_or, Option.getD_some]

/-- For another chain than the expected one the tool is not started. -/
theorem mismatch (h : Deployment network toolbox settings config endpoint es calls result)
    {e : Exchange} (he : e ∈ es) {expected actual : Nat}
    (hactual : e.value? .chainId (quantity? (Bytes.limit 8)) = some actual)
    (hexpected : config.expectedChain? settings = some expected) (hne : actual ≠ expected) :
    calls = [] ∧ result = .error (.chain (.chainMismatch expected actual)) := by
  cases h with
  | noClient => cases he
  | otherChain hclient h =>
    rw [← hclient] at hexpected
    cases h.mismatch hexpected (h.reportedChain?_eq he hactual) hne
    exact ⟨rfl, rfl⟩
  | run hclient h hfound =>
    rw [← hclient] at hexpected
    exact absurd (h.mismatch hexpected (h.reportedChain?_eq he hactual) hne) (hfound _ _)

/-- The tool is not started for want of a node's URL, or for the wrong chain, and for nothing
else. -/
theorem unstarted (h : Deployment network toolbox settings config endpoint es [] result) :
    (∃ error, Client.ofSettings (config.applyTo settings.chain) = .error error ∧
      result = .error (.chain error)) ∨
    ∃ expected actual, config.expectedChain? settings = some expected ∧
      reportedChain? es = some actual ∧ actual ≠ expected ∧
      result = .error (.chain (.chainMismatch expected actual)) := by
  cases h with
  | noClient h => exact .inl ⟨_, h, rfl⟩
  | otherChain hclient h =>
    obtain ⟨hexpected, hreported, hne⟩ := h.mismatch_inv
    exact .inr ⟨_, _, hclient.symm.trans hexpected, hreported, hne, rfl⟩

/-- What becomes of a deployment once the tool is started, is up to the tool and its files. -/
theorem result_eq {call : ToolCall}
    (h : Deployment network toolbox settings config endpoint es [call] result) :
    result = reported settings.deploy (chainOf (config.expectedChain? settings) es)
      (toolbox.run call) := by
  cases h with
  | run => rfl

/-- A report is read behind a run of the tool that succeeded, and for the expected chain if there is
one. -/
theorem ok_inv {report : DeploymentReport}
    (h : Deployment network toolbox settings config endpoint es calls (.ok (some report))) :
    ∃ seconds files, calls = [settings.deploy.toolCall endpoint.rpcUrl] ∧
      toolbox.run (settings.deploy.toolCall endpoint.rpcUrl) = .ended (some 0) seconds files ∧
      settings.deploy.readReport files (chainOf (config.expectedChain? settings) es) = .ok report ∧
      ∀ expected, config.expectedChain? settings = some expected →
        chainOf (config.expectedChain? settings) es = expected := by
  generalize hresult : Except.ok (some report) = result at h
  cases h with
  | noClient | otherChain => cases hresult
  | @run client es found hclient h hfound =>
    obtain ⟨seconds, files, hrun, hreport⟩ :=
      DeploySettings.outcome_ok_some_inv (reported_eq_ok_iff.mp hresult.symm)
    refine ⟨seconds, files, rfl, hrun, hreport, ?_⟩
    intro expected hexpected
    cases hreported : reportedChain? es with
    | none => rw [chainOf, hreported, hexpected, Option.none_or, Option.getD_some]
    | some actual =>
      rw [chainOf, hreported, Option.some_or, Option.getD_some]
      by_contra hne
      exact hfound _ _ (h.mismatch (hclient.trans hexpected) hreported hne)

end Deployment

/-- What holds of a deployment that asked nodes, started the tool and came to a result, where
`chainId` is the chain whose record counts. -/
structure SoundDeployment (toolbox : Toolbox) (settings : Settings) (config : Config)
    (endpoint : Endpoint) (es : List Exchange) (starts : List (Nat × ToolCall)) (chainId : Nat)
    (result : Except Failure (Option DeploymentReport)) : Prop where
  call_eq : ∀ e ∈ es, e.call = .chainId
  starts_le_one : starts.length ≤ 1
  arguments_eq : ∀ start ∈ starts, start.2.arguments =
    ["script", settings.deploy.script, "--broadcast", "--rpc-url", endpoint.rpcUrl.text]
  mismatch : ∀ e ∈ es, ∀ expected actual,
    e.value? .chainId (quantity? (Bytes.limit 8)) = some actual →
      config.expectedChain? settings = some expected → actual ≠ expected →
        starts = [] ∧ result = .error (.chain (.chainMismatch expected actual))
  /-- Without a mismatch the tool is started, unless there is no node to be asked. -/
  unstarted : starts = [] →
    (∃ error, Client.ofSettings (config.applyTo settings.chain) = .error error ∧
      result = .error (.chain error)) ∨
    ∃ expected actual, config.expectedChain? settings = some expected ∧
      reportedChain? es = some actual ∧ actual ≠ expected ∧
      result = .error (.chain (.chainMismatch expected actual))
  chain_of_answer : ∀ e ∈ es, ∀ actual,
    e.value? .chainId (quantity? (Bytes.limit 8)) = some actual → chainId = actual
  chain_without_answer :
    (∀ e ∈ es, e.value? .chainId (quantity? (Bytes.limit 8)) = none) →
      chainId = (config.expectedChain? settings).getD 31337
  /-- Only of a run that succeeded, the record is read, and that of the chain alone. -/
  report : ∀ report, result = .ok (some report) → ∃ start seconds files, starts = [start] ∧
    toolbox.run start.2 = .ended (some 0) seconds files ∧
    settings.deploy.Records files
      (Artifact.path settings.deploy.projectDir settings.deploy.script chainId) report
  report_of_expected : ∀ report expected, result = .ok (some report) →
    config.expectedChain? settings = some expected → chainId = expected
  /-- The records of other chains are elsewhere. -/
  path_ne : ∀ other, other ≠ chainId →
    Artifact.path settings.deploy.projectDir settings.deploy.script other ≠
      Artifact.path settings.deploy.projectDir settings.deploy.script chainId
  notStarted : ∀ start ∈ starts, ∀ cause, toolbox.run start.2 = .notStarted cause →
    result = .error (.deploy (.notStarted settings.deploy.tool cause))
  ended : ∀ start ∈ starts, ∀ code seconds files,
    toolbox.run start.2 = .ended code seconds files → code ≠ some 0 →
      result = .error (.deploy (.toolFailed settings.deploy.tool code))
  endless_iff : result = .ok none ↔ ∃ start ∈ starts, toolbox.run start.2 = .endless

theorem Deployment.result_of_start {starts : List (Nat × ToolCall)} {start : Nat × ToolCall}
    (h : Deployment network toolbox settings config endpoint es (starts.map Prod.snd) result)
    (hstart : start ∈ starts) :
    result = reported settings.deploy (chainOf (config.expectedChain? settings) es)
      (toolbox.run start.2) := by
  have hmem := List.mem_map_of_mem (f := Prod.snd) hstart
  rcases h.calls_eq with hcalls | hcalls <;> rw [hcalls] at h hmem
  · cases hmem
  · rw [List.mem_singleton.mp hmem]
    exact h.result_eq

/-- A deployment is left open by a tool that never ends, and by nothing else. -/
theorem Deployment.endless_iff {starts : List (Nat × ToolCall)}
    (h : Deployment network toolbox settings config endpoint es (starts.map Prod.snd) result) :
    result = .ok none ↔ ∃ start ∈ starts, toolbox.run start.2 = .endless := by
  have hopen : ∀ start ∈ starts, (result = .ok none ↔ toolbox.run start.2 = .endless) := by
    intro start hstart
    rw [h.result_of_start hstart, reported_eq_ok_iff, DeploySettings.outcome_ok_none_iff]
  cases starts with
  | nil =>
    refine iff_of_false ?_ (by simp)
    rcases h.unstarted with ⟨_, -, hresult⟩ | ⟨_, _, -, -, -, hresult⟩ <;> simp [hresult]
  | cons start starts =>
    refine ⟨fun hresult => ⟨start, List.mem_cons_self, ?_⟩, ?_⟩
    · exact (hopen start List.mem_cons_self).mp hresult
    · rintro ⟨start', hstart', hrun⟩
      exact (hopen start' hstart').mpr hrun

theorem Deployment.sound {starts : List (Nat × ToolCall)}
    (h : Deployment network toolbox settings config endpoint es (starts.map Prod.snd) result) :
    SoundDeployment toolbox settings config endpoint es starts
      (chainOf (config.expectedChain? settings) es) result where
  call_eq := h.call_eq
  starts_le_one := by
    rw [← List.length_map (f := Prod.snd)]
    rcases h.calls_eq with hcalls | hcalls <;> simp [hcalls]
  arguments_eq start hstart := by
    have hmem := List.mem_map_of_mem (f := Prod.snd) hstart
    rcases h.calls_eq with hcalls | hcalls <;> rw [hcalls] at hmem
    · cases hmem
    · rw [List.mem_singleton.mp hmem]
      rfl
  mismatch e he expected actual hactual hexpected hne := by
    obtain ⟨hcalls, hresult⟩ := h.mismatch he hactual hexpected hne
    exact ⟨List.map_eq_nil_iff.mp hcalls, hresult⟩
  unstarted hstarts := by
    subst hstarts
    exact h.unstarted
  chain_of_answer e he actual hactual := h.chainOf_eq he hactual
  chain_without_answer hnone := by
    have hreported : reportedChain? es = none := List.findSome?_eq_none_iff.mpr hnone
    rw [chainOf, hreported, Option.none_or]
    rfl
  report report hresult := by
    subst hresult
    obtain ⟨seconds, files, hcalls, htool, hreport, -⟩ := h.ok_inv
    obtain ⟨start, hstart, hcall⟩ := List.map_eq_singleton_iff.mp hcalls
    exact ⟨start, seconds, files, hstart, hcall ▸ htool, DeploySettings.readReport_inv hreport⟩
  report_of_expected report expected hresult hexpected := by
    subst hresult
    obtain ⟨-, -, -, -, -, hchain⟩ := h.ok_inv
    exact hchain expected hexpected
  path_ne other hne heq := hne (Artifact.path_inj heq)
  notStarted start hstart cause hrun := by
    rw [h.result_of_start hstart, hrun]
    rfl
  ended start hstart code seconds files hrun hcode := by
    rw [h.result_of_start hstart, hrun, reported, DeploySettings.outcome_ended hcode]
    rfl
  endless_iff := h.endless_iff

/-- Deploying is sound. Nothing but the chain is asked for; the tool is started once at most, with
the script and the endpoint's URL, and not for another chain than the expected one; a report is that
of the record of a successful run on the chain that was reported, or else expected, or else that of
local development; and a tool that fails is reported as such, whatever records there are. -/
theorem deploy_sound (network : Network) (toolbox : Toolbox) (settings : Settings)
    (endpoint : Endpoint) (target : Option Target) (scene : Scene) :
    ∃ es starts chainId result scene',
      (deploy network toolbox settings ⟨some endpoint, target⟩).run scene = (result, scene') ∧
        scene'.world.trace = scene.world.trace ++ es ∧ scene'.tools = scene.tools ++ starts ∧
        SoundDeployment toolbox settings ⟨some endpoint, target⟩ endpoint es starts chainId
          result := by
  have hendpoint : Config.requireEndpoint ⟨some endpoint, target⟩ = .ok endpoint := rfl
  obtain ⟨es, starts, result, scene', hrun, htrace, htools, -, h⟩ :=
    Deployment.exists_run network toolbox settings hendpoint scene
  exact ⟨es, starts, _, result, scene', hrun, htrace, htools, h.sound⟩

end Command

end LayerMessaging
